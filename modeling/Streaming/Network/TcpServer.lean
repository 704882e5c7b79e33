import Mathlib.Logic.Function.Basic
import Streaming.Foundation.Run

/-!
# Accepting connections

The two servers share the threads of `main`.  An accept handler begins the next
`async_accept` where it ends.  An exception that leaves a handler also leaves
`io_context.run()`, and the catch block behind it restarts both servers.
-/

namespace Streaming
namespace Network

open Foundation

structure TcpServer where
  isOpen : Bool := true
  /-- How many calls of `async_accept` have not completed. -/
  pending : Nat := 0
  /-- How many accept handlers run. -/
  running : Nat := 0

namespace TcpServer

def doAccept (s : TcpServer) : TcpServer :=
  if s.isOpen then { s with pending := s.pending + 1 } else s

def restart (s : TcpServer) : TcpServer :=
  s.doAccept

/-- An `async_accept` completes, well or with an error. -/
def complete (s : TcpServer) : Option TcpServer :=
  if 0 < s.pending then
    some { s with pending := s.pending - 1, running := s.running + 1 }
  else
    none

/-- The accept handler leaves, by its end or with an exception. -/
def leave (s : TcpServer) : Option TcpServer :=
  if 0 < s.running then some { s with running := s.running - 1 } else none

/-- The accept handler ends: at once when the acceptor is closed, and else with
the next `do_accept`. -/
def finish (s : TcpServer) : Option TcpServer :=
  s.leave.map doAccept

/-- What the signal handler does to the acceptor. -/
def close (s : TcpServer) : TcpServer :=
  { s with isOpen := false }

end TcpServer

inductive Listening where
  | rtmpserver
  | httpserver
deriving DecidableEq

inductive AcceptEvent where
  | completes (s : Listening)
  | finishes (s : Listening)
  | throws (s : Listening)
  | sessionThrows
  | signalled (s : Listening)

abbrev Servers := Listening -> TcpServer

namespace Servers

/-- Both servers have been started. -/
def start : Servers := fun _ => ({} : TcpServer).doAccept

/-- The catch block of `main`. -/
def recover (w : Servers) : Servers := fun s => (w s).restart

def step (w : Servers) : AcceptEvent -> Option Servers
  | .completes s => (w s).complete.map fun t => Function.update w s t
  | .finishes s => (w s).finish.map fun t => Function.update w s t
  | .throws s => (w s).leave.map fun t => recover (Function.update w s t)
  | .sessionThrows => some w.recover
  | .signalled s => some (Function.update w s (w s).close)

/-- A server that listens and runs no accept handler waits for one client. -/
def OneAccept (w : Servers) : Prop :=
  forall s, (w s).isOpen = true -> (w s).running = 0 -> (w s).pending = 1

/-- No exception, and no signal. -/
def Quiet : AcceptEvent -> Prop
  | .completes _ => True
  | .finishes _ => True
  | _ => False

/-- However the run goes on behind any part of it, without more exceptions,
every listening server waits for one client. -/
def KeepsOneAccept (es : List AcceptEvent) : Prop :=
  forall front back more w, es = front ++ back ->
    (forall e, e ∈ more -> Quiet e) ->
      run step start (front ++ more) = some w -> w.OneAccept

/-- No exception leaves a handler, unless no other server than the one whose
accept handler threw listens any more. -/
def Contained (w : Servers) : AcceptEvent -> Prop
  | .throws s => 0 < (w s).running ->
      forall t, t ≠ s -> (w t).isOpen = false
  | .sessionThrows => forall t, (w t).isOpen = false
  | _ => True

/-!
## One server
-/

end Servers

namespace TcpServer

/-- What a listening server waits for and what it handles is one client. -/
def Single (s : TcpServer) : Prop :=
  s.isOpen = true -> s.pending + s.running = 1

theorem complete_single {s t : TcpServer} (hs : s.Single)
    (h : s.complete = some t) : t.Single := by
  intro hopen
  unfold complete at h
  split at h
  next hpending =>
    cases h
    have hsum := hs hopen
    simp only
    omega
  next => cases h

theorem leave_doAccept_single {s t : TcpServer} (hs : s.Single)
    (h : s.leave = some t) : t.doAccept.Single := by
  unfold leave at h
  split at h
  next hrunning =>
    cases h
    unfold doAccept
    split
    next hopen =>
      intro _
      have hsum := hs hopen
      simp only
      omega
    next hclosed => exact fun hopen => absurd hopen hclosed
  next => cases h

theorem finish_single {s t : TcpServer} (hs : s.Single)
    (h : s.finish = some t) : t.Single := by
  rcases Option.map_eq_some_iff.mp h with ⟨u, hu, rfl⟩
  exact leave_doAccept_single hs hu

theorem doAccept_closed {s : TcpServer} (hs : s.isOpen = false) :
    s.doAccept = s :=
  if_neg (by rw [hs]; exact Bool.false_ne_true)

/-- A second `async_accept`, from outside the server's own accept handler. -/
def Doubled (s : TcpServer) : Prop :=
  s.isOpen = true ∧ s.pending + s.running = 2

theorem restart_doubled {s : TcpServer} (hs : s.Single)
    (hopen : s.isOpen = true) : s.restart.Doubled := by
  have hsum := hs hopen
  unfold restart doAccept Doubled
  rw [if_pos hopen]
  constructor
  · exact hopen
  · simp only
    omega

end TcpServer

namespace Servers

/-!
## Runs
-/

def AllSingle (w : Servers) : Prop :=
  forall s, (w s).Single

theorem AllSingle.oneAccept {w : Servers} (hw : w.AllSingle) :
    w.OneAccept := by
  intro s hopen hrunning
  have hsum := hw s hopen
  omega

theorem start_single : AllSingle start :=
  fun _ _ => rfl

theorem AllSingle.update {w : Servers} {s : Listening} {t : TcpServer}
    (hw : w.AllSingle) (ht : t.Single) : AllSingle (Function.update w s t) := by
  intro u
  by_cases hu : u = s
  · rw [hu, Function.update_self]
    exact ht
  · rw [Function.update_of_ne hu]
    exact hw u

theorem step_single {w w' : Servers} {e : AcceptEvent} (hw : w.AllSingle)
    (he : w.Contained e) (h : w.step e = some w') : w'.AllSingle := by
  cases e with
  | completes s =>
      rcases Option.map_eq_some_iff.mp h with ⟨t, ht, rfl⟩
      exact hw.update (TcpServer.complete_single (hw s) ht)
  | finishes s =>
      rcases Option.map_eq_some_iff.mp h with ⟨t, ht, rfl⟩
      exact hw.update (TcpServer.finish_single (hw s) ht)
  | throws s =>
      rcases Option.map_eq_some_iff.mp h with ⟨t, ht, rfl⟩
      intro u
      unfold recover TcpServer.restart
      by_cases hu : u = s
      · rw [hu, Function.update_self]
        exact TcpServer.leave_doAccept_single (hw s) ht
      · have hrunning : 0 < (w s).running := by
          by_contra hnone
          simp [TcpServer.leave, hnone] at ht
        rw [Function.update_of_ne hu,
          TcpServer.doAccept_closed (he hrunning u hu)]
        exact hw u
  | sessionThrows =>
      cases h
      intro u
      unfold recover TcpServer.restart
      rw [TcpServer.doAccept_closed (he u)]
      exact hw u
  | signalled s =>
      cases h
      exact hw.update fun hopen => nomatch hopen

/-!
## Two accepts stay two
-/

theorem doubled_finish {w : Servers} {s : Listening} (hw : (w s).Doubled)
    (hrunning : 0 < (w s).running) :
    exists w', w.step (.finishes s) = some w' ∧ (w' s).Doubled ∧
      (w' s).running = (w s).running - 1 := by
  rcases hw with ⟨hopen, hsum⟩
  refine ⟨Function.update w s { (w s) with
    pending := (w s).pending + 1, running := (w s).running - 1 }, ?_, ?_, ?_⟩
  · simp [step, TcpServer.finish, TcpServer.leave, TcpServer.doAccept, hrunning,
      hopen]
  · rw [Function.update_self]
    constructor
    · exact hopen
    · simp only
      omega
  · rw [Function.update_self]

/-- Once its handlers have finished the server waits for two clients. -/
theorem doubled_shows {n : Nat} {w : Servers} {s : Listening}
    (hw : (w s).Doubled) (hn : (w s).running = n) :
    exists more w', (forall e, e ∈ more -> Quiet e) ∧
      run step w more = some w' ∧ ¬ w'.OneAccept := by
  induction n generalizing w with
  | zero =>
      refine ⟨[], w, fun _ he => absurd he List.not_mem_nil, rfl, ?_⟩
      intro hone
      have hsum := hw.2
      have hpending := hone s hw.1 hn
      omega
  | succ n ih =>
      rcases doubled_finish hw (by omega) with ⟨t, hstep, ht, hrunning⟩
      rcases ih ht (by omega) with ⟨more, w', hquiet, hrun, hshows⟩
      refine ⟨.finishes s :: more, w', ?_, run_cons.mpr ⟨t, hstep, hrun⟩,
        hshows⟩
      intro e he
      rcases List.mem_cons.mp he with rfl | he
      · trivial
      · exact hquiet e he

/-- However the run goes on without exceptions. -/
def Lasts (w : Servers) : Prop :=
  forall more w', (forall e, e ∈ more -> Quiet e) ->
    run step w more = some w' -> w'.OneAccept

theorem Lasts.not_doubled {w : Servers} (hw : w.Lasts) (s : Listening) :
    ¬ (w s).Doubled := by
  intro hs
  rcases doubled_shows hs rfl with ⟨more, w', hquiet, hrun, hshows⟩
  exact hshows (hw more w' hquiet hrun)

theorem contained_of_lasts {w w' : Servers} {e : AcceptEvent}
    (hw : w.AllSingle) (h : w.step e = some w') (hlasts : w'.Lasts) :
    w.Contained e := by
  cases e with
  | throws s =>
      intro _ t ht
      rcases Option.map_eq_some_iff.mp h with ⟨left, hleft, rfl⟩
      by_contra hopen
      apply hlasts.not_doubled t
      unfold recover
      rw [Function.update_of_ne ht]
      exact TcpServer.restart_doubled (hw t) (Bool.not_eq_false _ ▸ hopen)
  | sessionThrows =>
      intro t
      cases h
      by_contra hopen
      apply hlasts.not_doubled t
      exact TcpServer.restart_doubled (hw t) (Bool.not_eq_false _ ▸ hopen)
  | _ => trivial

theorem contained_of_stuck {w : Servers} {e : AcceptEvent}
    (h : w.step e = none) : w.Contained e := by
  cases e with
  | throws s =>
      intro hrunning
      simp [step, TcpServer.leave, hrunning] at h
  | sessionThrows => cases h
  | _ => trivial

theorem contained_of_quiet {w : Servers} {e : AcceptEvent} (h : Quiet e) :
    w.Contained e := by
  cases e with
  | throws s => cases h
  | sessionThrows => cases h
  | _ => trivial

/-- Every listening server waits for one client throughout a run, and whatever
follows it quietly, just when the run contains its exceptions. -/
theorem keepsOneAccept_iff (es : List AcceptEvent) :
    KeepsOneAccept es <-> Meets Contained step start es := by
  constructor
  · intro h
    apply meets_of_good_front step_single contained_of_lasts contained_of_stuck
      start_single
    intro front back t hes hfront more w hquiet hmore
    exact h front back more w hes hquiet (run_append.mpr ⟨t, hfront, hmore⟩)
  · intro h front back more w hes hquiet hrun
    rcases run_append.mp hrun with ⟨t, hfront, hmore⟩
    rw [hes] at h
    have ht : t.AllSingle :=
      run_keeps_of_meets Contained step_single start_single h.front hfront
    have hmeets : Meets Contained step t more := by
      intro before e after u hmore' _
      apply contained_of_quiet (hquiet e _)
      rw [hmore']
      simp
    exact (run_keeps_of_meets Contained step_single ht hmeets hmore).oneAccept

/-- A client whose session throws: both servers wait for two. -/
def sessionFails : List AcceptEvent :=
  [.completes .rtmpserver, .finishes .rtmpserver, .sessionThrows]

theorem not_keepsOneAccept_sessionFails : ¬ KeepsOneAccept sessionFails := by
  intro h
  have hone := h sessionFails [] [] _ (List.append_nil _).symm
    (fun _ he => absurd he List.not_mem_nil) rfl
  exact absurd (hone .httpserver rfl rfl) (by decide)

end Servers

end Network
end Streaming
