import Streaming.Media.PacketDispatcher

/-!
# Readers that leave

Whether a reader belongs to the dispatcher is kept in three places: the two
sets of clients and the reader's own flag.  `detach_all_readers` keeps them in
step; `deregist_reader` does so only for readers it does not find.
-/

namespace Streaming
namespace Media

inductive Call (T R : Type) where
  | registReader (r : R)
  | leave (r : R)
  | deregistReader (r : R)
  | distribute (pkt : T) (isIdr : Bool)
  | detachAllReaders (isNormal : Bool)

namespace PacketDispatcher

variable {T R : Type} [DecidableEq R]

def call (d : PacketDispatcher T R) : Call T R -> PacketDispatcher T R
  | .registReader r => d.registReader r
  | .leave r => d.leave r
  | .deregistReader r => d.deregistReader r
  | .distribute pkt isIdr => d.distribute pkt isIdr
  | .detachAllReaders isNormal => d.detachAllReaders isNormal

def calls (d : PacketDispatcher T R) (cs : List (Call T R)) :
    PacketDispatcher T R :=
  cs.foldl call d

/-- The dispatcher holds a reader in one of its sets. -/
def Holds (d : PacketDispatcher T R) (r : R) : Prop :=
  r ∈ d.newClients ∨ r ∈ d.oldClients

/-- The flags of the readers say which of them the dispatcher holds. -/
def FlagsAgree (d : PacketDispatcher T R) : Prop :=
  forall r, (d.readers r).isRegistered = true <-> d.Holds r

/--
Readers that have left are gone: at every moment the flags agree with the sets,
and a registered reader that leaves is held no longer and is given nothing more
until it registers again.
-/
structure Gone (d : PacketDispatcher T R) (cs : List (Call T R)) : Prop where
  flags : forall front back, cs = front ++ back -> (d.calls front).FlagsAgree
  left : forall front r mid back,
    cs = front ++ .leave r :: (mid ++ back) ->
      ((d.calls front).readers r).isRegistered = true ->
        .registReader r ∉ mid ->
          ¬ (d.calls (front ++ .leave r :: mid)).Holds r ∧
            ((d.calls (front ++ .leave r :: mid)).readers r).read =
              ((d.calls front).readers r).read

/-- A call that does not take a reader out of the dispatcher. -/
def Harmless (d : PacketDispatcher T R) : Call T R -> Prop
  | .leave r => (d.readers r).isRegistered = false
  | .deregistReader r => r ∈ d.newClients -> r ∈ d.oldClients
  | _ => True

/-!
## Flags and sets
-/

omit [DecidableEq R] in
theorem create_flagsAgree (maxSize : Nat) :
    (create maxSize : PacketDispatcher T R).FlagsAgree := by
  intro r
  simp [create, Holds]

theorem onEach_isRegistered {f : ClientReader T -> ClientReader T}
    (hf : forall c, (f c).isRegistered = c.isRegistered) (clients : Finset R)
    (readers : R -> ClientReader T) (r : R) :
    (onEach clients f readers r).isRegistered = (readers r).isRegistered := by
  unfold onEach
  split
  · exact hf _
  · rfl

/-- A packet moves readers between the sets but not in or out. -/
theorem distribute_flags (d : PacketDispatcher T R) (pkt : T) (isIdr : Bool)
    (r : R) :
    ((d.distribute pkt isIdr).readers r).isRegistered =
        (d.readers r).isRegistered ∧
      ((d.distribute pkt isIdr).Holds r <-> d.Holds r) := by
  have hdispatch : ((d.dispatchOld pkt).readers r).isRegistered =
      (d.readers r).isRegistered :=
    onEach_isRegistered (f := ClientReader.onRead pkt) (fun _ => rfl) _ _ _
  constructor
  · unfold distribute
    rw [mergeClients_readers, ← hdispatch]
    split <;> rfl
  · unfold distribute Holds
    rw [mergeClients_newClients, mergeClients_oldClients, Finset.mem_union]
    simp only [Finset.notMem_empty, false_or]
    exact or_comm

theorem call_flagsAgree {d : PacketDispatcher T R} (hd : d.FlagsAgree)
    {c : Call T R} (hc : d.Harmless c) : (d.call c).FlagsAgree := by
  intro r
  cases c with
  | registReader other =>
      simp only [call, registReader, Holds]
      by_cases hr : r = other
      · subst hr
        simp [ClientReader.setRegistered]
      · rw [Function.update_of_ne hr, Finset.mem_insert, or_iff_right hr]
        exact hd r
  | leave other =>
      have hsame : d.leave other = d := by
        unfold leave
        rw [hc]
        rfl
      rw [call, hsame]
      exact hd r
  | deregistReader other =>
      simp only [call, deregistReader, Holds, Finset.mem_erase]
      refine (hd r).trans ?_
      constructor
      · intro hheld
        by_cases hr : r = other
        · subst hr
          exact Or.inr (hheld.elim hc id)
        · exact hheld.imp_left fun hnew => ⟨hr, hnew⟩
      · intro hheld
        exact hheld.imp_left fun hnew => hnew.2
  | distribute pkt isIdr =>
      rcases d.distribute_flags pkt isIdr r with ⟨hflag, hheld⟩
      rw [call, hflag, hheld]
      exact hd r
  | detachAllReaders isNormal =>
      have hflag := hd r
      unfold Holds at hflag
      simp only [call, detachAllReaders]
      split
      · exact hflag
      · simp only [Holds, Finset.notMem_empty, or_self, iff_false]
        unfold onEach
        by_cases hold : r ∈ d.oldClients
        · simp [hold, ClientReader.setRegistered]
        · by_cases hnew : r ∈ d.newClients
          · simp [hold, hnew, ClientReader.setRegistered]
          · simp only [hold, hnew, or_self, iff_false] at hflag ⊢
            exact hflag

theorem calls_flagsAgree {d : PacketDispatcher T R} (hd : d.FlagsAgree)
    {cs : List (Call T R)}
    (hcs : forall front c back, cs = front ++ c :: back ->
      (d.calls front).Harmless c) : (d.calls cs).FlagsAgree := by
  induction cs using List.reverseRecOn with
  | nil => exact hd
  | append_singleton cs c ih =>
      have hfront : (d.calls cs).FlagsAgree := by
        apply ih
        intro front c' back heq
        exact hcs front c' (back ++ [c]) (by simp [heq])
      have hstep := call_flagsAgree hfront (hcs cs c [] rfl)
      simpa [calls] using hstep

/-!
## When readers are gone
-/

/-- Leaving does not clear the flag, so the flag and the sets part here. -/
theorem leave_registered {d : PacketDispatcher T R} {r : R}
    (hr : (d.readers r).isRegistered = true) :
    ((d.leave r).readers r).isRegistered = true := by
  rw [(d.leave_frame r).1]
  exact hr

/--
For every sequence of calls: readers that have left are gone exactly when no
call reaches a reader that it would have to take out, that is, no registered
reader leaves and `deregist_reader` is not called on one that is only among the
new clients.
-/
theorem gone_iff_harmless (maxSize : Nat) (cs : List (Call T R)) :
    Gone (create maxSize) cs <->
      forall front c back, cs = front ++ c :: back ->
        ((create maxSize : PacketDispatcher T R).calls front).Harmless c := by
  constructor
  · intro h front c back hcs
    cases c with
    | leave r =>
        by_contra hregistered
        have hflag : (((create maxSize : PacketDispatcher T R).calls
            front).readers r).isRegistered = true := by
          simpa [Harmless] using hregistered
        have hleft := (h.left front r [] back hcs hflag (by simp)).1
        have hagree := h.flags (front ++ [.leave r]) back (by simp [hcs]) r
        apply hleft
        apply hagree.mp
        simpa [calls, call] using leave_registered hflag
    | deregistReader r =>
        intro hnew
        by_contra hold
        have hbefore := h.flags front (.deregistReader r :: back) hcs r
        have hafter := h.flags (front ++ [.deregistReader r]) back
          (by simp [hcs]) r
        have hflag := hbefore.mpr (Or.inl hnew)
        have hheld := hafter.mp (by simpa [calls, call, deregistReader] using hflag)
        simp only [calls, List.foldl_append, List.foldl_cons, List.foldl_nil,
          call, deregistReader, Holds, Finset.mem_erase, ne_eq,
          not_true_eq_false, false_and, false_or] at hheld
        exact hold hheld
    | registReader r => trivial
    | distribute pkt isIdr => trivial
    | detachAllReaders isNormal => trivial
  · intro h
    constructor
    · intro front back hcs
      apply calls_flagsAgree (create_flagsAgree maxSize)
      intro front' c back' hfront
      exact h front' c (back' ++ back) (by simp [hcs, hfront])
    · intro front r mid back hcs hregistered
      have hharmless := h front (.leave r) (mid ++ back) hcs
      simp only [Harmless, hregistered] at hharmless
      cases hharmless

/-- A reader that has been merged and leaves is still given the next packet. -/
theorem not_gone_after_merge :
    ¬ Gone (create 32 : PacketDispatcher Nat Nat)
      [.registReader 7, .distribute 10 true, .leave 7, .distribute 11 false] := by
  intro h
  have hread := (h.left [.registReader 7, .distribute 10 true] 7
    [.distribute 11 false] [] rfl (by decide) (by simp)).2
  revert hread
  decide

end PacketDispatcher

end Media
end Streaming
