import Mathlib.Data.List.DropRight
import Streaming.Foundation.Run
import Streaming.Media.PacketDispatcher

/-!
# Packet fan-out

One publisher thread calls `distribute` again and again while readers register
and leave on other threads.  Their calls may come between the three sections of
a `distribute`.
-/

namespace Streaming
namespace Media

open Foundation

/-!
## The interleavings
-/

/-- Where the publisher stands in a call of `distribute`. -/
inductive Phase (T : Type) where
  | idle
  | dispatched (pkt : T) (isIdr : Bool)
  | cached

inductive FanoutEvent (T R : Type) where
  | dispatchOld (pkt : T) (isIdr : Bool)
  | cachePacket
  | mergeClients
  | regist (r : R)
  | leave (r : R)
  deriving DecidableEq

structure Fanout (T R : Type) where
  dispatcher : PacketDispatcher T R
  phase : Phase T := .idle

/-- The packet with which an event begins a call of `distribute`. -/
def FanoutEvent.packet {T R : Type} : FanoutEvent T R -> Option (T × Bool)
  | dispatchOld pkt isIdr => some (pkt, isIdr)
  | _ => none

/-- The packets distributed, each with its key-frame flag. -/
def distributed {T R : Type} (es : List (FanoutEvent T R)) : List (T × Bool) :=
  es.filterMap FanoutEvent.packet

/-- The packets that have passed the cache update. -/
def Phase.passed {T : Type} (history : List (T × Bool)) :
    Phase T -> List (T × Bool)
  | dispatched _ _ => history.dropLast
  | _ => history

namespace Fanout

variable {T R : Type} [DecidableEq R]

def step (s : Fanout T R) : FanoutEvent T R -> Option (Fanout T R)
  | .dispatchOld pkt isIdr =>
      match s.phase with
      | .idle =>
          some ⟨s.dispatcher.dispatchOld pkt, .dispatched pkt isIdr⟩
      | _ => none
  | .cachePacket =>
      match s.phase with
      | .dispatched pkt isIdr =>
          some ⟨s.dispatcher.cachePacket pkt isIdr, .cached⟩
      | _ => none
  | .mergeClients =>
      match s.phase with
      | .cached => some ⟨s.dispatcher.mergeClients, .idle⟩
      | _ => none
  | .regist r => some { s with dispatcher := s.dispatcher.registReader r }
  | .leave r => some { s with dispatcher := s.dispatcher.leave r }

def start (maxSize : Nat) : Fanout T R where
  dispatcher := .create maxSize

end Fanout

/-!
## The cache
-/

section Cache

variable {T : Type}

/-- How many packets there have been since the latest key frame, which counts,
or since the start. -/
def sinceKeyFrame (history : List (T × Bool)) : Nat :=
  match history.reverse.findIdx? fun p => p.2 with
  | some i => i + 1
  | none => history.length

/-- The last packets, no more than the cache holds and back to a key frame. -/
def latest (maxSize : Nat) (history : List (T × Bool)) : List T :=
  (history.map Prod.fst).rtake (min maxSize (sinceKeyFrame history))

theorem sinceKeyFrame_key (history : List (T × Bool)) (pkt : T) :
    sinceKeyFrame (history ++ [(pkt, true)]) = 1 := by
  simp [sinceKeyFrame, List.findIdx?_cons]

theorem sinceKeyFrame_other (history : List (T × Bool)) (pkt : T) :
    sinceKeyFrame (history ++ [(pkt, false)]) = sinceKeyFrame history + 1 := by
  unfold sinceKeyFrame
  simp only [List.reverse_append, List.reverse_cons, List.reverse_nil,
    List.nil_append, List.singleton_append, List.findIdx?_cons,
    List.length_append, List.length_singleton]
  cases history.reverse.findIdx? fun p => p.2 <;> rfl

theorem rtake_rtake (l : List T) (m n : Nat) :
    (l.rtake m).rtake n = l.rtake (min n m) := by
  simp only [List.rtake_eq_reverse_take_reverse, List.reverse_reverse,
    List.take_take]

theorem length_rtake (l : List T) (n : Nat) :
    (l.rtake n).length = min n l.length := by
  simp [List.rtake_eq_reverse_take_reverse]

theorem makeRoom_eq {maxSize : Nat} (hpos : 0 < maxSize) (pkts : List T) :
    PacketDispatcher.makeRoom maxSize pkts = pkts.rtake (maxSize - 1) := by
  induction pkts with
  | nil => simp [PacketDispatcher.makeRoom]
  | cons pkt pkts ih =>
      unfold PacketDispatcher.makeRoom
      split
      · rename_i hfull
        rw [ih]
        simp only [List.rtake, List.length_cons] at hfull ⊢
        rw [Nat.succ_sub (by omega), List.drop_succ_cons]
      · rename_i hroom
        simp only [List.rtake, List.length_cons] at hroom ⊢
        rw [Nat.sub_eq_zero_of_le (by omega), List.drop_zero]

/-- The cache update keeps the cache at the latest packets. -/
theorem cachePacket_latest {R : Type} {d : PacketDispatcher T R}
    {history : List (T × Bool)} (hpos : 0 < d.maxSize)
    (hcache : d.packetList = latest d.maxSize history) (pkt : T)
    (isIdr : Bool) :
    (d.cachePacket pkt isIdr).packetList =
      latest d.maxSize (history ++ [(pkt, isIdr)]) := by
  have hconcat : forall n, (history.map Prod.fst).rtake n ++ [pkt] =
      ((history ++ [(pkt, isIdr)]).map Prod.fst).rtake (n + 1) := by
    intro n
    rw [List.map_append, List.map_singleton, List.rtake_concat_succ]
  unfold PacketDispatcher.cachePacket latest
  cases isIdr with
  | true =>
      rw [sinceKeyFrame_key, Nat.min_eq_right hpos, ← hconcat 0,
        List.rtake_zero]
      rfl
  | false =>
      have hsize : min d.maxSize (sinceKeyFrame history + 1) =
          min (d.maxSize - 1) (min d.maxSize (sinceKeyFrame history)) + 1 := by
        omega
      rw [sinceKeyFrame_other, hsize, ← hconcat]
      simp only [Bool.false_eq_true, if_false]
      rw [hcache, makeRoom_eq hpos, latest, rtake_rtake]

/-- Where the cache begins: at the very first packet, at a key frame, or at a
packet that has moved up because the cache is full of packets behind a key
frame. -/
theorem latest_begins (maxSize : Nat) (history : List (T × Bool)) :
    exists dropped cached, history = dropped ++ cached ∧
      latest maxSize history = cached.map Prod.fst ∧
        (dropped = [] ∨ (exists p rest, cached = p :: rest ∧ p.2 = true) ∨
          (cached.length = maxSize ∧ forall p, p ∈ cached -> p.2 = false)) := by
  have hsplit : forall n, history = history.rdrop n ++ history.rtake n ∧
      (history.rtake n).length = min n history.length := by
    intro n
    exact ⟨(List.take_append_drop _ _).symm, length_rtake history n⟩
  have hmap : forall n, (history.map Prod.fst).rtake n =
      (history.rtake n).map Prod.fst := by
    intro n
    simp only [List.rtake, List.length_map, List.map_drop]
  have hmem : forall n p, p ∈ history.rtake n ->
      exists j, j < n ∧ history.reverse[j]? = some p := by
    intro n p hp
    rw [List.rtake_eq_reverse_take_reverse, List.mem_reverse] at hp
    rcases List.mem_iff_getElem?.mp hp with ⟨j, hj⟩
    rw [List.getElem?_take] at hj
    split at hj
    · rename_i hlt
      exact ⟨j, hlt, hj⟩
    · cases hj
  refine ⟨_, _, (hsplit (min maxSize (sinceKeyFrame history))).1, hmap _, ?_⟩
  unfold sinceKeyFrame
  cases hfind : history.reverse.findIdx? fun p => p.2 with
  | none =>
      simp only
      rw [List.findIdx?_eq_none_iff] at hfind
      by_cases hfull : maxSize < history.length
      · right
        right
        constructor
        · rw [(hsplit _).2]
          omega
        · intro p hp
          rcases hmem _ p hp with ⟨j, _, hj⟩
          exact hfind p (List.mem_of_getElem? hj)
      · left
        rw [Nat.min_eq_right (Nat.le_of_not_lt hfull), List.rdrop,
          Nat.sub_self, List.take_zero]
  | some i =>
      simp only
      rw [List.findIdx?_eq_some_iff_getElem] at hfind
      rcases hfind with ⟨hi, hkey, hother⟩
      rw [List.length_reverse] at hi
      by_cases hfull : maxSize < i + 1
      · right
        right
        rw [Nat.min_eq_left (Nat.le_of_lt hfull)]
        constructor
        · rw [(hsplit _).2]
          omega
        · intro p hp
          rcases hmem _ p hp with ⟨j, hlt, hj⟩
          rcases List.getElem?_eq_some_iff.mp hj with ⟨_, hj⟩
          have hnot := hother j (by omega)
          rw [hj] at hnot
          exact Bool.not_eq_true _ ▸ hnot
      · right
        left
        rw [Nat.min_eq_right (Nat.le_of_not_lt hfull),
          List.rtake_eq_reverse_take_reverse, List.take_succ_eq_append_getElem
            (by rw [List.length_reverse]; exact hi), List.reverse_append]
        exact ⟨_, _, rfl, hkey⟩

end Cache

section Runs

variable {T R : Type} [DecidableEq R]

omit [DecidableEq R] in
theorem distributed_append (es fs : List (FanoutEvent T R)) :
    distributed (es ++ fs) = distributed es ++ distributed fs :=
  List.filterMap_append

/-- The cache and the publisher's place agree with what has been distributed. -/
structure CacheInvariant (maxSize : Nat) (history : List (T × Bool))
    (s : Fanout T R) : Prop where
  maxSize_eq : s.dispatcher.maxSize = maxSize
  packetList_eq : s.dispatcher.packetList =
    latest maxSize (s.phase.passed history)
  in_flight : forall pkt isIdr, s.phase = .dispatched pkt isIdr ->
    exists earlier, history = earlier ++ [(pkt, isIdr)]

theorem step_cacheInvariant {maxSize : Nat} (hpos : 0 < maxSize)
    {history : List (T × Bool)} {s s' : Fanout T R} {e : FanoutEvent T R}
    (hs : CacheInvariant maxSize history s) (h : s.step e = some s') :
    CacheInvariant maxSize (history ++ distributed [e]) s' := by
  rcases s with ⟨d, phase⟩
  rcases hs with ⟨hmax, hlist, hflight⟩
  simp only at hmax hlist hflight
  subst hmax
  cases e with
  | dispatchOld pkt isIdr =>
      cases phase <;> cases h
      show CacheInvariant _ (history ++ [(pkt, isIdr)]) _
      constructor
      · rfl
      · rw [Phase.passed, List.dropLast_concat]
        exact hlist
      · intro pkt' isIdr' hphase
        cases hphase
        exact ⟨history, rfl⟩
  | cachePacket =>
      cases phase with
      | idle => cases h
      | cached => cases h
      | dispatched pkt isIdr =>
          cases h
          rcases hflight pkt isIdr rfl with ⟨earlier, hearlier⟩
          subst hearlier
          rw [Phase.passed, List.dropLast_concat] at hlist
          rw [show distributed [FanoutEvent.cachePacket] =
            ([] : List (T × Bool)) from rfl, List.append_nil]
          constructor
          · rfl
          · exact cachePacket_latest hpos hlist pkt isIdr
          · intro pkt' isIdr' hphase
            cases hphase
  | mergeClients =>
      cases phase <;> cases h
      rw [show distributed [FanoutEvent.mergeClients] =
        ([] : List (T × Bool)) from rfl, List.append_nil]
      constructor
      · unfold PacketDispatcher.mergeClients
        split <;> rfl
      · rw [PacketDispatcher.mergeClients_packetList]
        exact hlist
      · intro pkt' isIdr' hphase
        cases hphase
  | regist r =>
      cases h
      rw [show distributed [FanoutEvent.regist r] =
        ([] : List (T × Bool)) from rfl, List.append_nil]
      exact ⟨rfl, hlist, hflight⟩
  | leave r =>
      cases h
      rcases d.leave_frame r with ⟨_, _, hpackets, hsize⟩
      rw [show distributed [FanoutEvent.leave r] =
        ([] : List (T × Bool)) from rfl, List.append_nil]
      exact ⟨hsize, hpackets.trans hlist, hflight⟩

theorem run_cacheInvariant {maxSize : Nat} {es : List (FanoutEvent T R)}
    {s : Fanout T R} (h : run Fanout.step (Fanout.start maxSize) es = some s) :
    CacheInvariant (Fanout.start maxSize : Fanout T R).dispatcher.maxSize
      (distributed es) s := by
  have hstart : CacheInvariant
      (Fanout.start maxSize : Fanout T R).dispatcher.maxSize []
      (Fanout.start maxSize : Fanout T R) := by
    constructor
    · rfl
    · simp [Fanout.start, PacketDispatcher.create, latest,
        Phase.passed, List.rtake_nil]
    · intro pkt isIdr hphase
      cases hphase
  apply run_history (I := fun es => CacheInvariant _ (distributed es)) hstart _ h
  intro es s e s' _ hs he
  rw [distributed_append]
  exact step_cacheInvariant (PacketDispatcher.create_maxSize_pos maxSize) hs he

/-!
## One reader

A reader goes through three stages: it has not registered, it is a new client,
and from the first merge on it is an old client.
-/

/-- An event that neither registers a reader nor lets it leave. -/
def Keeps (r : R) (e : FanoutEvent T R) : Prop :=
  e ≠ .regist r ∧ e ≠ .leave r

structure Absent (r : R) (s : Fanout T R) : Prop where
  not_new : r ∉ s.dispatcher.newClients
  not_old : r ∉ s.dispatcher.oldClients
  read_eq : (s.dispatcher.readers r).read = []

structure Waiting (r : R) (s : Fanout T R) : Prop where
  is_new : r ∈ s.dispatcher.newClients
  not_old : r ∉ s.dispatcher.oldClients
  read_eq : (s.dispatcher.readers r).read = []

structure Merged (r : R) (got : List T) (s : Fanout T R) : Prop where
  not_new : r ∉ s.dispatcher.newClients
  is_old : r ∈ s.dispatcher.oldClients
  read_eq : (s.dispatcher.readers r).read = got

omit [DecidableEq R] in
theorem start_absent (maxSize : Nat) (r : R) :
    Absent r (Fanout.start maxSize : Fanout T R) :=
  ⟨Finset.notMem_empty r, Finset.notMem_empty r, rfl⟩

/-- The packets that an event hands to a reader. -/
def Fanout.hands (s : Fanout T R) (r : R) : FanoutEvent T R -> List T
  | .dispatchOld pkt _ => if r ∈ s.dispatcher.oldClients then [pkt] else []
  | .mergeClients =>
      if r ∈ s.dispatcher.newClients then s.dispatcher.packetList else []
  | _ => []

/-- What an event other than its own registration does to a reader. -/
theorem step_reader {r : R} {s s' : Fanout T R} {e : FanoutEvent T R}
    (he : e ≠ .regist r) (h : s.step e = some s') :
    (r ∈ s'.dispatcher.newClients ->
        r ∈ s.dispatcher.newClients ∧ e ≠ .mergeClients) ∧
      (r ∈ s.dispatcher.newClients -> e ≠ .mergeClients -> e ≠ .leave r ->
        r ∈ s'.dispatcher.newClients) ∧
      (r ∈ s'.dispatcher.oldClients <-> r ∈ s.dispatcher.oldClients ∨
        (r ∈ s.dispatcher.newClients ∧ e = .mergeClients)) ∧
      (s'.dispatcher.readers r).read =
        (s.dispatcher.readers r).read ++ s.hands r e := by
  rcases s with ⟨d, phase⟩
  cases e with
  | dispatchOld pkt isIdr =>
      cases phase <;> cases h
      refine ⟨fun h => ⟨h, by simp⟩, fun h _ _ => h, by
        simp [PacketDispatcher.dispatchOld], ?_⟩
      simp only [PacketDispatcher.dispatchOld, Fanout.hands]
      by_cases hold : r ∈ d.oldClients
      · rw [PacketDispatcher.onEach_of_mem hold, if_pos hold]
        rfl
      · rw [PacketDispatcher.onEach_of_not_mem hold, if_neg hold,
          List.append_nil]
  | cachePacket =>
      cases phase <;> cases h
      refine ⟨fun h => ⟨h, by simp⟩, fun h _ _ => h, by
        simp [PacketDispatcher.cachePacket], ?_⟩
      exact (List.append_nil _).symm
  | mergeClients =>
      cases phase <;> cases h
      simp only [PacketDispatcher.mergeClients_newClients,
        PacketDispatcher.mergeClients_oldClients,
        PacketDispatcher.mergeClients_readers, Fanout.hands]
      refine ⟨fun h => absurd h (Finset.notMem_empty r),
        fun _ h => absurd rfl h, by simp, ?_⟩
      split <;> simp
  | regist other =>
      cases h
      have hne : r ≠ other := fun h => he (by rw [h])
      refine ⟨?_, ?_, by simp [PacketDispatcher.registReader], ?_⟩
      · intro h
        exact ⟨(Finset.mem_insert.mp h).resolve_left hne, by simp⟩
      · intro h _ _
        exact Finset.mem_insert_of_mem h
      · simp [PacketDispatcher.registReader, Function.update_of_ne hne,
          Fanout.hands]
  | leave other =>
      cases h
      rcases d.leave_frame other with ⟨hreaders, holds, _, _⟩
      refine ⟨?_, ?_, by simp [holds], ?_⟩
      · intro h
        exact ⟨d.leave_newClients_subset other h, by simp⟩
      · intro h _ hleave
        have hne : r ≠ other := fun h => hleave (by rw [h])
        exact (PacketDispatcher.mem_leave_newClients_of_ne hne).mpr h
      · rw [hreaders]
        exact (List.append_nil _).symm

theorem step_read {s s' : Fanout T R} {e : FanoutEvent T R} (r : R)
    (h : s.step e = some s') :
    (s'.dispatcher.readers r).read =
      (s.dispatcher.readers r).read ++ s.hands r e := by
  by_cases he : e = .regist r
  · subst he
    cases h
    simp [PacketDispatcher.registReader, ClientReader.setRegistered,
      Fanout.hands]
  · exact (step_reader he h).2.2.2

/-- A reader is handed nothing that was not distributed. -/
theorem hands_distributed {maxSize : Nat} {es : List (FanoutEvent T R)}
    {s : Fanout T R} (h : run Fanout.step (Fanout.start maxSize) es = some s)
    {r : R} {e : FanoutEvent T R} {pkt : T} (hpkt : pkt ∈ s.hands r e) :
    pkt ∈ (distributed (es ++ [e])).map Prod.fst := by
  rw [distributed_append, List.map_append, List.mem_append]
  cases e with
  | dispatchOld other isIdr =>
      right
      simp only [Fanout.hands] at hpkt
      split at hpkt
      · exact hpkt
      · cases hpkt
  | mergeClients =>
      left
      simp only [Fanout.hands] at hpkt
      split at hpkt
      · rw [(run_cacheInvariant h).packetList_eq] at hpkt
        have hlatest := List.mem_of_mem_drop hpkt
        cases hphase : s.phase with
        | idle =>
            rw [hphase] at hlatest
            exact hlatest
        | dispatched other isIdr =>
            rw [hphase] at hlatest
            rcases List.mem_map.mp hlatest with ⟨p, hp, hpkt⟩
            exact List.mem_map.mpr ⟨p, List.mem_of_mem_dropLast hp, hpkt⟩
        | cached =>
            rw [hphase] at hlatest
            exact hlatest
      · cases hpkt
  | cachePacket => cases hpkt
  | regist other => cases hpkt
  | leave other => cases hpkt

theorem step_absent {r : R} {s s' : Fanout T R} {e : FanoutEvent T R}
    (hs : Absent r s) (he : e ≠ .regist r) (h : s.step e = some s') :
    Absent r s' := by
  rcases hs with ⟨hnew, hold, hread⟩
  rcases step_reader he h with ⟨hnew', _, hold', hread'⟩
  have hhands : s.hands r e = [] := by
    cases e <;> simp [Fanout.hands, hnew, hold]
  constructor
  · intro hmem
    exact hnew (hnew' hmem).1
  · rw [hold']
    exact not_or.mpr ⟨hold, fun hmem => hnew hmem.1⟩
  · rw [hread', hread, hhands, List.append_nil]

theorem step_regist {r : R} {s s' : Fanout T R} (hs : Absent r s)
    (h : s.step (.regist r) = some s') : Waiting r s' := by
  cases h
  rcases hs with ⟨_, hold, hread⟩
  refine ⟨Finset.mem_insert_self _ _, hold, ?_⟩
  simp only [PacketDispatcher.registReader, Function.update_self]
  exact hread

theorem step_waiting {r : R} {s s' : Fanout T R} {e : FanoutEvent T R}
    (hs : Waiting r s) (he : Keeps r e) (hmerge : e ≠ .mergeClients)
    (h : s.step e = some s') : Waiting r s' := by
  rcases hs with ⟨hnew, hold, hread⟩
  rcases he with ⟨hregist, hleave⟩
  rcases step_reader hregist h with ⟨_, hnew', hold', hread'⟩
  have hhands : s.hands r e = [] := by
    cases e with
    | mergeClients => exact absurd rfl hmerge
    | _ => simp [Fanout.hands, hold]
  constructor
  · exact hnew' hnew hmerge hleave
  · rw [hold']
    exact not_or.mpr ⟨hold, fun hmem => hmerge hmem.2⟩
  · rw [hread', hread, hhands, List.append_nil]

/-- The first merge hands a waiting reader the cache as it stands. -/
theorem step_merge {r : R} {s s' : Fanout T R} (hs : Waiting r s)
    (h : s.step .mergeClients = some s') :
    Merged r s.dispatcher.packetList s' := by
  rcases hs with ⟨hnew, _, hread⟩
  rcases step_reader (by simp) h with ⟨hnew', _, hold', hread'⟩
  constructor
  · intro hmem
    exact (hnew' hmem).2 rfl
  · exact hold'.mpr (Or.inr ⟨hnew, rfl⟩)
  · rw [hread', hread, Fanout.hands, if_pos hnew, List.nil_append]

/-- From then on every packet reaches the reader as it is distributed. -/
theorem step_merged {r : R} {got : List T} {s s' : Fanout T R}
    {e : FanoutEvent T R} (hs : Merged r got s) (he : e ≠ .regist r)
    (h : s.step e = some s') :
    Merged r (got ++ (distributed [e]).map Prod.fst) s' := by
  rcases hs with ⟨hnew, hold, hread⟩
  rcases step_reader he h with ⟨hnew', _, hold', hread'⟩
  have hhands : s.hands r e = (distributed [e]).map Prod.fst := by
    cases e <;>
      simp [Fanout.hands, hnew, hold, distributed, FanoutEvent.packet,
        List.filterMap_cons]
  constructor
  · intro hmem
    exact hnew (hnew' hmem).1
  · exact hold'.mpr (Or.inl hold)
  · rw [hread', hread, hhands]

/-- What a reader that registers once has been given. -/
def GivenTo (maxSize : Nat) (r : R) (es : List (FanoutEvent T R))
    (s : Fanout T R) : Prop :=
  ((s.dispatcher.readers r).read = [] ∧ r ∉ s.dispatcher.oldClients) ∨
    (r ∉ s.dispatcher.newClients ∧ r ∈ s.dispatcher.oldClients ∧
      exists before later, distributed es = before ++ later ∧
        (s.dispatcher.readers r).read =
          latest maxSize before ++ later.map Prod.fst)

theorem step_givenTo {maxSize : Nat} {r : R} {es : List (FanoutEvent T R)}
    {s s' : Fanout T R} {e : FanoutEvent T R}
    (hcache : CacheInvariant maxSize (distributed es) s)
    (hs : GivenTo maxSize r es s)
    (he : e = .regist r -> r ∉ s.dispatcher.oldClients)
    (h : s.step e = some s') : GivenTo maxSize r (es ++ [e]) s' := by
  by_cases hregist : e = .regist r
  · subst hregist
    cases h
    rcases hs with ⟨hread, hold⟩ | ⟨_, hold, _⟩
    · left
      constructor
      · simp only [PacketDispatcher.registReader, Function.update_self]
        exact hread
      · exact hold
    · exact absurd hold (he rfl)
  · rcases step_reader hregist h with ⟨hnew', _, hold', hread'⟩
    rcases hs with ⟨hread, hold⟩ | ⟨hnew, hold, before, later, hsplit, hread⟩
    · by_cases hjoin : r ∈ s.dispatcher.newClients ∧ e = .mergeClients
      · right
        rcases hjoin with ⟨hnew, hmerge⟩
        subst hmerge
        refine ⟨fun hmem => (hnew' hmem).2 rfl, hold'.mpr (Or.inr ⟨hnew, rfl⟩),
          distributed es, [], ?_, ?_⟩
        · rw [distributed_append]
          rfl
        · have hphase : s.phase = .cached := by
            rcases s with ⟨d, phase⟩
            cases phase <;> cases h
            rfl
          rw [hread', hread, Fanout.hands, if_pos hnew, hcache.packetList_eq,
            hphase]
          simp [Phase.passed]
      · left
        have hhands : s.hands r e = [] := by
          cases e with
          | mergeClients =>
              simp only [Fanout.hands]
              exact if_neg fun hmem => hjoin ⟨hmem, rfl⟩
          | _ => simp [Fanout.hands, hold]
        constructor
        · rw [hread', hread, hhands, List.append_nil]
        · rw [hold']
          exact not_or.mpr ⟨hold, hjoin⟩
    · right
      have hmerged : Merged r (s.dispatcher.readers r).read s :=
        ⟨hnew, hold, rfl⟩
      rcases step_merged hmerged hregist h with ⟨hnew'', hold'', hread''⟩
      refine ⟨hnew'', hold'', before, later ++ distributed [e], ?_, ?_⟩
      · rw [distributed_append, hsplit, List.append_assoc]
      · rw [hread'', hread, List.map_append, List.append_assoc]

theorem run_absent {r : R} {s s' : Fanout T R} {es : List (FanoutEvent T R)}
    (hs : Absent r s) (hes : .regist r ∉ es)
    (h : run Fanout.step s es = some s') : Absent r s' := by
  apply run_keeps_of_meets (fun _ e => e ≠ .regist r) step_absent hs _ h
  intro front e back t heq _ he
  rw [heq, he] at hes
  simp at hes

theorem run_waiting {r : R} {s s' : Fanout T R} {es : List (FanoutEvent T R)}
    (hs : Waiting r s) (hes : forall e, e ∈ es -> Keeps r e)
    (hmerge : .mergeClients ∉ es) (h : run Fanout.step s es = some s') :
    Waiting r s' := by
  apply run_keeps_of_meets
    (fun _ e => Keeps r e ∧ e ≠ .mergeClients)
    (fun hs he h => step_waiting hs he.1 he.2 h) hs _ h
  intro front e back t heq _
  have hmem : e ∈ es := by simp [heq]
  constructor
  · exact hes e hmem
  · intro he
    rw [he] at hmem
    exact hmerge hmem

theorem run_merged {r : R} {got : List T} {s s' : Fanout T R}
    {es : List (FanoutEvent T R)} (hs : Merged r got s)
    (hes : forall e, e ∈ es -> Keeps r e)
    (h : run Fanout.step s es = some s') :
    Merged r (got ++ (distributed es).map Prod.fst) s' := by
  induction es generalizing s got with
  | nil =>
      cases h
      simpa [distributed] using hs
  | cons e es ih =>
      rcases run_cons.mp h with ⟨t, he, hes'⟩
      have hstep := step_merged hs (hes e (by simp)).1 he
      have htail := ih hstep (fun e' h' => hes e' (by simp [h'])) hes'
      rw [← List.singleton_append, distributed_append, List.map_append,
        ← List.append_assoc]
      exact htail

/-- Before the first merge behind its registration a reader waits. -/
theorem run_registered {maxSize : Nat} {r : R} {front mid : List (FanoutEvent T R)}
    {s : Fanout T R}
    (h : run Fanout.step (Fanout.start maxSize) (front ++ .regist r :: mid) =
      some s)
    (hfront : .regist r ∉ front) (hmid : forall e, e ∈ mid -> Keeps r e)
    (hmerge : .mergeClients ∉ mid) : Waiting r s := by
  rcases run_append.mp h with ⟨t, ht, hrest⟩
  rcases run_cons.mp hrest with ⟨u, hregist, hu⟩
  have habsent := run_absent (start_absent maxSize r) hfront ht
  exact run_waiting (step_regist habsent hregist) hmid hmerge hu

/-- That merge hands it the cache, and then it gets every packet. -/
theorem run_joined {maxSize : Nat} {r : R}
    {front mid back : List (FanoutEvent T R)} {s : Fanout T R}
    (h : run Fanout.step (Fanout.start maxSize)
      (front ++ .regist r :: (mid ++ .mergeClients :: back)) = some s)
    (hfront : .regist r ∉ front)
    (hkeeps : forall e, e ∈ mid ++ back -> Keeps r e)
    (hmerge : .mergeClients ∉ mid) :
    exists t, run Fanout.step (Fanout.start maxSize) (front ++ .regist r :: mid) =
        some t ∧ t.phase = .cached ∧
      (s.dispatcher.readers r).read =
        t.dispatcher.packetList ++ (distributed back).map Prod.fst := by
  rw [← List.cons_append, ← List.append_assoc] at h
  rcases run_append.mp h with ⟨t, ht, hrest⟩
  rcases run_cons.mp hrest with ⟨u, hu, hback⟩
  have hwaiting := run_registered ht hfront
    (fun e he => hkeeps e (List.mem_append_left back he)) hmerge
  have hmerged := run_merged (step_merge hwaiting hu)
    (fun e he => hkeeps e (List.mem_append_right mid he)) hback
  have hphase : t.phase = .cached := by
    rcases t with ⟨d, phase⟩
    cases phase <;> cases hu
    rfl
  exact ⟨t, ht, hphase, hmerged.read_eq⟩

/--
However the calls are interleaved, the cache holds the latest packets that have
passed its update, and a reader that registers once and stays receives nothing
before the first merge, then the cache as it stands at that merge, and then
every packet whose distribution begins later, in order and once each.
-/
theorem fanout_exact {maxSize : Nat} {es : List (FanoutEvent T R)}
    {s : Fanout T R} (h : run Fanout.step (Fanout.start maxSize) es = some s) :
    s.dispatcher.packetList =
        latest (max maxSize PacketDispatcher.kMinPacketCacheSize)
          (s.phase.passed (distributed es)) ∧
      (forall r front mid, es = front ++ .regist r :: mid ->
        .regist r ∉ front -> (forall e, e ∈ mid -> Keeps r e) ->
          .mergeClients ∉ mid -> (s.dispatcher.readers r).read = []) ∧
      (forall r front mid back,
        es = front ++ .regist r :: (mid ++ .mergeClients :: back) ->
          .regist r ∉ front -> (forall e, e ∈ mid ++ back -> Keeps r e) ->
            .mergeClients ∉ mid ->
              exists t,
                run Fanout.step (Fanout.start maxSize)
                    (front ++ .regist r :: mid) = some t ∧
                  (s.dispatcher.readers r).read =
                    t.dispatcher.packetList ++
                      (distributed back).map Prod.fst) := by
  refine ⟨?_, ?_, ?_⟩
  · have hsize : (Fanout.start maxSize : Fanout T R).dispatcher.maxSize =
        max maxSize PacketDispatcher.kMinPacketCacheSize := by
      simp only [Fanout.start, PacketDispatcher.create]
      split <;> omega
    rw [← hsize]
    exact (run_cacheInvariant h).packetList_eq
  · intro r front mid hes hfront hmid hmerge
    rw [hes] at h
    exact (run_registered h hfront hmid hmerge).read_eq
  · intro r front mid back hes hfront hkeeps hmerge
    rw [hes] at h
    rcases run_joined h hfront hkeeps hmerge with ⟨t, ht, _, hread⟩
    exact ⟨t, ht, hread⟩

/-- A reader that registers while a packet is between the old clients and the
cache. -/
theorem fanout_exact_in_flight :
    exists s t : Fanout Nat Nat,
      run Fanout.step (Fanout.start 32)
          [.dispatchOld 10 true, .regist 7, .cachePacket, .mergeClients,
            .dispatchOld 11 false] = some s ∧
        run Fanout.step (Fanout.start 32)
          [.dispatchOld 10 true, .regist 7, .cachePacket] = some t ∧
        (s.dispatcher.readers 7).read = t.dispatcher.packetList ++ [11] := by
  have hruns : exists s, run Fanout.step (Fanout.start 32 : Fanout Nat Nat)
      [.dispatchOld 10 true, .regist 7, .cachePacket, .mergeClients,
        .dispatchOld 11 false] = some s := ⟨_, rfl⟩
  rcases hruns with ⟨s, hrun⟩
  rcases (fanout_exact hrun).2.2 7 [.dispatchOld 10 true] [.cachePacket]
      [.dispatchOld 11 false] rfl (by simp) (by simp [Keeps]) (by simp) with
    ⟨t, ht, hread⟩
  exact ⟨s, t, hrun, ht, hread⟩

end Runs

end Media
end Streaming
