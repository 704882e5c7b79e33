import Mathlib.Data.List.Basic
import Mathlib.Logic.Function.Basic

/-!
# Asynchronous writes

A stream to which writes are started and which then reads their storage, in one
or more parts.  The storage is not copied: it belongs to the caller, who has to
keep it until the write is complete and may start no other write before.
-/

namespace Streaming
namespace Foundation

/-- A write that has been started and has not completed. -/
structure PendingWrite (address : Type) where
  address : address
  /-- The allocation that the address belonged to at the start. -/
  block : Nat
  size : Nat
  done : Nat := 0
  deriving DecidableEq, Repr

structure AsyncStream (address byte : Type) where
  memory : address -> List byte := fun _ => []
  /-- The allocation that owns the address, if any does. -/
  block : address -> Option Nat := fun _ => none
  nextBlock : Nat := 0
  outstanding : List (PendingWrite address) := []
  isOpen : Bool := true
  /-- What has gone out. -/
  wire : List byte := []
  /-- The strings that writes were started for, as they were then. -/
  sent : List byte := []

namespace AsyncStream

section Stream

variable {address byte : Type}

/-- Allocate storage and fill it. -/
def alloc [DecidableEq address] (s : AsyncStream address byte) (a : address)
    (bytes : List byte) : Option (AsyncStream address byte) :=
  if s.block a = none then
    some { s with
      memory := Function.update s.memory a bytes
      block := Function.update s.block a (some s.nextBlock)
      nextBlock := s.nextBlock + 1 }
  else
    none

def free [DecidableEq address] (s : AsyncStream address byte) (a : address) :
    AsyncStream address byte :=
  { s with block := Function.update s.block a none }

/-- Storage that nobody owns may come to hold anything. -/
def scribble [DecidableEq address] (s : AsyncStream address byte) (a : address)
    (bytes : List byte) : Option (AsyncStream address byte) :=
  if s.block a = none then
    some { s with memory := Function.update s.memory a bytes }
  else
    none

/-- Start to write the first `size` bytes at an address.  Nothing is written to
a stream that is closed. -/
def startWrite (s : AsyncStream address byte) (a : address) (size : Nat) :
    Option (AsyncStream address byte) :=
  if !s.isOpen then some s
  else
    (s.block a).map fun block =>
      { s with
        outstanding := s.outstanding ++ [⟨a, block, size, 0⟩]
        sent := s.sent ++ (s.memory a).take size }

/-- The next `n` bytes of a write go out, as they are in memory now. -/
def progress (s : AsyncStream address byte) (i n : Nat) :
    Option (AsyncStream address byte) :=
  s.outstanding[i]?.bind fun w =>
    if w.done + n <= w.size then
      some { s with
        outstanding := s.outstanding.set i { w with done := w.done + n }
        wire := s.wire ++ ((s.memory w.address).drop w.done).take n }
    else
      none

/-- The handler of a write runs, after all its bytes have gone out. -/
def complete (s : AsyncStream address byte) (i : Nat) :
    Option (AsyncStream address byte) :=
  s.outstanding[i]?.bind fun w =>
    if w.done = w.size then
      some { s with outstanding := s.outstanding.eraseIdx i }
    else
      none

/-- The stream is closed, which ends the writes that are not complete. -/
def close (s : AsyncStream address byte) : AsyncStream address byte :=
  { s with outstanding := [], isOpen := false }

/-!
## What the operations do to the writes
-/

theorem alloc_outstanding [DecidableEq address]
    {s s' : AsyncStream address byte} {a : address} {bytes : List byte}
    (h : s.alloc a bytes = some s') : s'.outstanding = s.outstanding := by
  unfold alloc at h
  split at h
  · cases h
    rfl
  · cases h

theorem scribble_outstanding [DecidableEq address]
    {s s' : AsyncStream address byte} {a : address} {bytes : List byte}
    (h : s.scribble a bytes = some s') : s'.outstanding = s.outstanding := by
  unfold scribble at h
  split at h
  · cases h
    rfl
  · cases h

theorem startWrite_outstanding {s s' : AsyncStream address byte} {a : address}
    {size : Nat} (h : s.startWrite a size = some s') :
    (s.isOpen = false ∧ s'.outstanding = s.outstanding) ∨
      exists block, s'.outstanding = s.outstanding ++ [⟨a, block, size, 0⟩] := by
  unfold startWrite at h
  split at h
  · rename_i hclosed
    cases h
    exact Or.inl ⟨by simpa using hclosed, rfl⟩
  · rcases Option.map_eq_some_iff.mp h with ⟨block, _, hs'⟩
    rw [← hs']
    exact Or.inr ⟨block, rfl⟩

theorem progress_address {s s' : AsyncStream address byte} {i n : Nat}
    (h : s.progress i n = some s') {w : PendingWrite address}
    (hw : w ∈ s'.outstanding) :
    exists w', w' ∈ s.outstanding ∧ w'.address = w.address := by
  rcases Option.bind_eq_some_iff.mp h with ⟨moved, hmoved, h⟩
  split at h
  · cases h
    rcases List.mem_or_eq_of_mem_set hw with hold | hnew
    · exact ⟨w, hold, rfl⟩
    · rw [hnew]
      exact ⟨moved, List.mem_of_getElem? hmoved, rfl⟩
  · cases h

theorem complete_subset {s s' : AsyncStream address byte} {i : Nat}
    (h : s.complete i = some s') : s'.outstanding ⊆ s.outstanding := by
  rcases Option.bind_eq_some_iff.mp h with ⟨w, _, h⟩
  split at h
  · cases h
    exact List.eraseIdx_subset
  · cases h

/-!
## What the other side may expect
-/

/-- No write refers to storage that is gone, there is one at most, and the bytes
that have gone out are those that were sent. -/
structure Safe (s : AsyncStream address byte) : Prop where
  storage : forall w, w ∈ s.outstanding -> s.block w.address = some w.block
  one : s.outstanding.length <= 1
  in_order : s.wire <+: s.sent
  all_sent : s.isOpen = true -> s.outstanding = [] -> s.wire = s.sent

/-- Where a stream stands that is used one write at a time. -/
structure Sound (s : AsyncStream address byte) : Prop where
  closed : s.isOpen = false -> s.outstanding = [] ∧ s.wire <+: s.sent
  idle : s.isOpen = true -> s.outstanding = [] -> s.wire = s.sent
  busy : forall w, w ∈ s.outstanding -> s.outstanding = [w] ∧
    s.block w.address = some w.block ∧ w.done <= w.size ∧
      s.sent = s.wire ++ ((s.memory w.address).take w.size).drop w.done

theorem Sound.safe {s : AsyncStream address byte} (h : s.Sound) : s.Safe := by
  cases hwrites : s.outstanding with
  | nil =>
      refine ⟨?_, ?_, ?_, h.idle⟩
      · rw [hwrites]
        intro w hw
        cases hw
      · rw [hwrites]
        exact Nat.zero_le 1
      · cases hopen : s.isOpen with
        | false => exact (h.closed hopen).2
        | true => exact h.idle hopen hwrites ▸ List.prefix_refl s.wire
  | cons w ws =>
      have hw : w ∈ s.outstanding := by
        rw [hwrites]
        exact List.mem_cons_self
      rcases h.busy w hw with ⟨hone, hblock, _, hsent⟩
      refine ⟨?_, ?_, ?_, h.idle⟩
      · rw [hone]
        intro w' hw'
        rw [List.mem_singleton.mp hw']
        exact hblock
      · rw [hone]
        exact Nat.le_refl 1
      · rw [hsent]
        exact List.prefix_append _ _

theorem start_sound : (({} : AsyncStream address byte)).Sound := by
  refine ⟨fun h => ?_, fun _ _ => rfl, fun w hw => ?_⟩
  · cases h
  · cases hw

/-- Storage that is not owned is not what a write refers to. -/
theorem Sound.update_memory [DecidableEq address]
    {s : AsyncStream address byte} (h : s.Sound) {a : address}
    (ha : s.block a = none) (bytes : List byte) :
    { s with memory := Function.update s.memory a bytes }.Sound := by
  refine ⟨h.closed, h.idle, ?_⟩
  intro w hw
  rcases h.busy w hw with ⟨hone, hblock, hle, hsent⟩
  have hne : w.address ≠ a := by
    intro heq
    rw [heq, ha] at hblock
    cases hblock
  refine ⟨hone, hblock, hle, ?_⟩
  have hsame : Function.update s.memory a bytes w.address =
      s.memory w.address := Function.update_of_ne hne _ _
  simp only [hsame]
  exact hsent

theorem alloc_sound [DecidableEq address] {s s' : AsyncStream address byte}
    {a : address} {bytes : List byte}
    (h : s.Sound) (hstep : s.alloc a bytes = some s') : s'.Sound := by
  unfold alloc at hstep
  split at hstep
  · rename_i ha
    cases hstep
    rcases h.update_memory ha bytes with ⟨hclosed, hidle, hbusy⟩
    refine ⟨hclosed, hidle, ?_⟩
    intro w hw
    rcases hbusy w hw with ⟨hone, hblock, hle, hsent⟩
    refine ⟨hone, ?_, hle, hsent⟩
    have hne : w.address ≠ a := by
      intro heq
      change s.block w.address = some w.block at hblock
      rw [heq, ha] at hblock
      cases hblock
    exact (Function.update_of_ne hne _ _).trans hblock
  · cases hstep

theorem scribble_sound [DecidableEq address] {s s' : AsyncStream address byte}
    {a : address} {bytes : List byte} (h : s.Sound)
    (hstep : s.scribble a bytes = some s') : s'.Sound := by
  unfold scribble at hstep
  split at hstep
  · rename_i ha
    cases hstep
    exact h.update_memory ha bytes
  · cases hstep

theorem free_sound [DecidableEq address] {s : AsyncStream address byte}
    (h : s.Sound) {a : address}
    (ha : forall w, w ∈ s.outstanding -> w.address ≠ a) : (s.free a).Sound := by
  refine ⟨h.closed, h.idle, ?_⟩
  intro w hw
  rcases h.busy w hw with ⟨hone, hblock, hle, hsent⟩
  exact ⟨hone, (Function.update_of_ne (ha w hw) _ _).trans hblock, hle, hsent⟩

theorem startWrite_sound {s s' : AsyncStream address byte} {a : address}
    {size : Nat}
    (h : s.Sound) (hidle : s.outstanding = [])
    (hstep : s.startWrite a size = some s') : s'.Sound := by
  unfold startWrite at hstep
  split at hstep
  · cases hstep
    exact h
  · rename_i hopen
    have hopen' : s.isOpen = true := by simpa using hopen
    rcases Option.map_eq_some_iff.mp hstep with ⟨block, hblock, hs'⟩
    subst hs'
    refine ⟨fun hclosed => ?_, fun _ hnone => ?_, fun w hw => ?_⟩
    · cases hopen'.symm.trans hclosed
    · simp at hnone
    · rw [hidle, List.nil_append, List.mem_singleton] at hw
      subst hw
      refine ⟨?_, hblock, Nat.zero_le _, ?_⟩
      · show s.outstanding ++ _ = _
        rw [hidle]
        rfl
      · show s.sent ++ _ = s.wire ++ _
        rw [h.idle hopen' hidle]
        rfl

theorem progress_sound {s s' : AsyncStream address byte} {i n : Nat} (h : s.Sound)
    (hstep : s.progress i n = some s') : s'.Sound := by
  rcases Option.bind_eq_some_iff.mp hstep with ⟨w, hw, hstep⟩
  split at hstep
  · rename_i hroom
    cases hstep
    rcases h.busy w (List.mem_of_getElem? hw) with ⟨hone, hblock, _, hsent⟩
    have hi : i = 0 := by
      have hlt := (List.getElem?_eq_some_iff.mp hw).1
      rw [hone] at hlt
      exact Nat.lt_one_iff.mp hlt
    subst hi
    have hset : s.outstanding.set 0 { w with done := w.done + n } =
        [{ w with done := w.done + n }] := by
      rw [hone]
      rfl
    refine ⟨fun hclosed => ?_, fun _ hnone => ?_, fun w' hw' => ?_⟩
    · have hnone := (h.closed hclosed).1
      rw [hone] at hnone
      cases hnone
    · change s.outstanding.set 0 _ = [] at hnone
      rw [hset] at hnone
      cases hnone
    · change w' ∈ s.outstanding.set 0 _ at hw'
      rw [hset, List.mem_singleton] at hw'
      subst hw'
      refine ⟨hset, hblock, hroom, ?_⟩
      show s.sent = (s.wire ++ _) ++ _
      have hfront : ((s.memory w.address).drop w.done).take n =
          (((s.memory w.address).take w.size).drop w.done).take n := by
        rw [List.drop_take, List.take_take, Nat.min_eq_left (by omega)]
      rw [hsent, hfront, List.append_assoc, ← List.drop_drop,
        List.take_append_drop]
  · cases hstep

theorem complete_sound {s s' : AsyncStream address byte} {i : Nat} (h : s.Sound)
    (hstep : s.complete i = some s') : s'.Sound := by
  rcases Option.bind_eq_some_iff.mp hstep with ⟨w, hw, hstep⟩
  split at hstep
  · rename_i hdone
    cases hstep
    rcases h.busy w (List.mem_of_getElem? hw) with ⟨hone, _, _, hsent⟩
    have hi : i = 0 := by
      have hlt := (List.getElem?_eq_some_iff.mp hw).1
      rw [hone] at hlt
      exact Nat.lt_one_iff.mp hlt
    subst hi
    have herase : s.outstanding.eraseIdx 0 = [] := by
      rw [hone]
      rfl
    have hall : s.wire = s.sent := by
      rw [hsent, hdone, List.drop_take, Nat.sub_self, List.take_zero,
        List.append_nil]
    refine ⟨fun hclosed => ?_, fun _ _ => hall, fun w' hw' => ?_⟩
    · have hnone := (h.closed hclosed).1
      rw [hone] at hnone
      cases hnone
    · change w' ∈ s.outstanding.eraseIdx 0 at hw'
      rw [herase] at hw'
      cases hw'
  · cases hstep

theorem close_sound {s : AsyncStream address byte} (h : s.Sound) : s.close.Sound := by
  refine ⟨fun _ => ⟨rfl, h.safe.in_order⟩, fun hopen => ?_, fun w hw => ?_⟩
  · cases hopen
  · cases hw

end Stream

end AsyncStream

end Foundation
end Streaming
