import Mathlib.Logic.Equiv.Basic

/-!
# Cells and their owners

A heap hands out cells and takes them back.  It is in order when every cell in
use is held by one owner, and an owner that exchanges its cell for another keeps
it so.
-/

namespace Streaming
namespace Foundation

/-!
## The heap
-/

/-- The cells in use.  None has a number that is still to be given out. -/
structure Heap (value : Type) where
  cells : Nat -> Option value
  next : Nat
  fresh : forall c, next <= c -> cells c = none

namespace Heap

variable {value : Type}

def empty : Heap value where
  cells _ := none
  next := 0
  fresh _ _ := rfl

/-- The cell that `alloc` hands out is `h.next`. -/
def alloc (h : Heap value) (v : value) : Heap value where
  cells := Function.update h.cells h.next (some v)
  next := h.next + 1
  fresh c hc := by
    rw [Function.update_of_ne (Nat.ne_of_gt hc)]
    exact h.fresh c (Nat.le_of_succ_le hc)

def free (h : Heap value) (c : Nat) : Heap value where
  cells := Function.update h.cells c none
  next := h.next
  fresh d hd := by
    rw [Function.update_apply, h.fresh d hd, ite_self]

def modify (h : Heap value) (c : Nat) (f : value -> value) : Heap value where
  cells := Function.update h.cells c ((h.cells c).map f)
  next := h.next
  fresh d hd := by
    by_cases hdc : d = c
    · rw [hdc, Function.update_self, ← hdc, h.fresh d hd]
      rfl
    · rw [Function.update_of_ne hdc, h.fresh d hd]

@[simp] theorem alloc_self (h : Heap value) (v : value) :
    (h.alloc v).cells h.next = some v :=
  Function.update_self _ _ _

theorem alloc_other (h : Heap value) (v : value) {c : Nat} (hc : c ≠ h.next) :
    (h.alloc v).cells c = h.cells c :=
  Function.update_of_ne hc _ _

@[simp] theorem free_self (h : Heap value) (c : Nat) :
    (h.free c).cells c = none :=
  Function.update_self _ _ _

theorem free_other (h : Heap value) {c d : Nat} (hd : d ≠ c) :
    (h.free c).cells d = h.cells d :=
  Function.update_of_ne hd _ _

@[simp] theorem modify_self (h : Heap value) (c : Nat) (f : value -> value) :
    (h.modify c f).cells c = (h.cells c).map f :=
  Function.update_self _ _ _

theorem modify_other (h : Heap value) {c d : Nat} (f : value -> value)
    (hd : d ≠ c) : (h.modify c f).cells d = h.cells d :=
  Function.update_of_ne hd _ _

theorem next_free (h : Heap value) : h.cells h.next = none :=
  h.fresh h.next (Nat.le_refl _)

/-!
## Exchanging one cell for another
-/

/-- Of all cells only the one given up and the one received have changed. -/
structure Exchange (h h' : Heap value) (old new : Option Nat) : Prop where
  others : forall c, old ≠ some c -> new ≠ some c -> h'.cells c = h.cells c
  freed : forall c, old = some c -> new ≠ some c -> h'.cells c = none
  unused : forall c, new = some c -> old ≠ some c -> h.cells c = none
  live : forall c, new = some c -> (h'.cells c).isSome = true

theorem Exchange.of_same {h h' : Heap value} {held : Option Nat}
    (hsame : forall c, h'.cells c = h.cells c)
    (hlive : forall c, held = some c -> (h.cells c).isSome = true) :
    Exchange h h' held held where
  others c _ _ := hsame c
  freed _ hold hnew := absurd hold hnew
  unused _ hnew hold := absurd hnew hold
  live c hc := by
    rw [hsame c]
    exact hlive c hc

theorem Exchange.refl {h : Heap value} {held : Option Nat}
    (hlive : forall c, held = some c -> (h.cells c).isSome = true) :
    Exchange h h held held :=
  .of_same (fun _ => rfl) hlive

theorem Exchange.trans {h₁ h₂ h₃ : Heap value} {a b d : Option Nat}
    (h₁₂ : Exchange h₁ h₂ a b) (h₂₃ : Exchange h₂ h₃ b d) :
    Exchange h₁ h₃ a d where
  others c ha hd := by
    by_cases hb : b = some c
    · rw [h₂₃.freed c hb hd, h₁₂.unused c hb ha]
    · rw [h₂₃.others c hb hd, h₁₂.others c ha hb]
  freed c ha hd := by
    by_cases hb : b = some c
    · exact h₂₃.freed c hb hd
    · rw [h₂₃.others c hb hd]
      exact h₁₂.freed c ha hb
  unused c hd ha := by
    by_cases hb : b = some c
    · exact h₁₂.unused c hb ha
    · rw [← h₁₂.others c ha hb]
      exact h₂₃.unused c hd hb
  live := h₂₃.live

theorem exchange_alloc (h : Heap value) (v : value) :
    Exchange h (h.alloc v) none (some h.next) where
  others c _ hc := h.alloc_other v fun heq => hc (congrArg some heq.symm)
  freed _ hold := nomatch hold
  unused c hnew _ := by
    cases hnew
    exact h.next_free
  live c hnew := by
    cases hnew
    rw [alloc_self]
    rfl

theorem exchange_free (h : Heap value) (c : Nat) :
    Exchange h (h.free c) (some c) none where
  others d hd _ := h.free_other fun heq => hd (congrArg some heq.symm)
  freed d hold _ := by
    cases hold
    exact h.free_self c
  unused _ hnew := nomatch hnew
  live _ hnew := nomatch hnew

theorem exchange_modify (h : Heap value) (c : Nat) (f : value -> value)
    (hc : (h.cells c).isSome = true) :
    Exchange h (h.modify c f) (some c) (some c) where
  others d hd _ := h.modify_other f fun heq => hd (congrArg some heq.symm)
  freed _ hold hnew := absurd hold hnew
  unused _ hnew hold := absurd hnew hold
  live d hnew := by
    cases hnew
    rw [modify_self, Option.isSome_map]
    exact hc

/-- A new cell is none of those in use. -/
theorem Exchange.apart {h₁ h₂ : Heap value} {old new : Option Nat}
    (hnew : Exchange h₁ h₂ none new)
    (hlive : forall c, old = some c -> (h₁.cells c).isSome = true) {c : Nat}
    (hc : new = some c) : old ≠ some c := by
  intro hold
  have hused := hlive c hold
  rw [hnew.unused c hc (by simp)] at hused
  cases hused

/-- A new cell first, and the old one given back behind it. -/
theorem Exchange.replace {h₁ h₂ h₃ : Heap value} {old new : Option Nat}
    (hnew : Exchange h₁ h₂ none new) (hold : Exchange h₂ h₃ old none)
    (hlive : forall c, old = some c -> (h₁.cells c).isSome = true) :
    Exchange h₁ h₃ old new where
  others c hoc hnc := by
    rw [hold.others c hoc (by simp), hnew.others c (by simp) hnc]
  freed c hoc _ := hold.freed c hoc (by simp)
  unused c hnc _ := hnew.unused c hnc (by simp)
  live c hnc := by
    rw [hold.others c (hnew.apart hlive hnc) (by simp)]
    exact hnew.live c hnc

end Heap

/-!
## Every cell has its owner
-/

section Accounted

variable {value owner : Type}

structure Accounted (h : Heap value) (holds : owner -> Option Nat) : Prop where
  live : forall o c, holds o = some c -> (h.cells c).isSome = true
  sole : forall o p c, holds o = some c -> holds p = some c -> o = p
  found : forall c, (h.cells c).isSome = true -> exists o, holds o = some c

/-- What an owner receives belongs to nobody else. -/
theorem Accounted.apart {h h' : Heap value} {holds : owner -> Option Nat}
    {new : Option Nat} {o p : owner} {c : Nat} (hh : Accounted h holds)
    (hx : h.Exchange h' (holds o) new) (hp : p ≠ o) (hc : holds p = some c) :
    holds o ≠ some c ∧ new ≠ some c := by
  have hold : holds o ≠ some c := fun ho => hp (hh.sole p o c hc ho)
  constructor
  · exact hold
  · intro hnew
    have hlive := hh.live p c hc
    rw [hx.unused c hnew hold] at hlive
    cases hlive

/-- The cells of the other owners are as they were. -/
theorem Accounted.frame {h h' : Heap value} {holds : owner -> Option Nat}
    {new : Option Nat} {o p : owner} {c : Nat} (hh : Accounted h holds)
    (hx : h.Exchange h' (holds o) new) (hp : p ≠ o) (hc : holds p = some c) :
    h'.cells c = h.cells c := by
  have hapart := hh.apart hx hp hc
  exact hx.others c hapart.1 hapart.2

theorem Accounted.exchange [DecidableEq owner] {h h' : Heap value}
    {holds : owner -> Option Nat} {new : Option Nat} {o : owner}
    (hh : Accounted h holds) (hx : h.Exchange h' (holds o) new) :
    Accounted h' (Function.update holds o new) where
  live p c hc := by
    by_cases hp : p = o
    · rw [hp, Function.update_self] at hc
      exact hx.live c hc
    · rw [Function.update_of_ne hp] at hc
      rw [hh.frame hx hp hc]
      exact hh.live p c hc
  sole p q c hpc hqc := by
    by_cases hp : p = o
    · by_cases hq : q = o
      · rw [hp, hq]
      · rw [hp, Function.update_self] at hpc
        rw [Function.update_of_ne hq] at hqc
        exact absurd hpc (hh.apart hx hq hqc).2
    · rw [Function.update_of_ne hp] at hpc
      by_cases hq : q = o
      · rw [hq, Function.update_self] at hqc
        exact absurd hqc (hh.apart hx hp hpc).2
      · rw [Function.update_of_ne hq] at hqc
        exact hh.sole p q c hpc hqc
  found c hc := by
    by_cases hnew : new = some c
    · exact ⟨o, by rw [Function.update_self, hnew]⟩
    · have hold : holds o ≠ some c := by
        intro hold
        rw [hx.freed c hold hnew] at hc
        cases hc
      rw [hx.others c hold hnew] at hc
      rcases hh.found c hc with ⟨p, hp⟩
      have hpo : p ≠ o := fun heq => hold (heq ▸ hp)
      exact ⟨p, by rw [Function.update_of_ne hpo, hp]⟩

/-- Owners may trade places. -/
theorem Accounted.permute {h : Heap value} {holds : owner -> Option Nat}
    (hh : Accounted h holds) (σ : Equiv.Perm owner) :
    Accounted h fun o => holds (σ o) where
  live o c hc := hh.live (σ o) c hc
  sole o p c ho hp := σ.injective (hh.sole (σ o) (σ p) c ho hp)
  found c hc := by
    rcases hh.found c hc with ⟨o, ho⟩
    exact ⟨σ.symm o, by rw [Equiv.apply_symm_apply, ho]⟩

end Accounted

end Foundation
end Streaming
