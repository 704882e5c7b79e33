import Mathlib.Data.List.Perm.Basic
import Mathlib.Data.List.Range
import Streaming.Foundation.Run

/-!
# The resource pool

`resource_pool` lends objects and takes them back through the deleter of the
pointers it hands out.  Calls may come from several threads; `busy_` lets one of
them at a time touch the idle objects, and the others do without.
-/

namespace Streaming
namespace Util

open Foundation

/-- Which of the objects made with `new T()`. -/
abbrev Obj := Nat

structure ResourcePool where
  poolSize : Nat := 0
  objs : List Obj

/-- A call that stands between `busy_.test_and_set()` and `busy_.clear()`. -/
inductive PoolCall where
  | getObjPtr
  | recycle (ptr : Obj)

/-- The pool, its users and the heap. -/
structure Lending where
  pool : Option ResourcePool
  busy : Option PoolCall := none
  outstanding : List Obj := []
  deleted : List Obj := []
  made : Nat

inductive PoolEvent where
  | obtain
  | release (ptr : Obj)
  | clear
  | destroy

namespace Lending

/-!
## What the calls do
-/

/-- The constructor fills every place of `objs_` with an object. -/
def resourcePool (poolSize : Nat) : Lending where
  pool := some { objs := List.range poolSize }
  made := poolSize

def kDefaultPoolSize : Nat := 64

/-- How many objects the pool is to keep. -/
def requested (poolSize : Nat) : Nat :=
  if poolSize = 0 then kDefaultPoolSize else poolSize

def create (poolSize : Nat) : Lending :=
  resourcePool (requested poolSize)

/-- `alloc_` and the pointer made of what it returns. -/
def handOutNew (w : Lending) : Lending :=
  { w with outstanding := w.made :: w.outstanding, made := w.made + 1 }

def delete (w : Lending) (ptr : Obj) : Lending :=
  { w with deleted := ptr :: w.deleted }

def obtain (w : Lending) : Option Lending :=
  match w.pool, w.busy with
  | none, _ => none
  | some _, none => some { w with busy := some .getObjPtr }
  | some _, some _ => some w.handOutNew

/-- The deleter of a pointer that was handed out. -/
def release (w : Lending) (ptr : Obj) : Option Lending :=
  if ptr ∈ w.outstanding then
    let w := { w with outstanding := w.outstanding.erase ptr }
    match w.pool, w.busy with
    | none, _ => some (w.delete ptr)
    | some _, none => some { w with busy := some (.recycle ptr) }
    | some _, some _ => some (w.delete ptr)
  else
    none

/-- What `get_obj_ptr` does once it has set `busy_`. -/
def getObjPtr (w : Lending) (p : ResourcePool) : Lending :=
  match p.objs.getLast? with
  | none => w.handOutNew
  | some ptr =>
      { w with
        pool := some { p with objs := p.objs.dropLast }
        outstanding := ptr :: w.outstanding }

/-- What `recycle` does once it has set `busy_`. -/
def recycle (w : Lending) (p : ResourcePool) (ptr : Obj) : Lending :=
  if p.objs.length >= p.poolSize then
    w.delete ptr
  else
    { w with pool := some { p with objs := p.objs ++ [ptr] } }

/-- The call that has set `busy_` does its work and clears it. -/
def clear (w : Lending) : Option Lending :=
  match w.pool, w.busy with
  | some p, some .getObjPtr => some (getObjPtr { w with busy := none } p)
  | some p, some (.recycle ptr) => some (recycle { w with busy := none } p ptr)
  | _, _ => none

/-- `~resource_pool`, once no call holds the pool. -/
def destroy (w : Lending) : Option Lending :=
  match w.pool, w.busy with
  | some p, none =>
      some { w with pool := none, deleted := p.objs ++ w.deleted }
  | _, _ => none

def step (w : Lending) : PoolEvent -> Option Lending
  | .obtain => w.obtain
  | .release ptr => w.release ptr
  | .clear => w.clear
  | .destroy => w.destroy

/-!
## What is asked of the pool
-/

def idle (w : Lending) : List Obj :=
  match w.pool with
  | some p => p.objs
  | none => []

structure Conserved (n : Nat) (w : Lending) : Prop where
  distinct : w.outstanding.Nodup
  apart : forall ptr, ptr ∈ w.outstanding -> ptr ∉ w.idle
  deletedOnce : w.deleted.Nodup
  bounded : w.idle.length <= n

/-- No release finds the pool busy. -/
def Uncontended (w : Lending) : PoolEvent -> Prop
  | .release _ => w.pool.isSome = true -> w.busy = none
  | _ => True

/-- Objects are conserved along a run of a pool made to keep `n`. -/
structure Conserves (n : Nat) (start : Lending) (es : List PoolEvent) :
    Prop where
  states : forall front back w, es = front ++ back ->
    run step start front = some w -> Conserved n w
  reused : forall front back w w' ptr, es = front ++ .clear :: back ->
    run step start front = some w -> step w .clear = some w' ->
      w.busy = some (.recycle ptr) -> w.idle.length < n -> ptr ∈ w'.idle
  restored : forall front back w, es = front ++ back ->
    run step start front = some w -> Meets Uncontended step start front ->
      w.pool.isSome = true -> w.busy = none -> w.outstanding = [] ->
        w.idle.length = n

/-- An object that comes back to the idle ones is one too many. -/
def Surplus (n : Nat) (w : Lending) : PoolEvent -> Prop
  | .clear => forall ptr, w.busy = some (.recycle ptr) -> n <= w.idle.length
  | _ => True

/-!
## The ways through a call
-/

inductive Effect : Lending -> PoolEvent -> Lending -> Prop where
  | obtain (p : ResourcePool) (out gone : List Obj) (made : Nat) :
      Effect ⟨some p, none, out, gone, made⟩ .obtain
        ⟨some p, some .getObjPtr, out, gone, made⟩
  | obtainBusy (p : ResourcePool) (call : PoolCall) (out gone : List Obj)
      (made : Nat) :
      Effect ⟨some p, some call, out, gone, made⟩ .obtain
        ⟨some p, some call, made :: out, gone, made + 1⟩
  | releaseLate (busy : Option PoolCall) (out gone : List Obj) (made : Nat)
      (ptr : Obj) (hout : ptr ∈ out) :
      Effect ⟨none, busy, out, gone, made⟩ (.release ptr)
        ⟨none, busy, out.erase ptr, ptr :: gone, made⟩
  | release (p : ResourcePool) (out gone : List Obj) (made : Nat) (ptr : Obj)
      (hout : ptr ∈ out) :
      Effect ⟨some p, none, out, gone, made⟩ (.release ptr)
        ⟨some p, some (.recycle ptr), out.erase ptr, gone, made⟩
  | releaseBusy (p : ResourcePool) (call : PoolCall) (out gone : List Obj)
      (made : Nat) (ptr : Obj) (hout : ptr ∈ out) :
      Effect ⟨some p, some call, out, gone, made⟩ (.release ptr)
        ⟨some p, some call, out.erase ptr, ptr :: gone, made⟩
  | lend (size : Nat) (front out gone : List Obj) (made : Nat) (ptr : Obj) :
      Effect ⟨some ⟨size, front ++ [ptr]⟩, some .getObjPtr, out, gone, made⟩
        .clear ⟨some ⟨size, front⟩, none, ptr :: out, gone, made⟩
  | lendNew (size : Nat) (out gone : List Obj) (made : Nat) :
      Effect ⟨some ⟨size, []⟩, some .getObjPtr, out, gone, made⟩ .clear
        ⟨some ⟨size, []⟩, none, made :: out, gone, made + 1⟩
  | drop (p : ResourcePool) (out gone : List Obj) (made : Nat) (ptr : Obj)
      (hsize : p.poolSize <= p.objs.length) :
      Effect ⟨some p, some (.recycle ptr), out, gone, made⟩ .clear
        ⟨some p, none, out, ptr :: gone, made⟩
  | keep (p : ResourcePool) (out gone : List Obj) (made : Nat) (ptr : Obj)
      (hsize : p.objs.length < p.poolSize) :
      Effect ⟨some p, some (.recycle ptr), out, gone, made⟩ .clear
        ⟨some { p with objs := p.objs ++ [ptr] }, none, out, gone, made⟩
  | destroy (p : ResourcePool) (out gone : List Obj) (made : Nat) :
      Effect ⟨some p, none, out, gone, made⟩ .destroy
        ⟨none, none, out, p.objs ++ gone, made⟩

theorem release_effect {w w' : Lending} {ptr : Obj}
    (h : w.release ptr = some w') : Effect w (.release ptr) w' := by
  rcases w with ⟨pool, busy, out, gone, made⟩
  unfold release at h
  split at h
  next hout =>
    cases pool with
    | none =>
        cases h
        exact .releaseLate busy out gone made ptr hout
    | some p =>
        cases busy with
        | none =>
            cases h
            exact .release p out gone made ptr hout
        | some call =>
            cases h
            exact .releaseBusy p call out gone made ptr hout
  next => cases h

theorem getObjPtr_effect (p : ResourcePool) (out gone : List Obj)
    (made : Nat) :
    Effect ⟨some p, some .getObjPtr, out, gone, made⟩ .clear
      (getObjPtr ⟨some p, none, out, gone, made⟩ p) := by
  rcases p with ⟨size, objs⟩
  cases objs using List.reverseRecOn with
  | nil => exact .lendNew size out gone made
  | append_singleton front ptr =>
      have hlast : (front ++ [ptr]).getLast? = some ptr :=
        List.getLast?_concat
      simp only [getObjPtr, hlast, List.dropLast_concat]
      exact .lend size front out gone made ptr

theorem recycle_effect (p : ResourcePool) (out gone : List Obj) (made : Nat)
    (ptr : Obj) :
    Effect ⟨some p, some (.recycle ptr), out, gone, made⟩ .clear
      (recycle ⟨some p, none, out, gone, made⟩ p ptr) := by
  unfold recycle
  split
  next hsize => exact .drop p out gone made ptr hsize
  next hsize => exact .keep p out gone made ptr (Nat.not_le.mp hsize)

theorem step_effect {w w' : Lending} {e : PoolEvent}
    (h : w.step e = some w') : Effect w e w' := by
  cases e with
  | release ptr => exact release_effect h
  | obtain =>
      rcases w with ⟨_ | p, _ | call, out, gone, made⟩ <;> cases h
      · exact .obtain p out gone made
      · exact .obtainBusy p call out gone made
  | clear =>
      rcases w with ⟨_ | p, _ | _ | ptr, out, gone, made⟩ <;> cases h
      · exact getObjPtr_effect p out gone made
      · exact recycle_effect p out gone made ptr
  | destroy =>
      rcases w with ⟨_ | p, _ | call, out, gone, made⟩ <;> cases h
      exact .destroy p out gone made

/-!
## Every object is in one place
-/

/-- The object that a release is about to give back. -/
def inHand (w : Lending) : List Obj :=
  match w.busy with
  | some (.recycle ptr) => [ptr]
  | _ => []

def everything (w : Lending) : List Obj :=
  w.idle ++ w.inHand ++ w.outstanding ++ w.deleted

structure Invariant (n : Nat) (w : Lending) : Prop where
  everything : w.everything.Perm (List.range w.made)
  unsized : forall p, w.pool = some p -> p.poolSize = 0
  held : w.busy.isSome = true -> w.pool.isSome = true
  bounded : w.idle.length <= n

/-- An event moves objects from place to place or makes a new one. -/
theorem Effect.everything {w w' : Lending} {e : PoolEvent}
    (h : Effect w e w') (hw : w.everything.Perm (List.range w.made)) :
    w'.everything.Perm (List.range w'.made) := by
  apply List.perm_iff_count.mpr
  intro x
  have hbefore := List.perm_iff_count.mp hw x
  have herase : forall {out : List Obj} {ptr}, ptr ∈ out -> out.count x =
      (out.erase ptr).count x + if ptr == x then 1 else 0 := by
    intro out ptr hout
    rw [(List.perm_cons_erase hout).count_eq x, List.count_cons]
  cases h <;>
    simp only [Lending.everything, idle, inHand, List.range_succ,
      List.count_append, List.count_cons, List.count_nil] at hbefore ⊢
  case releaseLate hout =>
    have := herase hout
    omega
  case release hout =>
    have := herase hout
    omega
  case releaseBusy hout =>
    have := herase hout
    omega
  all_goals omega

theorem Effect.unsized {w w' : Lending} {e : PoolEvent} (h : Effect w e w')
    (hw : forall p, w.pool = some p -> p.poolSize = 0) :
    forall p, w'.pool = some p -> p.poolSize = 0 := by
  intro p hp
  cases h <;> cases hp
  case lend size front out gone made ptr => exact hw ⟨size, front ++ [ptr]⟩ rfl
  case keep p out gone made ptr hsize => exact hw p rfl
  all_goals exact hw _ rfl

theorem Effect.held {w w' : Lending} {e : PoolEvent} (h : Effect w e w')
    (hw : w.busy.isSome = true -> w.pool.isSome = true) :
    w'.busy.isSome = true -> w'.pool.isSome = true := by
  cases h
  case releaseLate => exact hw
  case destroy => exact fun h => nomatch h
  all_goals exact fun _ => rfl

/-- A pool that goes by size 0 keeps nothing that comes back. -/
theorem Effect.idle_le {w w' : Lending} {e : PoolEvent} (h : Effect w e w')
    (hw : forall p, w.pool = some p -> p.poolSize = 0) :
    w'.idle.length <= w.idle.length := by
  cases h
  case keep p out gone made ptr hsize =>
    rw [hw p rfl] at hsize
    exact absurd hsize (Nat.not_lt_zero _)
  case lend => simp [idle]
  case destroy => exact Nat.zero_le _
  all_goals exact Nat.le_refl _

theorem Invariant.step {n : Nat} {w w' : Lending} {e : PoolEvent}
    (hw : Invariant n w) (h : w.step e = some w') : Invariant n w' :=
  have heffect := step_effect h
  { everything := heffect.everything hw.everything
    unsized := heffect.unsized hw.unsized
    held := heffect.held hw.held
    bounded := (heffect.idle_le hw.unsized).trans hw.bounded }

theorem resourcePool_invariant (n : Nat) : Invariant n (resourcePool n) where
  everything := by simp [everything, resourcePool, idle, inHand]
  unsized p hp := by
    cases hp
    rfl
  held h := nomatch h
  bounded := by simp [resourcePool, idle]

theorem run_invariant {n : Nat} {w : Lending} {es : List PoolEvent}
    (h : run step (resourcePool n) es = some w) : Invariant n w :=
  run_keeps Invariant.step (resourcePool_invariant n) h

theorem Invariant.nodup {n : Nat} {w : Lending} (hw : Invariant n w) :
    w.everything.Nodup :=
  hw.everything.nodup_iff.mpr List.nodup_range

theorem Invariant.conserved {n : Nat} {w : Lending} (hw : Invariant n w) :
    Conserved n w := by
  have hnodup := hw.nodup
  simp only [Lending.everything, List.nodup_append, List.mem_append] at hnodup
  rcases hnodup with ⟨⟨⟨-, -, -⟩, hout, hapart⟩, hgone, -⟩
  constructor
  · exact hout
  · intro ptr hptr hidle
    exact hapart ptr (Or.inl hidle) ptr hptr rfl
  · exact hgone
  · exact hw.bounded

/-!
## When what comes back is reused
-/

/-- With what is lent out and on its way back there are `n` objects. -/
def Enough (n : Nat) (w : Lending) : Prop :=
  w.pool.isSome = true ->
    n <= w.idle.length + w.inHand.length + w.outstanding.length

theorem Effect.enough {n : Nat} {w w' : Lending} {e : PoolEvent}
    (h : Effect w e w') (hfree : w.Uncontended e) (hsurplus : w.Surplus n e)
    (hw : w.Enough n) : w'.Enough n := by
  intro hpool
  cases h
  case releaseLate => cases hpool
  case destroy => cases hpool
  case releaseBusy => exact absurd (hfree rfl) (by simp)
  case drop ptr hsize => exact Nat.le_add_right_of_le (hsurplus ptr rfl)
  case release hout =>
    have := List.length_erase_of_mem hout
    have := List.length_pos_of_mem hout
    have := hw rfl
    simp only [idle, inHand, List.length_nil, List.length_singleton] at this ⊢
    omega
  all_goals
    have := hw rfl
    simp [idle, inHand] at this ⊢
    omega

theorem run_enough {n : Nat} {w : Lending} {es : List PoolEvent}
    (hsurplus : Meets (Surplus n) step (resourcePool n) es)
    (hfree : Meets Uncontended step (resourcePool n) es)
    (h : run step (resourcePool n) es = some w) : w.Enough n := by
  have hboth : Meets (fun w e => w.Uncontended e ∧ w.Surplus n e) step
      (resourcePool n) es := fun front e back t hes ht =>
    ⟨hfree front e back t hes ht, hsurplus front e back t hes ht⟩
  apply run_keeps_of_meets (I := Enough n) _ _ _ hboth h
  · intro s e s' hs hguard hstep
    exact (step_effect hstep).enough hguard.1 hguard.2 hs
  · intro _
    simp [resourcePool, idle]

theorem Invariant.clears {n : Nat} {w : Lending} {ptr : Obj}
    (hw : Invariant n w) (hbusy : w.busy = some (.recycle ptr)) :
    exists w', w.step .clear = some w' := by
  rcases w with ⟨pool, busy, out, gone, made⟩
  cases hbusy
  cases pool with
  | none => exact absurd (hw.held rfl) (by simp)
  | some p => exact ⟨_, rfl⟩

/-- What is dropped is not among the idle objects. -/
theorem recycle_dropped {n : Nat} {w w' : Lending} {ptr : Obj}
    (hw : Invariant n w) (hbusy : w.busy = some (.recycle ptr))
    (h : w.step .clear = some w') : ptr ∉ w'.idle := by
  have hw' := hw.step h
  cases step_effect h
  case drop =>
    cases hbusy
    intro hidle
    have hnodup := hw'.nodup
    simp only [everything, List.nodup_append, List.mem_append] at hnodup
    exact hnodup.2.2 ptr (.inl (.inl hidle)) ptr (List.mem_cons_self) rfl
  case keep hsize =>
    rw [hw.unsized _ rfl] at hsize
    exact absurd hsize (Nat.not_lt_zero _)
  all_goals cases hbusy

/-- A pool of `n` conserves its objects just as long as every object that comes
back to it is one too many. -/
theorem conserves_iff_surplus (n : Nat) (es : List PoolEvent) :
    Conserves (requested n) (create n) es <->
      Meets (Surplus (requested n)) step (create n) es := by
  unfold create
  generalize requested n = n
  constructor
  · intro h front e back w hes hfront
    cases e with
    | clear =>
        intro ptr hbusy
        apply Nat.le_of_not_lt
        intro hless
        have hw := run_invariant hfront
        rcases hw.clears hbusy with ⟨w', hstep⟩
        exact recycle_dropped hw hbusy hstep
          (h.reused front back w w' ptr hes hfront hstep hbusy hless)
    | _ => trivial
  · intro h
    constructor
    · intro front back w _ hfront
      exact (run_invariant hfront).conserved
    · intro front back w w' ptr hes hfront _ hbusy hless
      have hsurplus := h front .clear back w hes hfront ptr hbusy
      exact absurd hless (Nat.not_lt.mpr hsurplus)
    · intro front back w hes hfront hfree hpool hbusy hout
      have hfront' : Meets (Surplus n) step (resourcePool n)
          front := by
        rw [hes] at h
        exact h.front
      have henough := run_enough hfront' hfree hfront hpool
      simp only [inHand, hbusy, hout, List.length_nil] at henough
      exact Nat.le_antisymm (run_invariant hfront).bounded henough

/-- A pool of one object, which is lent and given back: it is deleted. -/
theorem conserves_returned :
    ¬ Conserves 1 (create 1) [.obtain, .clear, .release 0, .clear] := by
  intro h
  have hmem := h.reused [.obtain, .clear, .release 0] []
    ⟨some ⟨0, []⟩, some (.recycle 0), [], [], 1⟩
    ⟨some ⟨0, []⟩, none, [], [0], 1⟩ 0 rfl rfl rfl rfl (by decide)
  exact List.not_mem_nil hmem

end Lending

end Util
end Streaming
