import Mathlib.Data.List.Induction

/-!
# Runs of a machine

A machine takes events one at a time.  An event that cannot happen where the
machine stands gives no state, and neither does a run that contains it.
-/

namespace Streaming
namespace Foundation

section Run

variable {state event : Type}

def run (step : state -> event -> Option state) :
    state -> List event -> Option state
  | s, [] => some s
  | s, e :: es => (step s e).bind fun t => run step t es

variable {step : state -> event -> Option state}

@[simp] theorem run_nil (s : state) : run step s [] = some s := rfl

theorem run_cons {s s' : state} {e : event} {es : List event} :
    run step s (e :: es) = some s' <->
      exists t, step s e = some t ∧ run step t es = some s' := by
  simp only [run, Option.bind_eq_some_iff]

theorem run_append {s s' : state} {es fs : List event} :
    run step s (es ++ fs) = some s' <->
      exists t, run step s es = some t ∧ run step t fs = some s' := by
  induction es generalizing s with
  | nil => simp
  | cons e es ih =>
      simp only [List.cons_append, run_cons, ih]
      constructor
      · intro h
        rcases h with ⟨t, he, u, hes, hfs⟩
        exact ⟨u, ⟨t, he, hes⟩, hfs⟩
      · intro h
        rcases h with ⟨u, ⟨t, he, hes⟩, hfs⟩
        exact ⟨t, he, u, hes, hfs⟩

theorem run_snoc {s s' : state} {es : List event} {e : event} :
    run step s (es ++ [e]) = some s' <->
      exists t, run step s es = some t ∧ step t e = some s' := by
  rw [run_append]
  simp only [run_cons, run_nil, Option.some.injEq, exists_eq_right]

/-!
## Invariants
-/

/-- What every step keeps, every run keeps. -/
theorem run_keeps {I : state -> Prop}
    (hstep : forall {s e s'}, I s -> step s e = some s' -> I s')
    {s s' : state} {es : List event} (hs : I s)
    (h : run step s es = some s') : I s' := by
  induction es generalizing s with
  | nil =>
      cases h
      exact hs
  | cons e es ih =>
      rcases run_cons.mp h with ⟨t, he, hes⟩
      exact ih (hstep hs he) hes

/-- What every step carries on from a history to the next, every run does. -/
theorem run_history {I : List event -> state -> Prop} {s : state}
    (hstart : I [] s)
    (hstep : forall {es t e t'}, run step s es = some t -> I es t ->
      step t e = some t' -> I (es ++ [e]) t')
    {s' : state} {es : List event} (h : run step s es = some s') : I es s' := by
  induction es using List.reverseRecOn generalizing s' with
  | nil =>
      cases h
      exact hstart
  | append_singleton es e ih =>
      rcases run_snoc.mp h with ⟨t, hes, he⟩
      exact hstep hes (ih hes) he

/-- Every event of a run meets a condition in the state where it happens. -/
def Meets (guard : state -> event -> Prop)
    (step : state -> event -> Option state) (s : state) (es : List event) :
    Prop :=
  forall front e back t, es = front ++ e :: back ->
    run step s front = some t -> guard t e

theorem Meets.head {guard : state -> event -> Prop} {s : state} {e : event}
    {es : List event} (h : Meets guard step s (e :: es)) : guard s e :=
  h [] e es s rfl rfl

theorem Meets.tail {guard : state -> event -> Prop} {s t : state} {e : event}
    {es : List event} (h : Meets guard step s (e :: es))
    (he : step s e = some t) : Meets guard step t es := by
  intro front e' back u hes hfront
  apply h (e :: front) e' back u
  · rw [hes]
    rfl
  · exact run_cons.mpr ⟨t, he, hfront⟩

theorem Meets.front {guard : state -> event -> Prop} {s : state}
    {es fs : List event} (h : Meets guard step s (es ++ fs)) :
    Meets guard step s es := by
  intro front e back t hes hfront
  apply h front e (back ++ fs) t
  · rw [hes]
    simp
  · exact hfront

theorem Meets.behind {guard : state -> event -> Prop} {s t : state}
    {es fs : List event} (h : Meets guard step s (es ++ fs))
    (hes : run step s es = some t) : Meets guard step t fs := by
  intro front e back u hfs hfront
  apply h (es ++ front) e back u
  · rw [hfs, List.append_assoc]
  · exact run_append.mpr ⟨t, hes, hfront⟩

theorem Meets.cons {guard : state -> event -> Prop} {s : state} {e : event}
    {es : List event} (he : guard s e)
    (hes : forall t, step s e = some t -> Meets guard step t es) :
    Meets guard step s (e :: es) := by
  intro front e' back u heq hfront
  cases front with
  | nil =>
      cases heq
      cases hfront
      exact he
  | cons e₁ front =>
      cases heq
      rcases run_cons.mp hfront with ⟨t, ht, hu⟩
      exact hes t ht front e' back u rfl hu

/-- An invariant of the steps that meet the condition. -/
theorem run_keeps_of_meets {I : state -> Prop}
    (guard : state -> event -> Prop)
    (hstep : forall {s e s'}, I s -> guard s e -> step s e = some s' -> I s')
    {s s' : state} {es : List event} (hs : I s)
    (hguard : Meets guard step s es) (h : run step s es = some s') : I s' := by
  induction es generalizing s with
  | nil =>
      cases h
      exact hs
  | cons e es ih =>
      rcases run_cons.mp h with ⟨t, he, hes⟩
      exact ih (hstep hs hguard.head he) (hguard.tail he) hes

/-- When no step that fails the condition ends well, a run that goes well meets
the condition throughout. -/
theorem meets_of_good {I good : state -> Prop} {guard : state -> event -> Prop}
    (hstep : forall {s e s'}, I s -> guard s e -> step s e = some s' -> I s')
    (hneed : forall {s e s'}, I s -> step s e = some s' -> good s' -> guard s e)
    {s s' : state} {es : List event} (hs : I s) (h : run step s es = some s')
    (hgood : forall front back t, es = front ++ back ->
      run step s front = some t -> good t) : Meets guard step s es := by
  induction es generalizing s with
  | nil =>
      intro front e back t heq
      cases front <;> cases heq
  | cons e es ih =>
      rcases run_cons.mp h with ⟨t, he, hes⟩
      have hfirst : good t := hgood [e] es t rfl (run_cons.mpr ⟨t, he, rfl⟩)
      have hguard := hneed hs he hfirst
      apply Meets.cons hguard
      intro t' ht'
      cases he.symm.trans ht'
      apply ih (hstep hs hguard he) hes
      intro front back u heq hfront
      apply hgood (e :: front) back u
      · rw [heq]
        rfl
      · exact run_cons.mpr ⟨t, he, hfront⟩

/-- The same of a sequence of events that may get stuck, when the condition asks
nothing of an event that cannot happen. -/
theorem meets_of_good_front {I good : state -> Prop}
    {guard : state -> event -> Prop}
    (hstep : forall {s e s'}, I s -> guard s e -> step s e = some s' -> I s')
    (hneed : forall {s e s'}, I s -> step s e = some s' -> good s' -> guard s e)
    (hstuck : forall {s e}, step s e = none -> guard s e)
    {s : state} {es : List event} (hs : I s)
    (hgood : forall front back t, es = front ++ back ->
      run step s front = some t -> good t) : Meets guard step s es := by
  intro front e back t hes hfront
  cases he : step t e with
  | none => exact hstuck he
  | some u =>
      apply meets_of_good hstep hneed hs (run_snoc.mpr ⟨t, hfront, he⟩) _
        front e [] t rfl hfront
      intro front' back' v hes' hfront'
      apply hgood front' (back' ++ back) v _ hfront'
      rw [hes, ← List.append_assoc, ← hes', List.append_assoc]
      rfl

end Run

end Foundation
end Streaming
