import Mathlib.Logic.Function.Basic

/-!
# Refinement

A machine answers operations one after the other.  A specification says which
answers are allowed in which of its own states, and where they lead.  What is
shown for one operation holds for every sequence of them, and for every family
of machines that are called and copied in any order.
-/

namespace Streaming
namespace Foundation

section Refinement

variable {op answer state spec : Type}

/-- The answers to a sequence of operations, and the state behind them. -/
def answers (step : op -> state -> answer × state) :
    List op -> state -> List answer × state
  | [], s => ([], s)
  | o :: os, s =>
      let first := step o s
      let rest := answers step os first.2
      (first.1 :: rest.1, rest.2)

/-- A sequence of operations is answered as a specification allows. -/
inductive AllowsAll (allowed : spec -> op -> answer -> spec -> Prop) :
    spec -> List op -> List answer -> spec -> Prop where
  | nil {q : spec} : AllowsAll allowed q [] [] q
  | cons {q q' q'' : spec} {o : op} {a : answer} {os : List op}
      {as : List answer} (first : allowed q o a q')
      (rest : AllowsAll allowed q' os as q'') :
      AllowsAll allowed q (o :: os) (a :: as) q''

/-- Whatever a machine answers, the specification allows, and the states that
both come to are related again. -/
def Refines (related : state -> spec -> Prop)
    (step : op -> state -> answer × state)
    (allowed : spec -> op -> answer -> spec -> Prop) : Prop :=
  forall o s q, related s q ->
    exists q', allowed q o (step o s).1 q' ∧ related (step o s).2 q'

variable {related : state -> spec -> Prop}
  {step : op -> state -> answer × state}
  {allowed : spec -> op -> answer -> spec -> Prop}

theorem Refines.all (h : Refines related step allowed) (os : List op)
    {s : state} {q : spec} (hs : related s q) :
    exists q', AllowsAll allowed q os (answers step os s).1 q' ∧
      related (answers step os s).2 q' := by
  induction os generalizing s q with
  | nil => exact ⟨q, AllowsAll.nil, hs⟩
  | cons o os ih =>
      rcases h o s q hs with ⟨t, hfirst, ht⟩
      rcases ih ht with ⟨q', hrest, hq'⟩
      exact ⟨q', AllowsAll.cons hfirst hrest, hq'⟩

/-!
## Families

Every machine of a family is called on its own.  One of them may also take over
the contents of another.
-/

variable {index how : Type} [DecidableEq index]

inductive FamilyOp (index op how : Type) where
  | call (i : index) (o : op)
  | copy (kind : how) (target source : index)

/-- A copy gives no answer. -/
def familyStep (step : op -> state -> answer × state)
    (copy : how -> state -> state -> state) :
    FamilyOp index op how -> (index -> state) -> Option answer × (index -> state)
  | .call i o, s =>
      (some (step o (s i)).1, Function.update s i (step o (s i)).2)
  | .copy kind target source, s =>
      (none, Function.update s target (copy kind (s target) (s source)))

/-- A call is allowed where its own machine allows it; a copy makes two states
the same.  The others stay what they are. -/
def familyAllowed (allowed : spec -> op -> answer -> spec -> Prop)
    (q : index -> spec) :
    FamilyOp index op how -> Option answer -> (index -> spec) -> Prop
  | .call i o, a, q' =>
      exists b t, a = some b ∧ allowed (q i) o b t ∧ q' = Function.update q i t
  | .copy _ target source, a, q' =>
      a = none ∧ q' = Function.update q target (q source)

theorem related_update {s : index -> state} {q : index -> spec}
    (h : forall i, related (s i) (q i)) {i : index} {t : state} {r : spec}
    (ht : related t r) (j : index) :
    related (Function.update s i t j) (Function.update q i r j) := by
  rw [Function.update_apply, Function.update_apply]
  split
  · exact ht
  · exact h j

theorem Refines.family {copy : how -> state -> state -> state}
    (h : Refines related step allowed)
    (hcopy : forall kind target source q, related source q ->
      related (copy kind target source) q) :
    Refines (fun s q => forall i : index, related (s i) (q i))
      (familyStep step copy) (familyAllowed allowed) := by
  intro o s q hs
  cases o with
  | call i o =>
      rcases h o (s i) (q i) (hs i) with ⟨t, hanswer, ht⟩
      exact ⟨Function.update q i t, ⟨_, t, rfl, hanswer, rfl⟩,
        related_update hs ht⟩
  | copy kind target source =>
      exact ⟨Function.update q target (q source), ⟨rfl, rfl⟩,
        related_update hs (hcopy kind (s target) (s source) _ (hs source))⟩

end Refinement

end Foundation
end Streaming
