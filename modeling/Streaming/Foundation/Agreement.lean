import Streaming.Foundation.Resumable

/-!
# Two parsers on one input

Two parsers with states of different kinds read the same input.  As long as each
look of the one is like the other's, they come to like ends.
-/

namespace Streaming
namespace Foundation

section Looks

variable {byte state state' item : Type}

/-- The looks of one drain that have read a unit, the latest first, with the
items read so far, the state they lead to and what is then left. -/
inductive Looks (attempt : state -> List byte -> Attempt state item)
    (s : state) (input : List byte) :
    List (state × List byte) -> List item -> state -> List byte -> Prop where
  | start : Looks attempt s input [] [] s input
  | done {before : List (state × List byte)} {items out : List item}
      {t t' : state} {rest : List byte} {k : Nat}
      (earlier : Looks attempt s input before items t rest) (hne : rest ≠ [])
      (hattempt : attempt t rest = .done t' out k) :
      Looks attempt s input ((t, rest) :: before) (items ++ out) t' (rest.drop k)

/-- Two looks report the same, and lead to states that are related. -/
def Attempt.Agree (I : state -> state' -> Prop) :
    Attempt state item -> Attempt state' item -> Prop
  | .needMore _, .needMore _ => True
  | .done s items k, .done s' items' k' => items = items' ∧ k = k' ∧ I s s'
  | .failed _ items, .failed _ items' => items = items'
  | _, _ => False

/-- Two outcomes with the same items and, unless both have failed, the same
rest. -/
def Outcome.Agree :
    Outcome byte state item -> Outcome byte state' item -> Prop
  | .waiting _ items rest, .waiting _ items' rest' =>
      items = items' ∧ rest = rest'
  | .failed _ items, .failed _ items' => items = items'
  | _, _ => False

/-- All that has been read, up to the unit that was rejected. -/
def Outcome.items : Outcome byte state item -> List item
  | .waiting _ items _ => items
  | .failed _ items => items

theorem Outcome.emit_items (items : List item) (o : Outcome byte state item) :
    (o.emit items).items = items ++ o.items := by
  cases o <;> rfl

theorem Outcome.Agree.items_eq {o : Outcome byte state item}
    {o' : Outcome byte state' item} (h : o.Agree o') : o.items = o'.items := by
  cases o with
  | waiting s items rest =>
      cases o' with
      | waiting s' items' rest' => exact h.1
      | failed s' items' => exact h.elim
  | failed s items =>
      cases o' with
      | waiting s' items' rest' => exact h.elim
      | failed s' items' => exact h

theorem Outcome.agree_emit {items : List item} {o : Outcome byte state item}
    {o' : Outcome byte state' item} :
    (o.emit items).Agree (o'.emit items) <-> o.Agree o' := by
  cases o <;> cases o' <;> simp [Outcome.emit, Outcome.Agree]

theorem Outcome.Agree.symm {o : Outcome byte state item}
    {o' : Outcome byte state' item} (h : o.Agree o') : o'.Agree o := by
  cases o with
  | waiting s items rest =>
      cases o' with
      | waiting s' items' rest' => exact ⟨h.1.symm, h.2.symm⟩
      | failed s' items' => exact h
  | failed s items =>
      cases o' with
      | waiting s' items' rest' => exact h
      | failed s' items' => exact Eq.symm h

theorem Outcome.Agree.trans {state'' : Type} {o : Outcome byte state item}
    {o' : Outcome byte state' item} {o'' : Outcome byte state'' item}
    (h : o.Agree o') (h' : o'.Agree o'') : o.Agree o'' := by
  cases o' with
  | waiting s' items' rest' =>
      cases o with
      | failed s items => exact h.elim
      | waiting s items rest =>
          cases o'' with
          | failed s'' items'' => exact h'.elim
          | waiting s'' items'' rest'' =>
              exact ⟨h.1.trans h'.1, h.2.trans h'.2⟩
  | failed s' items' =>
      cases o with
      | waiting s items rest => exact h.elim
      | failed s items =>
          cases o'' with
          | waiting s'' items'' rest'' => exact h'.elim
          | failed s'' items'' => exact Eq.trans h h'

namespace ResumableParser

variable (P : ResumableParser byte state item)
  (Q : ResumableParser byte state' item)

/-- What a drain still has to read behind some looks. -/
theorem drain_of_looks {s t : state} {input rest : List byte}
    {before : List (state × List byte)} {items : List item}
    (h : Looks P.attempt s input before items t rest) :
    drain P.attempt s input = (drain P.attempt t rest).emit items := by
  induction h with
  | start => rw [Outcome.emit_nil]
  | done earlier hne hattempt ih =>
      rw [ih, P.drain_done hne hattempt, Outcome.emit_emit]

/-- The looks come to an end, where nothing is left or no unit is read. -/
theorem exists_last_look {s t : state} {input rest : List byte}
    {before : List (state × List byte)} {items : List item}
    (h : Looks P.attempt s input before items t rest) :
    exists before' items' t' rest',
      Looks P.attempt s input before' items' t' rest' ∧
        forall u out k, rest' ≠ [] -> P.attempt t' rest' ≠ .done u out k := by
  induction t, rest using P.drain_induction generalizing before items with
  | empty t => exact ⟨_, _, _, _, h, fun _ _ _ hne => absurd rfl hne⟩
  | needMore t rest t' hne hattempt =>
      refine ⟨_, _, _, _, h, ?_⟩
      rw [hattempt]
      nofun
  | failed t rest t' out hne hattempt =>
      refine ⟨_, _, _, _, h, ?_⟩
      rw [hattempt]
      nofun
  | done t rest t' out k hne hattempt ih => exact ih (h.done hne hattempt)

/-- Behind a look of the one parser that reads a unit, the other one is there,
too. -/
theorem next_agree {I : state -> state' -> Prop} {t t' : state}
    {u u' : state'} {input rest : List byte}
    {before : List (state' × List byte)} {items out : List item} {k : Nat}
    (hne : rest ≠ []) (hlooks : Looks Q.attempt u input before items u' rest)
    (hattempt : P.attempt t rest = .done t' out k)
    (hagree : Attempt.Agree I (P.attempt t rest) (Q.attempt u' rest)) :
    exists before' v, I t' v ∧
      Looks Q.attempt u input before' (items ++ out) v (rest.drop k) := by
  rw [hattempt] at hagree
  cases hother : Q.attempt u' rest with
  | needMore v =>
      rw [hother] at hagree
      exact hagree.elim
  | failed v out' =>
      rw [hother] at hagree
      exact hagree.elim
  | done v out' k' =>
      rw [hother] at hagree
      rcases hagree with ⟨rfl, rfl, hv⟩
      exact ⟨_, v, hv, hlooks.done hne hother⟩

/-- The last look of the one is also the last one of the other. -/
theorem last_agree {I : state -> state' -> Prop} {t : state} {u : state'}
    {rest : List byte}
    (hlast : forall t' out k, rest ≠ [] -> P.attempt t rest ≠ .done t' out k)
    (hagree : rest ≠ [] ->
      Attempt.Agree I (P.attempt t rest) (Q.attempt u rest)) :
    (drain P.attempt t rest).Agree (drain Q.attempt u rest) := by
  by_cases hne : rest = []
  · subst hne
    exact ⟨rfl, rfl⟩
  have hlook := hagree hne
  cases hattempt : P.attempt t rest with
  | done t' out k => exact absurd hattempt (hlast t' out k hne)
  | needMore t' =>
      rw [hattempt] at hlook
      rw [P.drain_needMore hne hattempt]
      cases hother : Q.attempt u rest with
      | needMore v =>
          rw [Q.drain_needMore hne hother]
          exact ⟨rfl, rfl⟩
      | done v out k =>
          rw [hother] at hlook
          exact hlook.elim
      | failed v out =>
          rw [hother] at hlook
          exact hlook.elim
  | failed t' out =>
      rw [hattempt] at hlook
      rw [P.drain_failed hne hattempt]
      cases hother : Q.attempt u rest with
      | needMore v =>
          rw [hother] at hlook
          exact hlook.elim
      | done v out' k =>
          rw [hother] at hlook
          exact hlook.elim
      | failed v out' =>
          rw [hother] at hlook
          rw [Q.drain_failed hne hother]
          exact hlook

/-- A relation that holds at first and that all looks keep, with the looks that
have come before, leads the drains to like ends. -/
theorem drain_agree {I : List (state × List byte) -> state -> state' -> Prop}
    {s : state} {u : state'} {input : List byte} (hs : I [] s u)
    (hlook : forall {before items t v rest},
      Looks P.attempt s input before items t rest -> I before t v ->
        rest ≠ [] -> Attempt.Agree (I ((t, rest) :: before))
          (P.attempt t rest) (Q.attempt v rest)) :
    (drain P.attempt s input).Agree (drain Q.attempt u input) := by
  have hpaired : forall {before items t rest},
      Looks P.attempt s input before items t rest ->
        exists before' v, I before t v ∧
          Looks Q.attempt u input before' items v rest := by
    intro before items t rest h
    induction h with
    | start => exact ⟨[], u, hs, .start⟩
    | done earlier hne hattempt ih =>
        rcases ih with ⟨before', v, hv, hlooks⟩
        exact P.next_agree Q hne hlooks hattempt (hlook earlier hv hne)
  rcases P.exists_last_look .start with
    ⟨before, items, t, rest, hlooks, hlast⟩
  rcases hpaired hlooks with ⟨before', v, hv, hlooks'⟩
  rw [P.drain_of_looks hlooks, Q.drain_of_looks hlooks', Outcome.agree_emit]
  exact P.last_agree Q hlast (hlook hlooks hv)

end ResumableParser

end Looks

end Foundation
end Streaming
