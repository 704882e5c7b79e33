import Mathlib.Order.Defs.Unbundled

/-!
# Frame rules

What a program leaves alone is a relation between the states before and after
it.  A program keeps the relation when every normal return does; the rules
follow the way programs are put together.
-/

namespace Streaming
namespace Foundation

section Frame

variable {error state other value result : Type}

/-- What a sequence returns, its two parts returned one after the other. -/
theorem bind_eq_ok {m : EStateM error state value}
    {f : value -> EStateM error state result} {s s' : state} {b : result}
    (h : (m >>= f) s = .ok b s') :
    exists a t, m s = .ok a t ∧ f a t = .ok b s' := by
  change EStateM.bind m f s = .ok b s' at h
  unfold EStateM.bind at h
  split at h
  · rename_i a t hm
    exact ⟨a, t, hm, h⟩
  · cases h

theorem bind_of_ok {m : EStateM error state value}
    {f : value -> EStateM error state result} {s t : state} {a : value}
    (h : m s = .ok a t) : (m >>= f) s = f a t := by
  change EStateM.bind m f s = f a t
  unfold EStateM.bind
  rw [h]

theorem bind_of_error {m : EStateM error state value}
    {f : value -> EStateM error state result} {s t : state} {e : error}
    (h : m s = .error e t) : (m >>= f) s = .error e t := by
  change EStateM.bind m f s = .error e t
  unfold EStateM.bind
  rw [h]

theorem get_bind (f : state -> EStateM error state result) (s : state) :
    ((get : EStateM error state state) >>= f) s = f s s :=
  rfl

/-- The same for a program without a state. -/
theorem except_bind_eq_ok {m : Except error value}
    {f : value -> Except error result} {b : result} (h : (m >>= f) = .ok b) :
    exists a, m = .ok a ∧ f a = .ok b := by
  cases m with
  | ok a => exact ⟨a, rfl, h⟩
  | error e => cases h

/-- Two continuations may be exchanged when they agree on what is returned. -/
theorem bind_congr_of_ok {m : EStateM error state value}
    {f g : value -> EStateM error state result} {s : state}
    (h : forall a t, m s = .ok a t -> f a t = g a t) :
    (m >>= f) s = (m >>= g) s := by
  change EStateM.bind m f s = EStateM.bind m g s
  unfold EStateM.bind
  split
  · rename_i a t hm
    exact h a t hm
  · rfl

/-- Every normal return stands in the relation to the state it began with. -/
def Keeps (rel : state -> state -> Prop) (m : EStateM error state value) :
    Prop :=
  forall s a s', m s = .ok a s' -> rel s s'

namespace Keeps

variable {rel : state -> state -> Prop}

theorem pure [Std.Refl rel] (a : value) :
    Keeps rel (Pure.pure a : EStateM error state value) := by
  intro s b s' h
  cases h
  exact Std.Refl.refl s

theorem get [Std.Refl rel] :
    Keeps rel (MonadState.get : EStateM error state state) := by
  intro s b s' h
  cases h
  exact Std.Refl.refl s

theorem throw (e : error) :
    Keeps rel (MonadExcept.throw e : EStateM error state value) := by
  intro s b s' h
  cases h

theorem update {f : state -> state} (hf : forall s, rel s (f s)) :
    Keeps rel (modify f : EStateM error state PUnit) := by
  intro s b s' h
  cases h
  exact hf s

theorem bind [IsTrans state rel] {m : EStateM error state value}
    {f : value -> EStateM error state result} (hm : Keeps rel m)
    (hf : forall a, Keeps rel (f a)) : Keeps rel (m >>= f) := by
  intro s b s' h
  rcases bind_eq_ok h with ⟨a, t, hmid, hend⟩
  exact IsTrans.trans s t s' (hm s a t hmid) (hf a t b s' hend)

theorem ite {c : Prop} [Decidable c] {m n : EStateM error state value}
    (hm : Keeps rel m) (hn : Keeps rel n) : Keeps rel (if c then m else n) := by
  split
  · exact hm
  · exact hn

end Keeps

/-!
## Every way of ending

An exception keeps the changes made before it.
-/

def resultState : EStateM.Result error state value -> state
  | .ok _ s => s
  | .error _ s => s

/-- However the program ends, the state it leaves stands in the relation to the
state it began with. -/
def Leads (rel : state -> state -> Prop) (m : EStateM error state value) :
    Prop :=
  forall s, rel s (resultState (m s))

namespace Leads

variable {rel : state -> state -> Prop}

theorem pure [Std.Refl rel] (a : value) :
    Leads rel (Pure.pure a : EStateM error state value) :=
  fun s => Std.Refl.refl s

theorem update {f : state -> state} (hf : forall s, rel s (f s)) :
    Leads rel (modify f : EStateM error state PUnit) :=
  hf

theorem bind [IsTrans state rel] {m : EStateM error state value}
    {f : value -> EStateM error state result} (hm : Leads rel m)
    (hf : forall a, Leads rel (f a)) : Leads rel (m >>= f) := by
  intro s
  have hfirst := hm s
  change rel s (resultState (EStateM.bind m f s))
  unfold EStateM.bind
  split
  · rename_i a t hok
    rw [hok] at hfirst
    exact IsTrans.trans s t _ hfirst (hf a t)
  · rename_i e t herror
    rw [herror] at hfirst
    exact hfirst

end Leads

/-!
## Conditions before and after
-/

/-- Begun in a state that meets the first condition, the program meets the
second when it returns and the third when it throws. -/
def Ensures (before : state -> Prop) (m : EStateM error state value)
    (after : value -> state -> Prop) (thrown : state -> Prop) : Prop :=
  forall s, before s ->
    match m s with
    | .ok a t => after a t
    | .error _ t => thrown t

namespace Ensures

variable {before : state -> Prop} {thrown : state -> Prop}

theorem pure {after : value -> state -> Prop} {a : value}
    (h : forall s, before s -> after a s) :
    Ensures before (Pure.pure a : EStateM error state value) after thrown :=
  h

theorem bind {m : EStateM error state value}
    {f : value -> EStateM error state result} {between : value -> state -> Prop}
    {after : result -> state -> Prop} (hm : Ensures before m between thrown)
    (hf : forall a, Ensures (between a) (f a) after thrown) :
    Ensures before (m >>= f) after thrown := by
  intro s hs
  have hfirst := hm s hs
  change match EStateM.bind m f s with
    | .ok b t => after b t
    | .error _ t => thrown t
  unfold EStateM.bind
  cases hresult : m s with
  | ok a t =>
      rw [hresult] at hfirst
      exact hf a t hfirst
  | error e t =>
      rw [hresult] at hfirst
      exact hfirst

/-- A program that a condition survives, however it ends. -/
theorem of_leads {rel : state -> state -> Prop}
    {m : EStateM error state value} (hm : Leads rel m)
    (hrel : forall s t, before s -> rel s t -> thrown t) :
    Ensures before m (fun _ => thrown) thrown := by
  intro s hs
  have hend := hrel s _ hs (hm s)
  cases hresult : m s with
  | ok a t =>
      rw [hresult] at hend
      exact hend
  | error e t =>
      rw [hresult] at hend
      exact hend

theorem resultState {m : EStateM error state value} {s : state}
    (hm : Ensures before m (fun _ => thrown) thrown) (hs : before s) :
    thrown (Foundation.resultState (m s)) := by
  have hend := hm s hs
  cases hresult : m s with
  | ok a t =>
      rw [hresult] at hend
      exact hend
  | error e t =>
      rw [hresult] at hend
      exact hend

end Ensures

/-!
## Programs on one part of a pair
-/

/-- A program on the first component; the second stays as it is. -/
def onFst (m : EStateM error state value) :
    EStateM error (state × other) value := fun s =>
  match m s.1 with
  | .ok a t => .ok a (t, s.2)
  | .error e t => .error e (t, s.2)

theorem onFst_ok {m : EStateM error state value} {s s' : state × other}
    {a : value} (h : onFst m s = .ok a s') :
    m s.1 = .ok a s'.1 ∧ s'.2 = s.2 := by
  unfold onFst at h
  split at h
  · rename_i b t hm
    cases h
    exact ⟨hm, rfl⟩
  · cases h

theorem onFst_of_ok {m : EStateM error state value} {s : state × other}
    {t : state} {a : value} (h : m s.1 = .ok a t) :
    onFst m s = .ok a (t, s.2) := by
  unfold onFst
  rw [h]

/-- However it ends, a condition on the second component survives. -/
theorem Ensures.onFst {p : other -> Prop} (m : EStateM error state value) :
    Ensures (fun s => p s.2) (Foundation.onFst m) (fun _ s => p s.2)
      (fun s => p s.2) := by
  intro s hs
  unfold Foundation.onFst
  cases m s.1 with
  | ok a t => exact hs
  | error e t => exact hs

/-- Return what the second component has become. -/
def collect (init : other) (m : EStateM error (state × other) PUnit) :
    EStateM error state other := fun s =>
  match m (s, init) with
  | .ok _ t => .ok t.2 t.1
  | .error e t => .error e t.1

theorem Keeps.onFst {rel : state -> state -> Prop}
    {m : EStateM error state value} (hm : Keeps rel m) :
    Keeps (fun s s' : state × other => rel s.1 s'.1)
      (Foundation.onFst m) := by
  intro s a s' h
  exact hm s.1 a s'.1 (onFst_ok h).1

end Frame

end Foundation
end Streaming
