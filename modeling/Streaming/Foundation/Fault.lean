import Streaming.Foundation.Frame

/-!
# Faults

A program that follows pointers may throw, or come to a point from which nothing
is defined.  The rules show that a program which keeps an invariant never comes
to such a point.
-/

namespace Streaming
namespace Foundation

/-- Why a program does not return. -/
inductive Fault (cause : Type) where
  | exception (what : String)
  /-- Nothing is defined from here on. -/
  | undefined (c : cause)
  deriving DecidableEq, Repr

section Programs

variable {cause state value result : Type}

/-- A program that may throw, and is defined whatever happens. -/
def throwing (m : EStateM String state value) :
    EStateM (Fault cause) state value := fun s =>
  match m s with
  | .ok a t => .ok a t
  | .error what t => .error (.exception what) t

/-- The object that a pointer points to. -/
def deref (c : cause) (pointer : Option value) :
    EStateM (Fault cause) state value := fun s =>
  match pointer with
  | some a => .ok a s
  | none => .error (.undefined c) s

/-- A `catch` block, which sees exceptions only. -/
def catching (m : EStateM (Fault cause) state value)
    (handler : String -> EStateM (Fault cause) state value) :
    EStateM (Fault cause) state value := fun s =>
  match m s with
  | .error (.exception what) t => handler what t
  | result => result

theorem throwing_of_ok {m : EStateM String state value} {s t : state} {a : value}
    (h : m s = .ok a t) :
    (throwing m : EStateM (Fault cause) state value) s = .ok a t := by
  unfold throwing
  rw [h]

theorem throwing_ok {m : EStateM String state value} {s t : state} {a : value}
    (h : (throwing m : EStateM (Fault cause) state value) s = .ok a t) :
    m s = .ok a t := by
  unfold throwing at h
  split at h
  · cases h
    assumption
  · cases h

theorem Keeps.throwing {rel : state -> state -> Prop}
    {m : EStateM String state value} (hm : Keeps rel m) :
    Keeps rel (Foundation.throwing m : EStateM (Fault cause) state value) :=
  fun s a s' h => hm s a s' (throwing_ok h)

/-!
## Programs that are defined
-/

/-- Begun in a state that meets the first condition, the program meets the
second when it returns and the third when it throws, and nothing else can
happen. -/
def Defined (before : state -> Prop) (m : EStateM (Fault cause) state value)
    (after : value -> state -> Prop) (thrown : state -> Prop) : Prop :=
  forall s, before s ->
    match m s with
    | .ok a t => after a t
    | .error (.exception _) t => thrown t
    | .error (.undefined _) _ => False

namespace Defined

variable {before thrown : state -> Prop} {after : value -> state -> Prop}

theorem pure {a : value} (h : forall s, before s -> after a s) :
    Defined before (Pure.pure a : EStateM (Fault cause) state value) after
      thrown :=
  h

theorem throw {what : String} (h : forall s, before s -> thrown s) :
    Defined before (MonadExcept.throw (.exception what) :
      EStateM (Fault cause) state value) after thrown :=
  h

theorem update {f : state -> state} {after : PUnit -> state -> Prop}
    (h : forall s, before s -> after ⟨⟩ (f s)) :
    Defined before (modify f : EStateM (Fault cause) state PUnit) after
      thrown :=
  h

theorem get_bind {f : state -> EStateM (Fault cause) state value}
    (h : forall s, Defined before (f s) after thrown) :
    Defined before (MonadState.get >>= f) after thrown :=
  fun s hs => h s s hs

theorem throwing {m : EStateM String state value}
    (hm : Ensures before m after thrown) :
    Defined before (Foundation.throwing m : EStateM (Fault cause) state value)
      after thrown := by
  intro s hs
  have hend := hm s hs
  unfold Foundation.throwing
  cases hresult : m s with
  | ok a t =>
      rw [hresult] at hend
      exact hend
  | error what t =>
      rw [hresult] at hend
      exact hend

theorem bind {m : EStateM (Fault cause) state value}
    {f : value -> EStateM (Fault cause) state result}
    {between : value -> state -> Prop} {after : result -> state -> Prop}
    (hm : Defined before m between thrown)
    (hf : forall a, Defined (between a) (f a) after thrown) :
    Defined before (m >>= f) after thrown := by
  intro s hs
  have hfirst := hm s hs
  change match EStateM.bind m f s with
    | .ok b t => after b t
    | .error (.exception _) t => thrown t
    | .error (.undefined _) _ => False
  unfold EStateM.bind
  cases hresult : m s with
  | ok a t =>
      rw [hresult] at hfirst
      exact hf a t hfirst
  | error e t =>
      rw [hresult] at hfirst
      cases e with
      | exception what => exact hfirst
      | undefined c => exact hfirst

theorem ite {c : Prop} [Decidable c] {m n : EStateM (Fault cause) state value}
    (hm : c -> Defined before m after thrown)
    (hn : ¬ c -> Defined before n after thrown) :
    Defined before (if c then m else n) after thrown := by
  split
  · rename_i hc
    exact hm hc
  · rename_i hc
    exact hn hc

theorem not_undefined {m : EStateM (Fault cause) state value}
    (h : Defined before m after thrown) {s t : state} (hs : before s)
    {c : cause} : m s ≠ .error (.undefined c) t := by
  intro hundefined
  have hend := h s hs
  rw [hundefined] at hend
  exact hend

/-- How a program ends when one condition survives both ways of ending. -/
theorem resultState {inv : state -> Prop}
    {m : EStateM (Fault cause) state value}
    (h : Defined before m (fun _ => inv) inv) {s : state} (hs : before s) :
    inv (Foundation.resultState (m s)) := by
  have hend := h s hs
  cases hresult : m s with
  | ok a t =>
      rw [hresult] at hend
      exact hend
  | error e t =>
      rw [hresult] at hend
      cases e with
      | exception what => exact hend
      | undefined c => exact hend.elim

end Defined

end Programs

end Foundation
end Streaming
