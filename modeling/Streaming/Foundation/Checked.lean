import Mathlib.Data.List.Basic
import Mathlib.Data.Nat.Bitwise
import Streaming.Foundation.Frame

/-!
# Checked loads and sizes

The same program with every load and every sum or difference of sizes checked
gives no result where a check fails.  Where it gives one, the unchecked program
stays inside its data and no size wraps around.
-/

namespace Streaming
namespace Foundation

variable {α : Type}

/-- Load `n` elements, all of which must lie inside the data. -/
def loadAt (data : List α) (offset n : Nat) : Option (List α) :=
  if offset + n <= data.length then some ((data.drop offset).take n) else none

/-- A sum of sizes that fits into `w` bits. -/
def addSize (w a b : Nat) : Option Nat :=
  if a + b < 2 ^ w then some (a + b) else none

/-- A difference of sizes that is not negative. -/
def subSize (a b : Nat) : Option Nat :=
  if b <= a then some (a - b) else none

theorem loadAt_eq {data : List α} {offset n : Nat}
    (h : offset + n <= data.length) :
    loadAt data offset n = some ((data.drop offset).take n) :=
  if_pos h

theorem addSize_eq {w a b : Nat} (h : a + b < 2 ^ w) :
    addSize w a b = some (a + b) :=
  if_pos h

theorem subSize_eq {a b : Nat} (h : b <= a) : subSize a b = some (a - b) :=
  if_pos h

/-!
## Checked programs with a state

A program that throws gets one more way to stop: a load that is outside.
-/

inductive Stop (error : Type) where
  | threw (e : error)
  | outside
  deriving DecidableEq

section Mirrors

variable {error state other value result : Type}

/-- The result of a program that stays inside its data. -/
def staysInside : EStateM.Result error state value ->
    EStateM.Result (Stop error) state value
  | .ok a s => .ok a s
  | .error e s => .error (.threw e) s

/-- A program that loads nothing. -/
def loadsNothing (m : EStateM error state value) :
    EStateM (Stop error) state value := fun s =>
  staysInside (m s)

/-- From every state with the invariant, the checked program does what the
unchecked one does, and leaves a state with the invariant. -/
def Mirrors (inv : state -> Prop) (m : EStateM error state value)
    (checked : EStateM (Stop error) state value) : Prop :=
  forall s, inv s -> checked s = staysInside (m s) ∧ inv (resultState (m s))

namespace Mirrors

variable {inv : state -> Prop}

theorem pure (a : value) :
    Mirrors inv (Pure.pure a : EStateM error state value) (Pure.pure a) :=
  fun _ hs => ⟨rfl, hs⟩

theorem throw (e : error) :
    Mirrors inv (MonadExcept.throw e : EStateM error state value)
      (MonadExcept.throw (Stop.threw e)) :=
  fun _ hs => ⟨rfl, hs⟩

theorem get :
    Mirrors inv (MonadState.get : EStateM error state state) MonadState.get :=
  fun _ hs => ⟨rfl, hs⟩

theorem update {f : state -> state} (hf : forall s, inv s -> inv (f s)) :
    Mirrors inv (modify f : EStateM error state PUnit) (modify f) :=
  fun s hs => ⟨rfl, hf s hs⟩

theorem loadsNothing {m : EStateM error state value}
    (hm : forall s, inv s -> inv (resultState (m s))) :
    Mirrors inv m (Foundation.loadsNothing m) :=
  fun s hs => ⟨rfl, hm s hs⟩

theorem bind {m : EStateM error state value}
    {f : value -> EStateM error state result}
    {m' : EStateM (Stop error) state value}
    {f' : value -> EStateM (Stop error) state result}
    (hm : Mirrors inv m m') (hf : forall a, Mirrors inv (f a) (f' a)) :
    Mirrors inv (m >>= f) (m' >>= f') := by
  intro s hs
  rcases hm s hs with ⟨hsame, hinv⟩
  cases hresult : m s with
  | ok a t =>
      rw [hresult] at hsame hinv
      rw [bind_of_ok hsame, bind_of_ok hresult]
      exact hf a t hinv
  | error e t =>
      rw [hresult] at hsame hinv
      rw [bind_of_error hsame, bind_of_error hresult]
      exact ⟨rfl, hinv⟩

theorem ite {c : Prop} [Decidable c] {m n : EStateM error state value}
    {m' n' : EStateM (Stop error) state value} (hm : Mirrors inv m m')
    (hn : Mirrors inv n n') :
    Mirrors inv (if c then m else n) (if c then m' else n') := by
  split
  · exact hm
  · exact hn

theorem onFst {m : EStateM error state value}
    {m' : EStateM (Stop error) state value} (hm : Mirrors inv m m') :
    Mirrors (fun s : state × other => inv s.1) (Foundation.onFst m)
      (Foundation.onFst m') := by
  intro s hs
  rcases hm s.1 hs with ⟨hsame, hinv⟩
  unfold Foundation.onFst
  rw [hsame]
  cases hresult : m s.1 with
  | ok a t =>
      rw [hresult] at hinv
      exact ⟨rfl, hinv⟩
  | error e t =>
      rw [hresult] at hinv
      exact ⟨rfl, hinv⟩

theorem collect (init : other) {m : EStateM error (state × other) PUnit}
    {m' : EStateM (Stop error) (state × other) PUnit}
    (hm : Mirrors (fun s => inv s.1) m m') :
    Mirrors inv (Foundation.collect init m) (Foundation.collect init m') := by
  intro s hs
  rcases hm (s, init) hs with ⟨hsame, hinv⟩
  unfold Foundation.collect
  rw [hsame]
  cases hresult : m (s, init) with
  | ok a t =>
      rw [hresult] at hinv
      exact ⟨rfl, hinv⟩
  | error e t =>
      rw [hresult] at hinv
      exact ⟨rfl, hinv⟩

/-- A state that is returned has the invariant. -/
theorem inv_of_ok {m : EStateM error state value}
    {m' : EStateM (Stop error) state value} (hm : Mirrors inv m m')
    {s t : state} {a : value} (hs : inv s) (h : m s = .ok a t) : inv t := by
  have hinv := (hm s hs).2
  rw [h] at hinv
  exact hinv

end Mirrors

end Mirrors

end Foundation
end Streaming
