import Streaming.Foundation.Frame

/-!
# Loops without a bound

A turn of a loop returns what the next turn begins with, or nothing when the
loop is left.  A loop that always goes on has no result.
-/

namespace Streaming
namespace Foundation

section Loop

variable {error state value : Type}

/-- The turns of a loop that comes to its end, and how many of them have not
thrown. -/
inductive Loop (turn : value -> EStateM error state (Option value)) :
    Nat -> value -> state -> EStateM.Result error state PUnit -> Prop where
  | leave {a : value} {s t : state} : turn a s = .ok none t ->
      Loop turn 1 a s (.ok PUnit.unit t)
  | throw {a : value} {s t : state} {e : error} : turn a s = .error e t ->
      Loop turn 0 a s (.error e t)
  | again {n : Nat} {a b : value} {s t : state}
      {r : EStateM.Result error state PUnit} : turn a s = .ok (some b) t ->
      Loop turn n b t r -> Loop turn (n + 1) a s r

namespace Loop

variable {turn : value -> EStateM error state (Option value)} {n : Nat}
  {a : value} {s : state} {r : EStateM.Result error state PUnit}

/-- When every turn makes the state smaller, there are only so many turns. -/
theorem turns_le (size : state -> Nat) {k : Nat}
    (hturn : forall a s next t, turn a s = .ok next t -> size t + k <= size s)
    (h : Loop turn n a s r) : k * n <= size s := by
  induction h with
  | leave hleave =>
      have hsize := hturn _ _ _ _ hleave
      omega
  | throw _ =>
      exact Nat.zero_le _
  | again hagain _ ih =>
      have hsize := hturn _ _ _ _ hagain
      rw [Nat.mul_succ]
      omega

/-- What every turn preserves holds where the last turn begins. -/
theorem last_turn (inv : state -> Prop) {t : state}
    (hturn : forall a s b t, inv s -> turn a s = .ok (some b) t -> inv t)
    (h : Loop turn n a s r) (hs : inv s) (hr : r = .ok PUnit.unit t) :
    exists b u, inv u ∧ turn b u = .ok none t := by
  induction h with
  | leave hleave =>
      cases hr
      exact ⟨_, _, hs, hleave⟩
  | throw _ =>
      cases hr
  | again hagain _ ih =>
      exact ih (hturn _ _ _ _ hs hagain) hr

end Loop

end Loop

end Foundation
end Streaming
