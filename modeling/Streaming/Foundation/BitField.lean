import Mathlib.Data.Nat.Bitwise

/-!
# Bit fields

The bits of a byte string are counted from the highest bit of its first byte.
A field is a number that begins at some bit, its highest bit first.
-/

namespace Streaming
namespace Foundation

/-- Bits behind the end are 0. -/
def bitAt (bytes : List UInt8) (i : Nat) : Bool :=
  (bytes.getD (i / 8) 0).toNat.testBit (7 - i % 8)

def field (bytes : List UInt8) (offset : Nat) : Nat -> Nat
  | 0 => 0
  | width + 1 =>
      2 * field bytes offset width + (bitAt bytes (offset + width)).toNat

/-- A field is the number whose bits it has, as far as they fit. -/
theorem field_eq_mod {bytes : List UInt8} {offset width x : Nat}
    (h : forall i, i < width ->
      bitAt bytes (offset + i) = x.testBit (width - 1 - i)) :
    field bytes offset width = x % 2 ^ width := by
  induction width generalizing x with
  | zero => simp [field, Nat.mod_one]
  | succ width ih =>
      have hhigh : field bytes offset width = x / 2 % 2 ^ width := by
        apply ih
        intro i hi
        rw [h i (Nat.lt_succ_of_lt hi), Nat.testBit_div_two]
        congr 1
        omega
      have hlow : (bitAt bytes (offset + width)).toNat = x % 2 := by
        rw [h width (Nat.lt_succ_self width), Nat.add_sub_cancel, Nat.sub_self,
          Nat.testBit_zero]
        rcases Nat.mod_two_eq_zero_or_one x with heven | hodd
        · simp [heven]
        · simp [hodd]
      rw [field, hhigh, hlow, Nat.pow_succ, Nat.mul_comm (2 ^ width) 2,
        Nat.mod_mul]
      exact Nat.add_comm _ _

theorem field_lt (bytes : List UInt8) (offset width : Nat) :
    field bytes offset width < 2 ^ width := by
  induction width with
  | zero => simp [field]
  | succ width ih =>
      have hbit := Bool.toNat_lt (bitAt bytes (offset + width))
      rw [field, Nat.pow_succ]
      omega

/-- The first bytes decide about the fields in them. -/
theorem field_append {bytes : List UInt8} (more : List UInt8)
    {offset width : Nat} (h : offset + width <= 8 * bytes.length) :
    field (bytes ++ more) offset width = field bytes offset width := by
  induction width with
  | zero => rfl
  | succ width ih =>
      have hbyte : (offset + width) / 8 < bytes.length := by
        omega
      have hbit : bitAt (bytes ++ more) (offset + width) =
          bitAt bytes (offset + width) := by
        rw [bitAt, bitAt, List.getD_append _ _ _ _ hbyte]
      rw [field, field, ih (by omega), hbit]

end Foundation
end Streaming
