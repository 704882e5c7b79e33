import Mathlib.Data.List.Basic
import Mathlib.Data.Nat.Bitwise
import Mathlib.Tactic.Ring

/-!
# Big-endian numbers

Numbers as strings of bytes, the byte that counts most in front.
-/

namespace Streaming
namespace Foundation

/-- The lowest `n` bytes of a number, the highest of them first. -/
def bigEndian : Nat -> Nat -> List UInt8
  | 0, _ => []
  | n + 1, val => UInt8.ofNat (val >>> (8 * n)) :: bigEndian n val

def bigEndianValue (bytes : List UInt8) : Nat :=
  bytes.foldl (fun n byte => 256 * n + byte.toNat) 0

@[simp] theorem bigEndian_length (n val : Nat) :
    (bigEndian n val).length = n := by
  induction n with
  | zero => rfl
  | succ n ih => simp [bigEndian, ih]

theorem foldl_bigEndianValue (n : Nat) (bytes : List UInt8) :
    bytes.foldl (fun n byte => 256 * n + byte.toNat) n =
      n * 256 ^ bytes.length + bigEndianValue bytes := by
  induction bytes generalizing n with
  | nil => simp [bigEndianValue]
  | cons byte bytes ih =>
      have hvalue : bigEndianValue (byte :: bytes) =
          byte.toNat * 256 ^ bytes.length + bigEndianValue bytes := by
        unfold bigEndianValue
        rw [List.foldl_cons, Nat.mul_zero, Nat.zero_add]
        exact ih byte.toNat
      rw [List.foldl_cons, ih, hvalue, List.length_cons, Nat.pow_succ]
      ring

theorem bigEndianValue_append (high low : List UInt8) :
    bigEndianValue (high ++ low) =
      bigEndianValue high * 256 ^ low.length + bigEndianValue low := by
  rw [bigEndianValue, List.foldl_append]
  exact foldl_bigEndianValue _ low

theorem bigEndianValue_cons (byte : UInt8) (bytes : List UInt8) :
    bigEndianValue (byte :: bytes) =
      byte.toNat * 256 ^ bytes.length + bigEndianValue bytes := by
  have hfirst : bigEndianValue [byte] = byte.toNat := by
    simp [bigEndianValue]
  rw [← hfirst]
  exact bigEndianValue_append [byte] bytes

theorem bigEndianValue_lt (bytes : List UInt8) :
    bigEndianValue bytes < 256 ^ bytes.length := by
  induction bytes with
  | nil => decide
  | cons byte bytes ih =>
      have hbyte : byte.toNat + 1 <= 256 := UInt8.toNat_lt byte
      calc bigEndianValue (byte :: bytes)
          < byte.toNat * 256 ^ bytes.length + 256 ^ bytes.length := by
            rw [bigEndianValue_cons]
            exact Nat.add_lt_add_left ih _
        _ = (byte.toNat + 1) * 256 ^ bytes.length := by ring
        _ <= 256 * 256 ^ bytes.length := Nat.mul_le_mul_right _ hbyte
        _ = 256 ^ (byte :: bytes).length := by
            rw [List.length_cons, Nat.pow_succ, Nat.mul_comm]

/-- The value of the lowest bytes of a number. -/
theorem bigEndianValue_bigEndian (n val : Nat) :
    bigEndianValue (bigEndian n val) = val % 256 ^ n := by
  induction n with
  | zero => simp [bigEndian, bigEndianValue, Nat.mod_one]
  | succ n ih =>
      have hshift : val >>> (8 * n) = val / 256 ^ n := by
        rw [Nat.shiftRight_eq_div_pow, Nat.pow_mul]
      have hsplit : val % 256 ^ (n + 1) =
          val % 256 ^ n + 256 ^ n * (val / 256 ^ n % 256) := by
        rw [Nat.pow_succ, Nat.mod_mul]
      rw [bigEndian, bigEndianValue_cons, ih, bigEndian_length,
        UInt8.toNat_ofNat', hshift, hsplit]
      ring

theorem bigEndianValue_of_lt {n val : Nat} (h : val < 256 ^ n) :
    bigEndianValue (bigEndian n val) = val := by
  rw [bigEndianValue_bigEndian, Nat.mod_eq_of_lt h]

/-- Bytes are those of their value. -/
theorem bigEndian_bigEndianValue (bytes : List UInt8) :
    bigEndian bytes.length (bigEndianValue bytes) = bytes := by
  have hhigh : forall (n : Nat) (bytes : List UInt8), bytes.length = n ->
      forall m, bigEndian n (m * 256 ^ n + bigEndianValue bytes) = bytes := by
    intro n
    induction n with
    | zero =>
        intro bytes hlen m
        rw [List.length_eq_zero_iff.mp hlen]
        rfl
    | succ n ih =>
        intro bytes hlen m
        rcases bytes with _ | ⟨byte, bytes⟩
        · cases hlen
        · have hrest : bytes.length = n := Nat.succ.inj hlen
          have hvalue : m * 256 ^ (n + 1) + bigEndianValue (byte :: bytes) =
              (m * 256 + byte.toNat) * 256 ^ n + bigEndianValue bytes := by
            rw [bigEndianValue_cons, hrest, Nat.pow_succ]
            ring
          have hlt := bigEndianValue_lt bytes
          rw [hrest] at hlt
          have hfirst : ((m * 256 + byte.toNat) * 256 ^ n +
              bigEndianValue bytes) >>> (8 * n) = m * 256 + byte.toNat := by
            rw [Nat.shiftRight_eq_div_pow, Nat.pow_mul, Nat.mul_comm,
              Nat.mul_add_div (Nat.pow_pos (Nat.succ_pos 255)),
              Nat.div_eq_of_lt hlt, Nat.add_zero]
          have hbyte : UInt8.ofNat (m * 256 + byte.toNat) = byte := by
            rw [← UInt8.toNat_inj, UInt8.toNat_ofNat']
            have hsmall := UInt8.toNat_lt byte
            omega
          rw [hvalue, bigEndian, hfirst, hbyte, ih bytes hrest]
  have hall := hhigh bytes.length bytes rfl 0
  rwa [Nat.zero_mul, Nat.zero_add] at hall

end Foundation
end Streaming
