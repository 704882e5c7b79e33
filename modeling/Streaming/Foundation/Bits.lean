import Mathlib.Data.List.Basic
import Mathlib.Tactic.Ring
import Streaming.Foundation.BigEndian

/-!
# Bit strings

A byte string is the list of its bits, the highest bit of each byte first.
-/

namespace Streaming
namespace Foundation

/-- The lowest bits of a number, the highest of them first. -/
def binary : Nat -> Nat -> List Bool
  | 0, _ => []
  | width + 1, x => x.testBit width :: binary width x

def bitsValue : List Bool -> Nat
  | [] => 0
  | bit :: bits => bit.toNat * 2 ^ bits.length + bitsValue bits

def bitsOf : List UInt8 -> List Bool
  | [] => []
  | byte :: bytes => binary 8 byte.toNat ++ bitsOf bytes

/-- The bytes whose bits are given.  Less than eight bits make no byte. -/
def packBits : List Bool -> List UInt8
  | b7 :: b6 :: b5 :: b4 :: b3 :: b2 :: b1 :: b0 :: bits =>
      UInt8.ofNat (bitsValue [b7, b6, b5, b4, b3, b2, b1, b0]) :: packBits bits
  | _ => []

/-!
## Numbers
-/

@[simp] theorem binary_length (width x : Nat) :
    (binary width x).length = width := by
  induction width with
  | zero => rfl
  | succ width ih => rw [binary, List.length_cons, ih]

theorem bitsValue_lt (bits : List Bool) : bitsValue bits < 2 ^ bits.length := by
  induction bits with
  | nil => decide
  | cons bit bits ih =>
      have hbit := Bool.toNat_le bit
      have hfirst : bit.toNat * 2 ^ bits.length <= 2 ^ bits.length := by
        simpa using Nat.mul_le_mul_right (2 ^ bits.length) hbit
      rw [bitsValue, List.length_cons, Nat.pow_succ]
      omega

theorem bitsValue_binary (width x : Nat) :
    bitsValue (binary width x) = x % 2 ^ width := by
  induction width with
  | zero => rw [binary, bitsValue, Nat.pow_zero, Nat.mod_one]
  | succ width ih =>
      rw [binary, bitsValue, binary_length, ih, Nat.toNat_testBit, Nat.pow_succ,
        Nat.mod_mul]
      ring

theorem binary_bitsValue (bits : List Bool) :
    binary bits.length (bitsValue bits) = bits := by
  have hhigh : forall m, binary bits.length
      (m * 2 ^ bits.length + bitsValue bits) = bits := by
    induction bits with
    | nil => exact fun _ => rfl
    | cons bit bits ih =>
        intro m
        have hvalue : m * 2 ^ (bits.length + 1) +
            (bit.toNat * 2 ^ bits.length + bitsValue bits) =
            2 ^ bits.length * (m * 2 + bit.toNat) + bitsValue bits := by
          rw [Nat.pow_succ]
          ring
        have hfirst : Nat.testBit (2 ^ bits.length * (m * 2 + bit.toNat) +
            bitsValue bits) bits.length = bit := by
          rw [Nat.testBit_two_pow_mul_add _ (bitsValue_lt bits)]
          cases bit with
          | false => simp
          | true => simp [Nat.testBit_zero]
        rw [List.length_cons, bitsValue, hvalue, binary, hfirst,
          Nat.mul_comm, ih]
  simpa using hhigh 0

/-- The lowest bits do not depend on what is above them. -/
theorem binary_mod (width x : Nat) : binary width (x % 2 ^ width) = binary width x := by
  have h := binary_bitsValue (binary width x)
  rwa [binary_length, bitsValue_binary] at h

@[simp] theorem bitsOf_length (bytes : List UInt8) :
    (bitsOf bytes).length = 8 * bytes.length := by
  induction bytes with
  | nil => rfl
  | cons byte bytes ih =>
      rw [bitsOf, List.length_append, binary_length, ih, List.length_cons]
      ring

theorem bitsOf_packBits {bits : List Bool} (h : 8 ∣ bits.length) :
    bitsOf (packBits bits) = bits := by
  induction bits using packBits.induct with
  | case1 b7 b6 b5 b4 b3 b2 b1 b0 bits ih =>
      have hrest : 8 ∣ bits.length := by
        simp only [List.length_cons] at h
        omega
      have hbyte := binary_bitsValue [b7, b6, b5, b4, b3, b2, b1, b0]
      rw [packBits, bitsOf, ih hrest, UInt8.toNat_ofNat', binary_mod]
      exact congrArg (fun front => front ++ bits) hbyte
  | case2 bits hshort =>
      rcases bits with _ | ⟨b7, _ | ⟨b6, _ | ⟨b5, _ | ⟨b4, _ | ⟨b3, _ | ⟨b2,
        _ | ⟨b1, _ | ⟨b0, bits⟩⟩⟩⟩⟩⟩⟩⟩
      all_goals simp only [List.length_cons, List.length_nil] at h
      · rfl
      all_goals first
        | omega
        | exact absurd rfl (hshort b7 b6 b5 b4 b3 b2 b1 b0 bits)

end Foundation
end Streaming
