import Mathlib.Data.List.Basic
import Mathlib.Data.Nat.Bitwise

/-!
# Bytes and fixed-width integers

Byte strings and the load and store helpers of `util.cpp`.  Integers are
natural numbers; a store keeps the low bytes of its argument, as the
conversion to `uint8_t` does.
-/

namespace Streaming
namespace Util

/-- A `std::string`, or the bytes between two pointers. -/
abbrev Bytes := List UInt8

/-- The byte at an index.  Reading past the end gives 0. -/
def byteAt (data : Bytes) (i : Nat) : Nat :=
  (data.getD i 0).toNat

/-- `kRTMP_SCHEMA` and the other text constants, one byte a character. -/
def ascii (text : List Char) : Bytes :=
  text.map fun c => UInt8.ofNat c.toNat

def loadLe32 (data : Bytes) : Nat :=
  (byteAt data 3 <<< 24) ||| (byteAt data 2 <<< 16) |||
    (byteAt data 1 <<< 8) ||| byteAt data 0

def loadBe16 (data : Bytes) : Nat :=
  (byteAt data 0 <<< 8) ||| byteAt data 1

def loadBe24 (data : Bytes) : Nat :=
  (byteAt data 0 <<< 16) ||| (byteAt data 1 <<< 8) ||| byteAt data 2

def loadBe32 (data : Bytes) : Nat :=
  (byteAt data 0 <<< 24) ||| (byteAt data 1 <<< 16) |||
    (byteAt data 2 <<< 8) ||| byteAt data 3

def setBe24 (val : Nat) : Bytes :=
  [UInt8.ofNat (val >>> 16), UInt8.ofNat (val >>> 8), UInt8.ofNat val]

def setBe32 (val : Nat) : Bytes :=
  [UInt8.ofNat (val >>> 24), UInt8.ofNat (val >>> 16),
    UInt8.ofNat (val >>> 8), UInt8.ofNat val]

def setLe32 (val : Nat) : Bytes :=
  [UInt8.ofNat val, UInt8.ofNat (val >>> 8),
    UInt8.ofNat (val >>> 16), UInt8.ofNat (val >>> 24)]

/-!
## Single bytes
-/

theorem byteAt_lt (data : Bytes) (i : Nat) : byteAt data i < 256 :=
  UInt8.toNat_lt _

@[simp] theorem byteAt_cons_zero (b : UInt8) (rest : Bytes) :
    byteAt (b :: rest) 0 = b.toNat := rfl

@[simp] theorem byteAt_cons_succ (b : UInt8) (rest : Bytes) (i : Nat) :
    byteAt (b :: rest) (i + 1) = byteAt rest i := rfl

theorem byteAt_append_left {data : Bytes} (more : Bytes) {i : Nat}
    (hi : i < data.length) : byteAt (data ++ more) i = byteAt data i := by
  unfold byteAt
  rw [List.getD_append _ _ _ _ hi]

/-!
## Loads as sums

The bytes of a load do not overlap, so the bitwise or is an addition.
-/

theorem or_byte (high low : Nat) (hlow : low < 256) :
    (high <<< 8) ||| low = high * 256 + low := by
  rw [← Nat.shiftLeft_add_eq_or_of_lt (i := 8) hlow, Nat.shiftLeft_eq]

theorem loadBe24_eq (data : Bytes) :
    loadBe24 data =
      byteAt data 0 * 65536 + byteAt data 1 * 256 + byteAt data 2 := by
  have hshift : (byteAt data 0 <<< 16) ||| (byteAt data 1 <<< 8) =
      (byteAt data 0 * 256 + byteAt data 1) <<< 8 := by
    rw [← or_byte _ _ (byteAt_lt data 1), Nat.shiftLeft_or_distrib,
      ← Nat.shiftLeft_add]
  unfold loadBe24
  rw [hshift, or_byte _ _ (byteAt_lt data 2)]
  omega

theorem load32_eq {a b c d : Nat} (hb : b < 256) (hc : c < 256) (hd : d < 256) :
    (a <<< 24) ||| (b <<< 16) ||| (c <<< 8) ||| d =
      a * 16777216 + b * 65536 + c * 256 + d := by
  have hab : (a <<< 24) ||| (b <<< 16) = (a * 256 + b) <<< 16 := by
    rw [← or_byte _ _ hb, Nat.shiftLeft_or_distrib, ← Nat.shiftLeft_add]
  have habc : ((a * 256 + b) <<< 16) ||| (c <<< 8) =
      ((a * 256 + b) * 256 + c) <<< 8 := by
    rw [← or_byte _ _ hc, Nat.shiftLeft_or_distrib, ← Nat.shiftLeft_add]
  rw [hab, habc, or_byte _ _ hd]
  omega

theorem loadBe32_eq (data : Bytes) :
    loadBe32 data =
      byteAt data 0 * 16777216 + byteAt data 1 * 65536 +
        byteAt data 2 * 256 + byteAt data 3 :=
  load32_eq (byteAt_lt data 1) (byteAt_lt data 2) (byteAt_lt data 3)

theorem loadLe32_eq (data : Bytes) :
    loadLe32 data =
      byteAt data 3 * 16777216 + byteAt data 2 * 65536 +
        byteAt data 1 * 256 + byteAt data 0 :=
  load32_eq (byteAt_lt data 2) (byteAt_lt data 1) (byteAt_lt data 0)

theorem loadBe24_lt (data : Bytes) : loadBe24 data < 2 ^ 24 := by
  have h0 := byteAt_lt data 0
  have h1 := byteAt_lt data 1
  have h2 := byteAt_lt data 2
  rw [loadBe24_eq]
  omega

theorem loadBe32_lt (data : Bytes) : loadBe32 data < 2 ^ 32 := by
  have h0 := byteAt_lt data 0
  have h1 := byteAt_lt data 1
  have h2 := byteAt_lt data 2
  have h3 := byteAt_lt data 3
  rw [loadBe32_eq]
  omega

/-!
## Loads look at a bounded front part
-/

theorem byteAt_take {data : Bytes} {n i : Nat} (h : i < n) :
    byteAt (data.take n) i = byteAt data i := by
  unfold byteAt
  rw [List.getD_eq_getElem?_getD, List.getD_eq_getElem?_getD,
    List.getElem?_take_of_lt h]

theorem byteAt_drop (data : Bytes) (n i : Nat) :
    byteAt (data.drop n) i = byteAt data (n + i) := by
  unfold byteAt
  rw [List.getD_eq_getElem?_getD, List.getD_eq_getElem?_getD,
    List.getElem?_drop]

theorem loadBe24_take (data : Bytes) : loadBe24 (data.take 3) = loadBe24 data := by
  unfold loadBe24
  rw [byteAt_take (by decide), byteAt_take (by decide),
    byteAt_take (by decide)]

theorem loadBe32_take (data : Bytes) : loadBe32 (data.take 4) = loadBe32 data := by
  unfold loadBe32
  rw [byteAt_take (by decide), byteAt_take (by decide),
    byteAt_take (by decide), byteAt_take (by decide)]

theorem loadLe32_take (data : Bytes) : loadLe32 (data.take 4) = loadLe32 data := by
  unfold loadLe32
  rw [byteAt_take (by decide), byteAt_take (by decide),
    byteAt_take (by decide), byteAt_take (by decide)]

theorem loadBe24_append_left {data : Bytes} (more : Bytes)
    (hlen : 3 <= data.length) : loadBe24 (data ++ more) = loadBe24 data := by
  unfold loadBe24
  rw [byteAt_append_left more (by omega), byteAt_append_left more (by omega),
    byteAt_append_left more (by omega)]

theorem loadBe32_append_left {data : Bytes} (more : Bytes)
    (hlen : 4 <= data.length) : loadBe32 (data ++ more) = loadBe32 data := by
  unfold loadBe32
  rw [byteAt_append_left more (by omega), byteAt_append_left more (by omega),
    byteAt_append_left more (by omega), byteAt_append_left more (by omega)]

theorem loadLe32_append_left {data : Bytes} (more : Bytes)
    (hlen : 4 <= data.length) : loadLe32 (data ++ more) = loadLe32 data := by
  unfold loadLe32
  rw [byteAt_append_left more (by omega), byteAt_append_left more (by omega),
    byteAt_append_left more (by omega), byteAt_append_left more (by omega)]

/-!
## Loads undo stores
-/

theorem loadBe24_setBe24 {val : Nat} (rest : Bytes) (hval : val < 16777216) :
    loadBe24 (setBe24 val ++ rest) = val := by
  rw [loadBe24_eq]
  simp only [setBe24, List.cons_append, List.nil_append, byteAt_cons_zero,
    byteAt_cons_succ, UInt8.toNat_ofNat', Nat.shiftRight_eq_div_pow]
  omega

theorem loadBe32_setBe32 {val : Nat} (rest : Bytes) (hval : val < 4294967296) :
    loadBe32 (setBe32 val ++ rest) = val := by
  rw [loadBe32_eq]
  simp only [setBe32, List.cons_append, List.nil_append, byteAt_cons_zero,
    byteAt_cons_succ, UInt8.toNat_ofNat', Nat.shiftRight_eq_div_pow]
  omega

theorem loadLe32_setLe32 {val : Nat} (rest : Bytes) (hval : val < 4294967296) :
    loadLe32 (setLe32 val ++ rest) = val := by
  rw [loadLe32_eq]
  simp only [setLe32, List.cons_append, List.nil_append, byteAt_cons_zero,
    byteAt_cons_succ, UInt8.toNat_ofNat', Nat.shiftRight_eq_div_pow]
  omega

@[simp] theorem setBe24_length (val : Nat) : (setBe24 val).length = 3 := rfl

@[simp] theorem setBe32_length (val : Nat) : (setBe32 val).length = 4 := rfl

end Util
end Streaming
