import Streaming.Foundation.BitReading
import Streaming.Foundation.Checked
import Streaming.Foundation.ExpGolomb
import Streaming.Network.ByteQueue

/-!
# The bit reader of `SPSParser.c`

Loads outside of the buffer, loops that do not end and arithmetic that C leaves
undefined stop a parse like an error does, so that what never happens can be
told from what does.
-/

namespace Streaming
namespace Codec

open Foundation Util

inductive SpsFault where
  /-- The parser returns -1. -/
  | refused
  /-- A shift by the width of its type or more, or a sum that is no `int`. -/
  | undefined
  /-- A load or a store outside of its array. -/
  | outside
  /-- A loop is not left. -/
  | endless
  deriving DecidableEq, Repr

/-- `T_GetBitContext` -/
structure BitContext where
  pu8Buf : Bytes
  iBufSize : Nat
  iBitPos : Nat := 0
  iTotalBit : Nat := 0
  iCurBitPos : Nat := 0
  deriving DecidableEq, Repr

abbrev SpsReader := EStateM SpsFault BitContext

/-- The conversion of a `uint32_t` to an `int`. -/
def asInt (x : Nat) : Int :=
  if x % 2 ^ 32 < 2 ^ 31 then (x % 2 ^ 32 : Nat)
  else (x % 2 ^ 32 : Nat) - 2 ^ 32

/-- The conversion of an `int` to an `unsigned int`. -/
def asUnsigned (x : Int) : Nat :=
  (x % 2 ^ 32).toNat

def IsInt (x : Int) : Prop :=
  -2 ^ 31 <= x ∧ x < 2 ^ 31

instance (x : Int) : Decidable (IsInt x) :=
  inferInstanceAs (Decidable (_ ∧ _))

/-- The value of an `int` expression. -/
def checkedInt (x : Int) : SpsReader Int :=
  if IsInt x then return x else throw .undefined

def maxLen : Nat := 32

def getBitsLeft (h : BitContext) : Int :=
  if h.iBufSize <= 0 ∨ h.iTotalBit <= 0 then 0
  else (h.iTotalBit : Int) - h.iBitPos

def loadBuf (offset n : Nat) : SpsReader Bytes := do
  match loadAt (<- get).pu8Buf offset n with
  | some bytes => return bytes
  | none => throw .outside

/-- Take bits off the front. -/
def advance (n : Nat) : SpsReader PUnit :=
  modify fun h => { h with
    iBitPos := h.iBitPos + n
    iCurBitPos := (h.iBitPos + n) % 8 }

/-- There is no bit -1. -/
def getOneBit : SpsReader Int := do
  let h <- get
  if getBitsLeft h < 1 then
    return -1
  let u8CurChar <- loadBuf (h.iBitPos >>> 3) 1
  let u8Shift := 7 - h.iCurBitPos
  advance 1
  return ((byteAt u8CurChar 0 >>> u8Shift) % 2 : Nat)

/--
Only four of the five bytes that are copied are in the word, and the shift is
that of an `int`.  What is set aside as the result when bits are missing is 0.
-/
def getBits (iN : Nat) : SpsReader Int := do
  let h <- get
  let iN := if iN > maxLen then maxLen else iN
  if getBitsLeft h < iN then
    return 0
  let iN := if h.iBitPos + iN > h.iTotalBit then h.iTotalBit - h.iBitPos else iN
  let u8Nbyte := (h.iCurBitPos + iN + 7) >>> 3
  let u8Shift := ((8 - (h.iCurBitPos + iN : Int)) % 8).toNat
  if u8Nbyte > 5 then
    throw .outside
  let loaded <- loadBuf (h.iBitPos >>> 3) u8Nbyte
  let au8Temp := List.replicate (5 - u8Nbyte) 0 ++ loaded
  let word := asInt (loadBe32 (au8Temp.drop 1))
  advance iN
  return asInt ((word >>> u8Shift) % 2 ^ iN).toNat

/-- The count is a `uint8_t` that begins with -1. -/
def countZeroBits : Nat -> Nat -> SpsReader Nat
  | 0, _ => throw .endless
  | fuel + 1, u8LeadingZeroBits => do
      let u8B <- getOneBit
      let u8LeadingZeroBits := (u8LeadingZeroBits + 1) % 256
      if u8B = 0 then countZeroBits fuel u8LeadingZeroBits
      else return u8LeadingZeroBits

/-- The loop has another turn for every bit that is left, and a last one. -/
def parseCodenum : SpsReader Int := do
  let left := getBitsLeft (<- get)
  let u8LeadingZeroBits <- countZeroBits (left.toNat + 1) 255
  if u8LeadingZeroBits >= 32 then
    throw .undefined
  else
    let low <- getBits u8LeadingZeroBits
    return asInt (2 ^ u8LeadingZeroBits - 1 + asUnsigned low)

def parseUe : SpsReader Int :=
  parseCodenum

def parseSe : SpsReader Int := do
  let u32CodeNum <- parseCodenum
  let iRet := (<- checkedInt (u32CodeNum + 1)) >>> (1 : Nat)
  return if u32CodeNum % 2 ≠ 0 then iRet else -iRet

/-!
## The bits that are left
-/

/-- The context lies in its buffer, and its positions agree. -/
structure BitContext.Sound (h : BitContext) : Prop where
  fits : h.iBufSize <= h.pu8Buf.length
  total : h.iTotalBit = 8 * h.iBufSize
  inside : h.iBitPos <= h.iTotalBit
  current : h.iCurBitPos = h.iBitPos % 8

def BitContext.unread (h : BitContext) : List Bool :=
  ((bitsOf h.pu8Buf).take h.iTotalBit).drop h.iBitPos

def BitContext.advance (h : BitContext) (n : Nat) : BitContext :=
  { h with
    iBitPos := h.iBitPos + n
    iCurBitPos := (h.iBitPos + n) % 8 }

namespace BitContext

variable {h : BitContext} {n : Nat}

theorem Sound.unread_length (hs : h.Sound) :
    h.unread.length = h.iTotalBit - h.iBitPos := by
  have hfits := hs.fits
  have htotal := hs.total
  rw [unread, List.length_drop, List.length_take, bitsOf_length]
  omega

theorem Sound.advance (hs : h.Sound) (hn : n <= h.unread.length) :
    (h.advance n).Sound := by
  rw [hs.unread_length] at hn
  have hinside := hs.inside
  exact ⟨hs.fits, hs.total, by simp only [BitContext.advance]; omega, rfl⟩

theorem advance_unread : (h.advance n).unread = h.unread.drop n := by
  rw [unread, unread, List.drop_drop]
  rfl

theorem Sound.take_unread (hs : h.Sound) (hn : n <= h.unread.length) :
    h.unread.take n = ((bitsOf h.pu8Buf).drop h.iBitPos).take n := by
  rw [hs.unread_length] at hn
  have hinside := hs.inside
  rw [unread, List.drop_take, List.take_take, Nat.min_eq_left hn]

end BitContext

end Codec
end Streaming
