import Streaming.Util.Bytes

/-!
# AMF0

The encoder for command messages and metadata.  A `double` is represented by
its 64 bits, as the decoder reads them and the encoder writes them.
-/

namespace Streaming
namespace Rtmp

open Util

/-!
## Metadata
-/

/-- What `on_process_metadata` stores in a `std::any`. -/
inductive MetaValue where
  | double (bits : Nat)
  | bool (b : Bool)
  | string (s : Bytes)
  deriving DecidableEq, Repr

/-- A `std::any`, which may be empty. -/
abbrev Any := Option MetaValue

/-- The `std::unordered_map`, in the order in which it is iterated over. -/
abbrev Metadata := List (Bytes × Any)

namespace Metadata

/-- `operator[]`, which inserts an empty value for a key that is missing. -/
def subscript (key : Bytes) : EStateM String Metadata Any := fun metadata =>
  match metadata.lookup key with
  | some value => .ok value metadata
  | none => .ok none (metadata ++ [(key, none)])

end Metadata

/-- The `static_cast<int>` of a `double` drops the fraction.  Out of range it is
undefined in C++, and the smallest `int` here. -/
def doubleToInt (bits : Nat) : Int :=
  let exponent := (bits >>> 52) &&& 0x7FF
  let significand := 2 ^ 52 + (bits &&& (2 ^ 52 - 1))
  let magnitude : Int :=
    if exponent < 1023 then 0
    else if exponent <= 1075 then (significand >>> (1075 - exponent) : Nat)
    else (significand <<< (exponent - 1075) : Nat)
  let value := if bits >>> 63 = 1 then -magnitude else magnitude
  if -(2 ^ 31) <= value ∧ value < 2 ^ 31 then value else -(2 ^ 31)

/-- The bits of 10.0, 48000.0 and -2.5. -/
example : (doubleToInt 0x4024000000000000, doubleToInt 0x40E7700000000000,
    doubleToInt 0xC004000000000000) = (10, 48000, -2) := by
  decide

/-!
## The encoder

An encoder is its string so far.
-/

namespace AmfEncoder

def amfObject : UInt8 := 0x03
def amfString : UInt8 := 0x02
def amfObjectEnd : UInt8 := 0x09

/-- `htons` of a length, which is cut to 16 bits. -/
def setBe16 (val : Nat) : Bytes :=
  [UInt8.ofNat (val >>> 8), UInt8.ofNat val]

def writeString (buf s : Bytes) : Bytes :=
  buf ++ [amfString] ++ setBe16 s.length ++ s

def writeKey (buf key : Bytes) : Bytes :=
  buf ++ setBe16 key.length ++ key

/--
The `operator<<` for metadata.  It compares the pointer that `type().name()`
returns with the address of a literal, which never succeeds, so that no value
is written behind its key.
-/
def writeMetadata (buf : Bytes) (metadata : Metadata) : Bytes :=
  let entries := metadata.foldl (fun buf entry => writeKey buf entry.1)
    (buf ++ [amfObject])
  writeKey entries [] ++ [amfObjectEnd]

theorem writeMetadata_ne_nil (buf : Bytes) (metadata : Metadata) :
    writeMetadata buf metadata ≠ [] := by
  unfold writeMetadata
  exact List.append_ne_nil_of_right_ne_nil _ (List.cons_ne_nil _ _)

end AmfEncoder

end Rtmp
end Streaming
