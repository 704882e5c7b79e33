import Streaming.Foundation.BigEndian

/-!
# AMF0

The values of the Action Message Format 0 and the bytes that stand for them.  A
value begins with its marker; keys and strings have their lengths in front, and
the entries of an object end with an empty key and a marker of their own.
Numbers are represented by their 64 bits.
-/

namespace Streaming
namespace Foundation

inductive Amf0 where
  | number (bits : Nat)
  /-- Every byte but zero stands for true. -/
  | boolean (flag : UInt8)
  | string (s : List UInt8)
  | object (entries : List (List UInt8 × Amf0))
  | null
  | undefined
  | reference (index : Nat)
  | ecmaArray (count : Nat) (entries : List (List UInt8 × Amf0))
  | strictArray (values : List Amf0)
  | date (bits zone : Nat)
  | longString (s : List UInt8)
  | unsupported
  | xmlDocument (s : List UInt8)
  | typedObject (name : List UInt8) (entries : List (List UInt8 × Amf0))
  /-- A value of AMF3, by its bytes. -/
  | avmPlus (payload : List UInt8)

namespace Amf0

/-- A key or a string, behind its length. -/
def text (s : List UInt8) : List UInt8 := bigEndian 2 s.length ++ s

def longText (s : List UInt8) : List UInt8 := bigEndian 4 s.length ++ s

/-- The empty key and the marker that end an object. -/
def objectEnd : List UInt8 := text [] ++ [0x09]

def marker : Amf0 -> UInt8
  | number _ => 0x00
  | boolean _ => 0x01
  | string _ => 0x02
  | object _ => 0x03
  | null => 0x05
  | undefined => 0x06
  | reference _ => 0x07
  | ecmaArray _ _ => 0x08
  | strictArray _ => 0x0A
  | date _ _ => 0x0B
  | longString _ => 0x0C
  | unsupported => 0x0D
  | xmlDocument _ => 0x0F
  | typedObject _ _ => 0x10
  | avmPlus _ => 0x11

mutual

/-- What follows the marker. -/
def body : Amf0 -> List UInt8
  | number bits => bigEndian 8 bits
  | boolean flag => [flag]
  | string s => text s
  | object entries => encodeEntries entries ++ objectEnd
  | null => []
  | undefined => []
  | reference index => bigEndian 2 index
  | ecmaArray count entries =>
      bigEndian 4 count ++ (encodeEntries entries ++ objectEnd)
  | strictArray values => bigEndian 4 values.length ++ encodeValues values
  | date bits zone => bigEndian 8 bits ++ bigEndian 2 zone
  | longString s => longText s
  | unsupported => []
  | xmlDocument s => longText s
  | typedObject name entries =>
      text name ++ (encodeEntries entries ++ objectEnd)
  | avmPlus payload => payload

def encodeEntries : List (List UInt8 × Amf0) -> List UInt8
  | [] => []
  | (key, value) :: entries =>
      text key ++ (value.marker :: (body value ++ encodeEntries entries))

def encodeValues : List Amf0 -> List UInt8
  | [] => []
  | value :: values => value.marker :: (body value ++ encodeValues values)

end

def encode (value : Amf0) : List UInt8 := value.marker :: value.body

mutual

/-- Numbers and lengths fit into their fields, and no key is empty. -/
def WellFormed : Amf0 -> Prop
  | number bits => bits < 2 ^ 64
  | string s => s.length < 2 ^ 16
  | object entries => WellFormedEntries entries
  | reference index => index < 2 ^ 16
  | ecmaArray count entries => count < 2 ^ 32 ∧ WellFormedEntries entries
  | strictArray values => values.length < 2 ^ 32 ∧ WellFormedValues values
  | date bits zone => bits < 2 ^ 64 ∧ zone < 2 ^ 16
  | longString s => s.length < 2 ^ 32
  | xmlDocument s => s.length < 2 ^ 32
  | typedObject name entries =>
      name.length < 2 ^ 16 ∧ WellFormedEntries entries
  | _ => True

def WellFormedEntries : List (List UInt8 × Amf0) -> Prop
  | [] => True
  | (key, value) :: entries =>
      (key ≠ [] ∧ key.length < 2 ^ 16) ∧ WellFormed value ∧
        WellFormedEntries entries

def WellFormedValues : List Amf0 -> Prop
  | [] => True
  | value :: values => WellFormed value ∧ WellFormedValues values

end

/-- The bytes begin with the encoding of a value, and go on with the rest. -/
def Decodes (bytes : List UInt8) (value : Amf0) (rest : List UInt8) : Prop :=
  value.WellFormed ∧ bytes = value.encode ++ rest

theorem encode_object (entries : List (List UInt8 × Amf0)) :
    (object entries).encode = 0x03 :: (encodeEntries entries ++ objectEnd) := by
  simp [encode, marker, body]

theorem encodeEntries_append (front back : List (List UInt8 × Amf0)) :
    encodeEntries (front ++ back) =
      encodeEntries front ++ encodeEntries back := by
  induction front with
  | nil => simp [encodeEntries]
  | cons entry front ih =>
      rcases entry with ⟨key, value⟩
      simp [encodeEntries, ih]

theorem encodeEntries_length (entries : List (List UInt8 × Amf0)) :
    (encodeEntries entries).length =
      (entries.map fun e => 2 + e.1.length + e.2.encode.length).sum := by
  induction entries with
  | nil => simp [encodeEntries]
  | cons entry entries ih =>
      rcases entry with ⟨key, value⟩
      simp [encodeEntries, encode, text, ih]
      omega

theorem wellFormedEntries_append {front back : List (List UInt8 × Amf0)}
    (h : WellFormedEntries (front ++ back)) :
    WellFormedEntries front ∧ WellFormedEntries back := by
  induction front with
  | nil => exact ⟨trivial, h⟩
  | cons entry front ih =>
      rcases entry with ⟨key, value⟩
      rcases h with ⟨hkey, hvalue, hrest⟩
      exact ⟨⟨hkey, hvalue, (ih hrest).1⟩, (ih hrest).2⟩

/-- Every entry takes a byte, and more. -/
theorem length_le_encodeEntries (entries : List (List UInt8 × Amf0)) :
    entries.length <= (encodeEntries entries).length := by
  induction entries with
  | nil => exact Nat.zero_le _
  | cons entry entries ih =>
      rcases entry with ⟨key, value⟩
      simp only [encodeEntries, List.length_cons, List.length_append]
      omega

end Amf0

end Foundation
end Streaming
