import Mathlib.Data.List.TakeWhile
import Streaming.Rtmp.ReadMetadata

/-!
# Scalars of AMF0, written and read

The encoder writes strings, numbers, booleans and nulls one behind the other,
with nothing around them; the decoder's caller knows which one comes next.  A
string is handed on as a pointer to its characters, and its length is cut to 16
bits without a look at it.
-/

namespace Streaming
namespace Rtmp

open Foundation Network Util

/-!
## Writing
-/

namespace AmfEncoder

def amfNumber : UInt8 := 0x00
def amfBoolean : UInt8 := 0x01
def amfNull : UInt8 := 0x05

/-- What `strlen` and `+=` make of `c_str()`: the text ends at the first NUL. -/
def cStr (s : Bytes) : Bytes :=
  s.takeWhile fun c => c ≠ 0

/-- The `operator<<` for a `std::string`. -/
def writeStdString (buf s : Bytes) : Bytes :=
  writeString buf (cStr s)

/-- The `operator<<` for a `double`, which writes the bits in two halves. -/
def writeDouble (buf : Bytes) (bits : UInt64) : Bytes :=
  buf ++ [amfNumber] ++ setBe32 (bits.toNat >>> 32) ++ setBe32 bits.toNat

def writeBool (buf : Bytes) (b : Bool) : Bytes :=
  buf ++ [amfBoolean] ++ [if b then 1 else 0]

def writeNull (buf : Bytes) : Bytes :=
  buf ++ [amfNull]

end AmfEncoder

inductive Scalar where
  | string (s : Bytes)
  | double (bits : UInt64)
  | bool (b : Bool)
  | null
  deriving DecidableEq, Repr

namespace Scalar

open AmfEncoder

def write (buf : Bytes) : Scalar -> Bytes
  | string s => writeStdString buf s
  | double bits => writeDouble buf bits
  | bool b => writeBool buf b
  | null => writeNull buf

def writeAll (buf : Bytes) (values : List Scalar) : Bytes :=
  values.foldl write buf

/-!
## Reading
-/

/-- What `load` or `pop_front` returns. -/
inductive Loaded where
  | string (s : Bytes)
  | double (bits : Nat)
  | bool (b : Bool)
  | front (x : Nat)
  deriving DecidableEq, Repr

/-- The call for a value, of which only the type is looked at. -/
def load : Scalar -> AmfDecoder.Load Loaded
  | string _ => do return Loaded.string (<- AmfDecoder.loadString)
  | double _ => do return Loaded.double (<- AmfDecoder.loadDouble)
  | bool _ => do return Loaded.bool (<- AmfDecoder.loadBool)
  | null => do return Loaded.front (<- AmfDecoder.popFront)

def loadAll : List Scalar -> AmfDecoder.Load (List Loaded)
  | [] => return []
  | value :: values => do
      let first <- load value
      let rest <- loadAll values
      return first :: rest

/-- The value itself, where the call returns it; the marker of a null. -/
def loaded : Scalar -> Loaded
  | string s => .string s
  | double bits => .double bits.toNat
  | bool b => .bool b
  | null => .front AmfDecoder.amfNull

/-- Every value comes back, and no byte is left. -/
def RoundTrips (values : List Scalar) (b : FlatBuffer) : Prop :=
  exists b', loadAll values b = .ok (values.map loaded) b' ∧ b'.unread = []

/-- A string without a NUL whose length fits into 16 bits. -/
def Fits : Scalar -> Prop
  | string s => 0 ∉ s ∧ s.length <= 65535
  | _ => True

instance : DecidablePred Fits
  | string s => inferInstanceAs (Decidable (0 ∉ s ∧ s.length <= 65535))
  | double _ => .isTrue trivial
  | bool _ => .isTrue trivial
  | null => .isTrue trivial

/-!
## One value
-/

theorem cStr_length_le (s : Bytes) : (cStr s).length <= s.length :=
  (List.takeWhile_prefix _).length_le

theorem cStr_eq_of_length {s : Bytes} (h : (cStr s).length = s.length) :
    cStr s = s :=
  (List.takeWhile_prefix _).eq_of_length h

theorem cStr_eq_iff (s : Bytes) : cStr s = s <-> 0 ∉ s := by
  unfold cStr
  rw [List.takeWhile_eq_self_iff]
  constructor
  · intro h hmem
    have hzero := h 0 hmem
    simp at hzero
  · intro h c hc
    have hne : c ≠ 0 := ne_of_mem_of_not_mem hc h
    simpa using hne

/-- The length that is written is the length of the string. -/
theorem fits_string_iff (s : Bytes) :
    Fits (string s) <-> (cStr s).length % 2 ^ 16 = s.length := by
  have hle := cStr_length_le s
  constructor
  · rintro ⟨hnul, hlen⟩
    rw [(cStr_eq_iff s).mpr hnul]
    exact Nat.mod_eq_of_lt (by omega)
  · intro h
    have hmod := Nat.mod_le (cStr s).length (2 ^ 16)
    have hlt := Nat.mod_lt (cStr s).length (Nat.two_pow_pos 16)
    exact ⟨(cStr_eq_iff s).mp (cStr_eq_of_length (by omega)), by omega⟩

theorem setBe16_eq (val : Nat) : setBe16 val = bigEndian 2 (val % 2 ^ 16) := by
  have hhigh : UInt8.ofNat (val >>> 8) = UInt8.ofNat ((val % 2 ^ 16) >>> 8) := by
    rw [← UInt8.toNat_inj, UInt8.toNat_ofNat', UInt8.toNat_ofNat',
      Nat.shiftRight_eq_div_pow, Nat.shiftRight_eq_div_pow]
    omega
  have hlow : UInt8.ofNat val = UInt8.ofNat (val % 2 ^ 16) := by
    rw [← UInt8.toNat_inj, UInt8.toNat_ofNat', UInt8.toNat_ofNat']
    omega
  simp only [setBe16, bigEndian, Nat.mul_one, Nat.mul_zero, Nat.shiftRight_zero]
  rw [hhigh, hlow]

theorem setBe32_eq (val : Nat) : setBe32 val = bigEndian 4 val := rfl

theorem write_string (s : Bytes) :
    write [] (string s) =
      [0x02] ++ (bigEndian 2 ((cStr s).length % 2 ^ 16) ++ cStr s) := by
  simp only [write, writeStdString, writeString, List.nil_append,
    List.append_assoc, setBe16_eq]
  rfl

theorem write_double (bits : UInt64) :
    write [] (double bits) = Amf0.encode (.number bits.toNat) := by
  simp only [write, writeDouble, Amf0.encode, Amf0.marker, Amf0.body,
    AmfDecoder.bigEndian_eight, setBe32_eq]
  rfl

theorem readString_length {b b' : FlatBuffer} (hb : b.Valid) {len : Nat}
    {s : Bytes} (h : FlatBuffer.readString len b = .ok s b') :
    s.length = len := by
  have hlength := hb.unread_length
  unfold FlatBuffer.readString at h
  split at h
  · cases h
  · rename_i hle
    rcases bind_eq_ok h with ⟨_, t, _, hreturn⟩
    cases hreturn
    simp only [FlatBuffer.unread, List.length_take] at hlength ⊢
    omega

/-- Only the length is read back from behind the marker. -/
theorem loadString_written {s tail : Bytes} {b b' : FlatBuffer} {got : Bytes}
    (hb : b.Valid) (h : b.unread = write [] (string s) ++ tail)
    (hload : AmfDecoder.loadString b = .ok got b') :
    got.length = (cStr s).length % 2 ^ 16 := by
  have hmarker : AmfDecoder.Yields
      (AmfDecoder.expect AmfDecoder.amfString "Expected a string") [0x02] () :=
    AmfDecoder.yields_expect "Expected a string" rfl
  have hlength := AmfDecoder.yields_uint16
    (Nat.mod_lt (cStr s).length (Nat.two_pow_pos 16))
  rw [write_string, List.append_assoc, List.append_assoc] at h
  rcases hmarker b _ hb h with ⟨t, hexpect, ht, htail⟩
  rcases hlength t _ ht htail with ⟨u, hread, hu, _⟩
  unfold AmfDecoder.loadString at hload
  rw [bind_of_ok hexpect, bind_of_ok hread] at hload
  exact readString_length hu hload

theorem yields_load {value : Scalar} (h : Fits value) :
    AmfDecoder.Yields (load value) (write [] value) (loaded value) := by
  cases value with
  | string s =>
      have hbytes : write [] (string s) = Amf0.encode (.string s) ++ [] := by
        rw [write_string, (fits_string_iff s).mp h, (cStr_eq_iff s).mpr h.1]
        simp [Amf0.encode, Amf0.marker, Amf0.body, Amf0.text]
      rw [hbytes]
      exact (AmfDecoder.yields_loadString (Nat.lt_succ_of_le h.2)).bind
        (AmfDecoder.yields_pure (Loaded.string s))
  | double bits =>
      rw [write_double, ← List.append_nil (Amf0.encode _)]
      exact (AmfDecoder.yields_loadDouble bits.toNat_lt).bind
        (AmfDecoder.yields_pure (Loaded.double bits.toNat))
  | bool flag =>
      have hflag : decide ((if flag then (1 : UInt8) else 0) ≠ 0) = flag := by
        cases flag <;> rfl
      have hread := AmfDecoder.yields_loadBool (if flag then 1 else 0)
      rw [hflag] at hread
      rw [← List.append_nil (write [] (bool flag))]
      exact hread.bind (AmfDecoder.yields_pure (Loaded.bool flag))
  | null =>
      rw [← List.append_nil (write [] null)]
      exact (AmfDecoder.yields_popFront 0x05).bind
        (AmfDecoder.yields_pure (Loaded.front AmfDecoder.amfNull))

/-- A value that comes back was written in full. -/
theorem fits_of_load {value : Scalar} {tail : Bytes} {b b' : FlatBuffer}
    (hb : b.Valid) (h : b.unread = write [] value ++ tail)
    (hload : load value b = .ok (loaded value) b') : Fits value := by
  cases value with
  | string s =>
      rcases bind_eq_ok hload with ⟨got, t, hread, hreturn⟩
      cases hreturn
      exact (fits_string_iff s).mpr (loadString_written hb h hread).symm
  | double bits => trivial
  | bool flag => trivial
  | null => trivial

/-!
## Sequences
-/

theorem write_eq (buf : Bytes) (value : Scalar) :
    write buf value = buf ++ write [] value := by
  cases value <;>
    simp [write, writeStdString, writeString, writeDouble, writeBool, writeNull]

theorem writeAll_eq (buf : Bytes) (values : List Scalar) :
    writeAll buf values = buf ++ writeAll [] values := by
  induction values generalizing buf with
  | nil => simp [writeAll]
  | cons value values ih =>
      have hcons : forall buf, writeAll buf (value :: values) =
          writeAll (write buf value) values := fun _ => rfl
      rw [hcons, hcons, ih, ih (write [] value), write_eq, List.append_assoc]

theorem writeAll_cons (value : Scalar) (values : List Scalar) :
    writeAll [] (value :: values) = write [] value ++ writeAll [] values :=
  writeAll_eq (write [] value) values

theorem yields_loadAll {values : List Scalar}
    (h : forall value, value ∈ values -> Fits value) :
    AmfDecoder.Yields (loadAll values) (writeAll [] values)
      (values.map loaded) := by
  induction values with
  | nil => exact AmfDecoder.yields_pure []
  | cons value values ih =>
      rcases List.forall_mem_cons.mp h with ⟨hvalue, hvalues⟩
      have hrest := (ih hvalues).bind
        (f := fun rest => pure (loaded value :: rest))
        (AmfDecoder.yields_pure (loaded value :: values.map loaded))
      rw [List.append_nil] at hrest
      rw [writeAll_cons]
      exact (yields_load hvalue).bind hrest

theorem fits_of_loadAll {values : List Scalar} {tail : Bytes}
    {b b' : FlatBuffer} (hb : b.Valid)
    (h : b.unread = writeAll [] values ++ tail)
    (hload : loadAll values b = .ok (values.map loaded) b') :
    forall value, value ∈ values -> Fits value := by
  induction values generalizing b with
  | nil =>
      intro value hmem
      cases hmem
  | cons value values ih =>
      rw [writeAll_cons, List.append_assoc] at h
      rcases bind_eq_ok hload with ⟨first, t, hfirst, hload⟩
      rcases bind_eq_ok hload with ⟨rest, u, hrest, hreturn⟩
      cases hreturn
      have hvalue := fits_of_load hb h hfirst
      rcases yields_load hvalue b _ hb h with ⟨t', hsame, ht, htail⟩
      cases hfirst.symm.trans hsame
      exact List.forall_mem_cons.mpr ⟨hvalue, ih ht htail hrest⟩

/-- A sequence comes back if every string of it fits, and only then. -/
theorem roundTrips_iff {values : List Scalar} {b : FlatBuffer} (hb : b.Valid)
    (h : b.unread = writeAll [] values) :
    RoundTrips values b <-> forall value, value ∈ values -> Fits value := by
  rw [← List.append_nil (writeAll [] values)] at h
  constructor
  · rintro ⟨b', hload, _⟩
    exact fits_of_loadAll hb h hload
  · intro hfits
    rcases yields_loadAll hfits b [] hb h with ⟨b', hload, _, hrest⟩
    exact ⟨b', hload, hrest⟩

/-- The text "a", a NUL and "b". -/
def nulString : Scalar := string [97, 0, 98]

/-- The bytes in a buffer of their own. -/
def written (values : List Scalar) : FlatBuffer :=
  FlatBuffer.create.write (writeAll [] values)

theorem roundTrips_iff_written :
    RoundTrips [string [97], double 0x4024000000000000, bool true, null]
        (written [string [97], double 0x4024000000000000, bool true, null]) <->
      forall value,
        value ∈ [string [97], double 0x4024000000000000, bool true, null] ->
          Fits value := by
  apply roundTrips_iff
  · exact FlatBuffer.write_valid (FlatBuffer.create_valid _) _
  · rw [written, FlatBuffer.write_unread (FlatBuffer.create_valid _),
      FlatBuffer.create_unread, List.nil_append]

theorem not_roundTrips_nulString :
    ¬ RoundTrips [nulString] (written [nulString]) := by
  rintro ⟨b', hload, _⟩
  have hb := FlatBuffer.create_valid FlatBuffer.kInitialSize
  have hunread : (written [nulString]).unread =
      writeAll [] [nulString] ++ [] := by
    rw [written, FlatBuffer.write_unread hb, FlatBuffer.create_unread,
      List.append_nil, List.nil_append]
  have hfits := fits_of_loadAll (FlatBuffer.write_valid hb _) hunread hload
  exact absurd (hfits nulString (List.mem_singleton_self _)) (by decide)

end Scalar

end Rtmp
end Streaming
