import Mathlib.Data.List.Basic
import Streaming.Rtmp.AmfScalars

/-!
# Objects of AMF0, written and read

The encoder writes a value of an object by its type, and nothing at all for a
type that its `switch` does not list.  The decoder takes every value of an
object for a string.
-/

namespace Streaming
namespace Rtmp

open Foundation Network Util

/-- What an `AMFValue` holds.  The `std::map` of an object is the list of its
entries in the order of their keys. -/
inductive AmfValue where
  | number (bits : UInt64)
  | boolean (b : Bool)
  | string (s : Bytes)
  | object (entries : List (Bytes × AmfValue))
  | null

namespace AmfValue

open AmfEncoder

abbrev MapType := List (Bytes × AmfValue)

/-- `std::map::emplace`, which leaves an entry that is there alone. -/
def emplace (key : Bytes) (value : AmfValue) : MapType -> MapType
  | [] => [(key, value)]
  | entry :: entries =>
      if key < entry.1 then (key, value) :: entry :: entries
      else if entry.1 < key then entry :: emplace key value entries
      else entry :: entries

def set (value : AmfValue) (key : Bytes) (entry : AmfValue) :
    Except String AmfValue :=
  match value with
  | object entries => .ok (object (emplace key entry entries))
  | _ => .error "AMF is not an object, so it cannot be set by a key"

/-- `AMFValue(const std::string &)`, which goes through `c_str()`. -/
def ofStdString (s : Bytes) : AmfValue :=
  string (cStr s)

/-- The keys and values that `load_object` has read are set one by one, each
value as a string. -/
def setAll (entries : List (Bytes × Bytes)) (value : AmfValue) :
    Except String AmfValue :=
  entries.foldlM (fun value entry => value.set entry.1 (ofStdString entry.2))
    value

mutual

/-- The `operator<<` for an `AMFValue`. -/
def write (buf : Bytes) : AmfValue -> Bytes
  | string s => writeStdString buf s
  | number bits => writeDouble buf bits
  | object entries =>
      writeKey (writeEntries (buf ++ [amfObject]) entries) [] ++ [amfObjectEnd]
  -- The default of the `switch` only logs the type.
  | _ => buf

def writeEntries (buf : Bytes) : List (Bytes × AmfValue) -> Bytes
  | [] => buf
  | (key, value) :: entries => writeEntries (write (writeKey buf key) value) entries

end

end AmfValue

namespace AmfDecoder

/-- The `AMFValue` that `load_object` returns. -/
def loadAmfObject : Load AmfValue := do
  let entries <- loadObject
  match AmfValue.setAll entries (.object []) with
  | .ok value => return value
  | .error what => throw what

end AmfDecoder

namespace AmfValue

open AmfEncoder

/-- Keys and strings that can be written: not empty, no NUL, and no longer
than a length of 16 bits says. -/
def TextOk (s : Bytes) : Prop :=
  0 ∉ s ∧ s.length <= 65535

instance (s : Bytes) : Decidable (TextOk s) :=
  inferInstanceAs (Decidable (_ ∧ _))

mutual

/-- Strings are texts, and the keys of an object are texts in order. -/
def WellFormed : AmfValue -> Prop
  | string s => TextOk s
  | object entries =>
      entries.Pairwise (fun e e' => e.1 < e'.1) ∧ WellFormedEntries entries
  | _ => True

def WellFormedEntries : List (Bytes × AmfValue) -> Prop
  | [] => True
  | (key, value) :: entries =>
      (key ≠ [] ∧ TextOk key) ∧ WellFormed value ∧ WellFormedEntries entries

end

/-- The object is returned, and no byte is left. -/
def Returns (entries : MapType) (b : FlatBuffer) : Prop :=
  exists b', AmfDecoder.loadAmfObject b = .ok (object entries) b' ∧
    b'.unread = []

def IsString (value : AmfValue) : Prop :=
  exists s, value = string s

/-!
## The map
-/

/-- A key behind all others is put at the end. -/
theorem emplace_of_last {key : Bytes} {value : AmfValue} {entries : MapType}
    (h : forall entry, entry ∈ entries -> entry.1 < key) :
    emplace key value entries = entries ++ [(key, value)] := by
  induction entries with
  | nil => rfl
  | cons entry entries ih =>
      rcases List.forall_mem_cons.mp h with ⟨hfirst, hothers⟩
      unfold emplace
      rw [if_neg (List.lt_asymm hfirst), if_pos hfirst, ih hothers,
        List.cons_append]

theorem emplace_mem {key : Bytes} {value : AmfValue} {entries : MapType}
    {entry : Bytes × AmfValue} (h : entry ∈ emplace key value entries) :
    entry = (key, value) ∨ entry ∈ entries := by
  induction entries with
  | nil => exact Or.inl (List.mem_singleton.mp h)
  | cons first entries ih =>
      unfold emplace at h
      split at h
      · exact List.mem_cons.mp h
      · split at h
        · rcases List.mem_cons.mp h with heq | hmem
          · exact Or.inr (List.mem_cons.mpr (Or.inl heq))
          · exact (ih hmem).imp_right (List.mem_cons_of_mem first)
        · exact Or.inr h

def ofStrings (entries : List (Bytes × Bytes)) : MapType :=
  entries.map fun entry => (entry.1, string entry.2)

/-- A string without a NUL is kept as it is. -/
theorem ofStdString_text {s : Bytes} (h : 0 ∉ s) : ofStdString s = string s :=
  congrArg string ((Scalar.cStr_eq_iff s).mpr h)

theorem setAll_sorted {front : MapType} {entries : List (Bytes × Bytes)}
    (h : (front ++ ofStrings entries).Pairwise fun e e' => e.1 < e'.1)
    (htext : forall entry, entry ∈ entries -> 0 ∉ entry.2) :
    setAll entries (object front) =
      .ok (object (front ++ ofStrings entries)) := by
  induction entries generalizing front with
  | nil => simp [setAll, ofStrings, pure, Except.pure]
  | cons entry entries ih =>
      rcases List.forall_mem_cons.mp htext with ⟨hfirst, hothers⟩
      have hsplit : front ++ ofStrings (entry :: entries) =
          (front ++ [(entry.1, string entry.2)]) ++ ofStrings entries := by
        simp [ofStrings]
      have hlast : forall e, e ∈ front -> e.1 < entry.1 := by
        intro e he
        exact (List.pairwise_append.mp h).2.2 e he (entry.1, string entry.2)
          (List.mem_cons_self ..)
      rw [hsplit] at h ⊢
      rw [← ih h hothers, ← emplace_of_last hlast, ← ofStdString_text hfirst]
      rfl

/-- Whatever the keys are, only strings are set. -/
theorem setAll_strings {entries : List (Bytes × Bytes)} {front : MapType}
    {value : AmfValue} (hfront : forall e, e ∈ front -> IsString e.2)
    (h : setAll entries (object front) = .ok value) :
    exists all, value = object all ∧ forall e, e ∈ all -> IsString e.2 := by
  induction entries generalizing front with
  | nil =>
      cases h
      exact ⟨front, rfl, hfront⟩
  | cons entry entries ih =>
      apply ih _ h
      intro e he
      rcases emplace_mem he with rfl | hmem
      · exact ⟨cStr entry.2, rfl⟩
      · exact hfront e hmem

theorem loadAmfObject_eq {b b' : FlatBuffer} {entries : List (Bytes × Bytes)}
    (h : AmfDecoder.loadObject b = .ok entries b') :
    AmfDecoder.loadAmfObject b =
      match setAll entries (object []) with
      | .ok value => .ok value b'
      | .error what => .error what b' := by
  unfold AmfDecoder.loadAmfObject
  rw [bind_of_ok h]
  change (match setAll entries (object []) with
    | .ok value => pure value
    | .error what => throw what : AmfDecoder.Load AmfValue) b' = _
  cases setAll entries (object []) <;> rfl

/-- What is returned has no values but strings. -/
theorem strings_of_loadAmfObject {b b' : FlatBuffer} {entries : MapType}
    (h : AmfDecoder.loadAmfObject b = .ok (object entries) b') :
    forall e, e ∈ entries -> IsString e.2 := by
  rcases bind_eq_ok h with ⟨loaded, t, hload, _⟩
  rw [loadAmfObject_eq hload] at h
  cases hset : setAll loaded (object []) with
  | error what =>
      rw [hset] at h
      cases h
  | ok value =>
      rw [hset] at h
      cases h
      rcases setAll_strings (by simp) hset with ⟨all, heq, hall⟩
      cases heq
      exact hall

/-!
## Objects of strings
-/

theorem exists_ofStrings {entries : MapType}
    (h : forall e, e ∈ entries -> IsString e.2) :
    exists strings, entries = ofStrings strings := by
  induction entries with
  | nil => exact ⟨[], rfl⟩
  | cons entry entries ih =>
      rcases List.forall_mem_cons.mp h with ⟨⟨s, hs⟩, hothers⟩
      rcases ih hothers with ⟨strings, rfl⟩
      refine ⟨(entry.1, s) :: strings, ?_⟩
      rw [← Prod.eta entry, hs]
      rfl

/-- The same entries as values of AMF0. -/
def toAmf0 (strings : List (Bytes × Bytes)) : List (Bytes × Amf0) :=
  strings.map fun entry => (entry.1, Amf0.string entry.2)

/-- The text of a string.  The other values have none. -/
def textOf : Amf0 -> Bytes
  | .string s => s
  | _ => []

theorem map_textOf (strings : List (Bytes × Bytes)) :
    (toAmf0 strings).map (fun entry => (entry.1, textOf entry.2)) =
      strings := by
  induction strings with
  | nil => rfl
  | cons entry strings ih => exact congrArg (List.cons entry) ih

theorem wellFormed_toAmf0 {strings : List (Bytes × Bytes)}
    (h : WellFormedEntries (ofStrings strings)) :
    Amf0.WellFormedEntries (toAmf0 strings) := by
  induction strings with
  | nil => trivial
  | cons entry strings ih =>
      rcases h with ⟨⟨hne, _, hkey⟩, ⟨_, hvalue⟩, hrest⟩
      exact ⟨⟨hne, Nat.lt_succ_of_le hkey⟩, Nat.lt_succ_of_le hvalue, ih hrest⟩

/-- Texts have no NUL. -/
theorem strings_noNul {strings : List (Bytes × Bytes)}
    (h : WellFormedEntries (ofStrings strings)) :
    forall entry, entry ∈ strings -> 0 ∉ entry.2 := by
  induction strings with
  | nil =>
      intro entry hentry
      cases hentry
  | cons first strings ih =>
      rcases h with ⟨_, hvalue, hrest⟩
      exact List.forall_mem_cons.mpr ⟨hvalue.1, ih hrest⟩

theorem writeKey_text (buf : Bytes) {key : Bytes} (h : key.length <= 65535) :
    writeKey buf key = buf ++ Amf0.text key := by
  have hlen : key.length % 2 ^ 16 = key.length :=
    Nat.mod_eq_of_lt (Nat.lt_succ_of_le h)
  unfold writeKey Amf0.text
  rw [Scalar.setBe16_eq, hlen, List.append_assoc]

theorem writeStdString_text (buf : Bytes) {s : Bytes} (h : TextOk s) :
    writeStdString buf s = buf ++ (Amf0.string s).encode := by
  have hcut : cStr s = s := (Scalar.cStr_eq_iff s).mpr h.1
  have hlen : s.length % 2 ^ 16 = s.length :=
    Nat.mod_eq_of_lt (Nat.lt_succ_of_le h.2)
  unfold writeStdString writeString
  rw [hcut, Scalar.setBe16_eq, hlen, List.append_assoc, List.append_assoc]
  rfl

theorem writeEntries_strings (buf : Bytes) {strings : List (Bytes × Bytes)}
    (h : WellFormedEntries (ofStrings strings)) :
    writeEntries buf (ofStrings strings) =
      buf ++ Amf0.encodeEntries (toAmf0 strings) := by
  induction strings generalizing buf with
  | nil => simp [writeEntries, Amf0.encodeEntries, ofStrings, toAmf0]
  | cons entry strings ih =>
      rcases h with ⟨⟨_, _, hkey⟩, hvalue, hrest⟩
      have hfirst : write (writeKey buf entry.1) (string entry.2) =
          buf ++ (Amf0.text entry.1 ++ (Amf0.string entry.2).encode) := by
        rw [← List.append_assoc, ← writeKey_text buf hkey]
        exact writeStdString_text _ hvalue
      have hcons : writeEntries buf (ofStrings (entry :: strings)) =
          writeEntries (write (writeKey buf entry.1) (string entry.2))
            (ofStrings strings) := by
        simp [ofStrings, writeEntries]
      rw [hcons, ih _ hrest, hfirst]
      simp [toAmf0, Amf0.encodeEntries, Amf0.encode]

theorem write_object {strings : List (Bytes × Bytes)}
    (h : WellFormedEntries (ofStrings strings)) :
    write [] (object (ofStrings strings)) =
      [0x03] ++ (Amf0.encodeEntries (toAmf0 strings) ++ Amf0.objectEnd) := by
  have hentries := writeEntries_strings ([] ++ [amfObject]) h
  have hend : forall buf, writeKey buf [] = buf ++ Amf0.text [] :=
    fun buf => writeKey_text buf (Nat.zero_le _)
  rw [write, hend, hentries]
  simp [Amf0.objectEnd, amfObject, amfObjectEnd]

/-- Objects of strings are read as they were written. -/
theorem loadObject_strings {strings : List (Bytes × Bytes)} {b : FlatBuffer}
    (hwf : WellFormedEntries (ofStrings strings)) (hb : b.Valid)
    (h : b.unread = write [] (object (ofStrings strings))) :
    exists b', AmfDecoder.loadObject b = .ok strings b' ∧ b'.unread = [] := by
  have hmarker : AmfDecoder.Yields
      (AmfDecoder.expect AmfDecoder.amfObject "expect an object") [0x03] () :=
    AmfDecoder.yields_expect "expect an object" rfl
  have hend : AmfDecoder.Yields
      (AmfDecoder.expect AmfDecoder.amfObjectEnd "expect an object end")
      [0x09] () :=
    AmfDecoder.yields_expect "expect an object end" rfl
  have hbytes : b.unread = [0x03] ++ (Amf0.encodeEntries (toAmf0 strings) ++
      (Amf0.objectEnd ++ [])) := by
    rw [h, write_object hwf, List.append_nil]
  have hread : forall entry, entry ∈ toAmf0 strings -> entry.2.WellFormed ->
      forall _ : Bytes, AmfDecoder.Yields AmfDecoder.loadString entry.2.encode
        (textOf entry.2) := by
    intro entry hentry hvalue _
    rcases List.mem_map.mp hentry with ⟨e, _, rfl⟩
    exact AmfDecoder.yields_loadString hvalue
  rcases hmarker b _ hb hbytes with ⟨t, hexpect, ht, htail⟩
  rcases AmfDecoder.loadAllEntries_read (wellFormed_toAmf0 hwf) hread ht htail
    [] with ⟨u, hu, hmark, hall⟩
  rcases hend u [] hu hmark with ⟨b', hlast, _, hrest⟩
  rw [map_textOf] at hall
  refine ⟨b', ?_, hrest⟩
  unfold AmfDecoder.loadObject
  rw [bind_of_ok (onFst_of_ok (s := (b, [])) hexpect), bind_of_ok hall,
    onFst_of_ok hlast]

/-- An object comes back if all of its values are strings, and only then. -/
theorem returns_iff_strings {entries : MapType} {b : FlatBuffer}
    (hwf : WellFormed (object entries)) (hb : b.Valid)
    (h : b.unread = write [] (object entries)) :
    Returns entries b <-> forall e, e ∈ entries -> IsString e.2 := by
  constructor
  · rintro ⟨b', hload, _⟩
    exact strings_of_loadAmfObject hload
  · intro hstrings
    rcases exists_ofStrings hstrings with ⟨strings, rfl⟩
    rcases loadObject_strings hwf.2 hb h with ⟨b', hload, hrest⟩
    have hset : setAll strings (object []) =
        .ok (object (ofStrings strings)) :=
      setAll_sorted hwf.1 (strings_noNul hwf.2)
    refine ⟨b', ?_, hrest⟩
    rw [loadAmfObject_eq hload, hset]

/-- The bytes of an object in a buffer of their own. -/
def written (entries : MapType) : FlatBuffer :=
  FlatBuffer.create.write (write [] (object entries))

/-- `app` with the value "live" and `tcUrl` with the value "rtmp". -/
def connectEntries : MapType :=
  [(ascii ['a', 'p', 'p'], string (ascii ['l', 'i', 'v', 'e'])),
    (ascii ['t', 'c', 'U', 'r', 'l'], string (ascii ['r', 't', 'm', 'p']))]

theorem connectEntries_wellFormed : WellFormed (object connectEntries) := by
  have hlive : TextOk (ascii ['l', 'i', 'v', 'e']) := by decide
  have hrtmp : TextOk (ascii ['r', 't', 'm', 'p']) := by decide
  constructor
  · exact List.pairwise_pair.mpr (by decide)
  · exact ⟨by decide, hlive, by decide, hrtmp, trivial⟩

theorem returns_iff_strings_connectEntries :
    (Returns connectEntries (written connectEntries) <->
      forall e, e ∈ connectEntries -> IsString e.2) ∧
    Returns connectEntries (written connectEntries) := by
  have hb := FlatBuffer.create_valid FlatBuffer.kInitialSize
  have hiff : Returns connectEntries (written connectEntries) <->
      forall e, e ∈ connectEntries -> IsString e.2 := by
    apply returns_iff_strings connectEntries_wellFormed
    · exact FlatBuffer.write_valid hb _
    · rw [written, FlatBuffer.write_unread hb, FlatBuffer.create_unread,
        List.nil_append]
  have hstrings : forall e, e ∈ connectEntries -> IsString e.2 :=
    List.forall_mem_cons.mpr ⟨⟨_, rfl⟩, List.forall_mem_singleton.mpr ⟨_, rfl⟩⟩
  exact ⟨hiff, hiff.mpr hstrings⟩

/-- `fpad` with the value false. -/
def fpadEntry : Bytes × AmfValue :=
  (ascii ['f', 'p', 'a', 'd'], boolean false)

theorem not_returns_fpadEntry : ¬ Returns [fpadEntry] (written [fpadEntry]) := by
  rintro ⟨b', hload, _⟩
  rcases strings_of_loadAmfObject hload fpadEntry (List.mem_singleton_self _)
    with ⟨s, hs⟩
  cases hs

end AmfValue

end Rtmp
end Streaming
