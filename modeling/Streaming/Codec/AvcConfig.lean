import Streaming.Codec.Tracks
import Streaming.Foundation.LengthPrefixed
import Streaming.Network.ByteQueue

/-!
# AVC decoder configurations

A record lists sequence and picture parameter sets behind their numbers.
`parse_config` takes the first set of what comes where a record with a single
sequence parameter set has its picture parameter sets.
-/

namespace Streaming
namespace Codec

open Foundation Network Util

/-- An `AVCDecoderConfigurationRecord`.  Some profiles extend it. -/
structure AvcRecord where
  configurationVersion : UInt8
  profileIndication : UInt8
  profileCompatibility : UInt8
  levelIndication : UInt8
  lengthSizeMinusOne : UInt8
  firstSps : Bytes
  otherSps : List Bytes
  firstPps : Bytes
  otherPps : List Bytes
  extension : Bytes
  sps_count : otherSps.length < 31
  pps_count : otherPps.length < 255
  sps_sized : Sized 2 (firstSps :: otherSps)
  pps_sized : Sized 2 (firstPps :: otherPps)

namespace AvcRecord

def head (record : AvcRecord) : Bytes :=
  [record.configurationVersion, record.profileIndication,
    record.profileCompatibility, record.levelIndication,
    0xFC ||| record.lengthSizeMinusOne,
    0xE0 ||| UInt8.ofNat (record.otherSps.length + 1)]

/-- What follows the first sequence parameter set. -/
def tail (record : AvcRecord) : Bytes :=
  encodeUnits 2 record.otherSps ++
    (UInt8.ofNat (record.otherPps.length + 1) ::
      (encodeUnits 2 (record.firstPps :: record.otherPps) ++
        record.extension))

def encode (record : AvcRecord) : Bytes :=
  record.head ++ (withLength 2 record.firstSps ++ record.tail)

/-- The bytes up to the end of the first sequence parameter set. -/
def tailOffset (record : AvcRecord) : Nat :=
  8 + record.firstSps.length

/-- One byte behind the first sequence parameter set there is the first picture
parameter set. -/
def PpsFollows (record : AvcRecord) : Prop :=
  withLength 2 record.firstPps <+: record.tail.drop 1

/-- A record cut at `k` ends with its first sequence parameter set, or the track
has that set already and what seems to be the next one is cut. -/
def CutInTime (record : AvcRecord) (k : Nat) (t : H264Track) : Prop :=
  k < record.tailOffset ∨ t.sps = record.firstSps ∧
    Incomplete 2 ((record.tail.take (k - record.tailOffset)).drop 1)

end AvcRecord

namespace H264Track

/-- The parser of the sequence parameter set succeeds. -/
def parse : Parse H264Track PUnit :=
  parseConfig fun _ => true

/-- The first sets of the record are in the track. -/
def Stores (record : AvcRecord) (s : FlatBuffer × H264Track) : Prop :=
  exists s', parse s = .ok PUnit.unit s' ∧ s'.2.sps = record.firstSps ∧
    s'.2.pps = record.firstPps

/-- The call throws, and the sets of the track are what they were. -/
def Refuses (s : FlatBuffer × H264Track) : Prop :=
  exists what s', parse s = .error what s' ∧ s'.2.sps = s.2.sps ∧
    s'.2.pps = s.2.pps

/-!
## One set
-/

section ParameterSet

variable {result : Type} {b : FlatBuffer} {t : H264Track}

/-- Bytes are skipped, and a set is read behind its length. -/
def parameterSet (skipped : Nat) (next : Bytes -> Nat -> Parse H264Track result) :
    Parse H264Track result := do
  onFst (FlatBuffer.consumeOrFail skipped)
  let size <- onFst FlatBuffer.readUint16
  onFst (FlatBuffer.requireLengthOrFail size)
  let set <- peekBytes size
  next set size

theorem onFst_of_error {m : EStateM String FlatBuffer result} {what : String}
    (h : m b = .error what b) :
    (onFst m : Parse H264Track result) (b, t) = .error what (b, t) := by
  unfold onFst
  rw [h]

theorem parameterSet_incomplete (hb : b.Valid) {skipped : Nat}
    (h : Incomplete 2 (b.unread.drop skipped))
    (next : Bytes -> Nat -> Parse H264Track result) :
    exists what b', parameterSet skipped next (b, t) = .error what (b', t) := by
  unfold parameterSet
  rcases Nat.lt_or_ge b.unreadLength skipped with hshort | hskip
  · exact ⟨_, b, bind_of_error
      (onFst_of_error (if_neg (Nat.not_le.mpr hshort)))⟩
  · have hconsume := onFst_of_ok (s := (b, t))
      (FlatBuffer.consumeOrFail_of_le hskip)
    have hc := FlatBuffer.safeConsume_valid hb skipped
    have hunread := FlatBuffer.safeConsume_unread hskip
    rw [← hunread] at h
    rw [bind_of_ok hconsume]
    generalize b.safeConsume skipped = c at hc h
    unfold Incomplete at h
    rw [hc.unread_length] at h
    rcases Nat.lt_or_ge c.unreadLength 2 with hshort | hlen
    · exact ⟨_, c, bind_of_error
        (onFst_of_error (FlatBuffer.readUint16_of_lt hshort))⟩
    · have hread := FlatBuffer.readUint16_of_le hc hlen
      have hlarge := h.resolve_left (Nat.not_lt.mpr hlen)
      rw [← FlatBuffer.safeConsume_unreadLength hc hlen] at hlarge
      rw [bind_of_ok (onFst_of_ok (s := (c, t)) hread)]
      exact ⟨_, c.safeConsume 2, bind_of_error
        (onFst_of_error (if_pos hlarge))⟩

theorem parameterSet_unit (hb : b.Valid) {skipped : Nat} {set rest : Bytes}
    (hset : set.length < 256 ^ 2) (hskip : skipped <= b.unreadLength)
    (h : b.unread.drop skipped = withLength 2 set ++ rest)
    (next : Bytes -> Nat -> Parse H264Track result) :
    exists c, c.Valid ∧ c.unread = set ++ rest ∧
      parameterSet skipped next (b, t) = next set set.length (c, t) := by
  have hconsume := onFst_of_ok (s := (b, t))
    (FlatBuffer.consumeOrFail_of_le hskip)
  have hc := FlatBuffer.safeConsume_valid hb skipped
  have hunread := FlatBuffer.safeConsume_unread hskip
  rw [← hunread] at h
  unfold parameterSet
  rw [bind_of_ok hconsume]
  generalize b.safeConsume skipped = c at hc h
  have hlen : 2 <= c.unreadLength := by
    rw [← hc.unread_length, h]
    simp only [withLength, List.length_append, bigEndian_length]
    omega
  have hvalue : bigEndianValue (c.unread.take 2) = set.length := by
    rw [h, take_withLength, bigEndianValue_of_lt hset]
  have hread := FlatBuffer.readUint16_of_le hc hlen
  rw [hvalue] at hread
  have hd := FlatBuffer.safeConsume_valid hc 2
  have hdunread : (c.safeConsume 2).unread = set ++ rest := by
    rw [FlatBuffer.safeConsume_unread hlen, h, drop_withLength]
  have hfits := hd.length_le hdunread
  have hpeek : (c.safeConsume 2).data.take set.length = set := by
    rw [← FlatBuffer.take_unread hfits, hdunread, List.take_left]
  have hrequire : FlatBuffer.requireLengthOrFail set.length
      (c.safeConsume 2) = .ok () (c.safeConsume 2) :=
    if_neg (Nat.not_lt.mpr hfits)
  refine ⟨c.safeConsume 2, hd, hdunread, ?_⟩
  rw [bind_of_ok (onFst_of_ok (s := (c, t)) hread),
    bind_of_ok (onFst_of_ok (s := (c.safeConsume 2, t)) hrequire)]
  change next ((c.safeConsume 2).data.take set.length) set.length _ = _
  rw [hpeek]

/-- The set is stored, and the bytes are consumed. -/
theorem store_set {c : FlatBuffer} (hc : c.Valid) {set rest : Bytes}
    (h : c.unread = set ++ rest) (put : H264Track -> H264Track)
    (next : Parse H264Track result) :
    exists c', c'.Valid ∧ c'.unread = rest ∧
      (do
        modify fun s => (s.1, put s.2)
        onFst (FlatBuffer.consumeOrFail set.length)
        next : Parse H264Track result) (c, t) = next (c', put t) := by
  have hfits := hc.length_le h
  have hconsume := onFst_of_ok (s := (c, put t))
    (FlatBuffer.consumeOrFail_of_le hfits)
  refine ⟨c.safeConsume set.length, FlatBuffer.safeConsume_valid hc _, ?_, ?_⟩
  · rw [FlatBuffer.safeConsume_unread hfits, h, List.drop_left]
  · have hmodify : (modify fun s => (s.1, put s.2) : Parse H264Track PUnit)
        (c, t) = .ok PUnit.unit (c, put t) := rfl
    rw [bind_of_ok hmodify, bind_of_ok hconsume]

end ParameterSet

/-!
## The whole configuration
-/

/-- The end of `parse_config`, where both sets are in the track. -/
def passSets : Parse H264Track PUnit := do
  extractBitstreamSps fun _ => true
  encapsulateConfigFrame (<- get).2.sps
  encapsulateConfigFrame (<- get).2.pps

def parsePps : Parse H264Track PUnit :=
  parameterSet 1 fun pps size => do
    modify fun s => (s.1, { s.2 with pps := pps })
    onFst (FlatBuffer.consumeOrFail size)
    passSets

theorem parse_eq :
    parse = parameterSet 6 (fun sps size => do
      modify fun s => (s.1, { s.2 with sps := sps })
      onFst (FlatBuffer.consumeOrFail size)
      parsePps) :=
  rfl

theorem encapsulate_ok (config : Bytes) (s : FlatBuffer × H264Track) :
    exists s', encapsulateConfigFrame config s = .ok PUnit.unit s' ∧
      s'.2.sps = s.2.sps ∧ s'.2.pps = s.2.pps := by
  unfold encapsulateConfigFrame
  split
  · exact ⟨s, rfl, rfl, rfl⟩
  · exact ⟨_, rfl, rfl, rfl⟩

theorem passSets_ok (s : FlatBuffer × H264Track) :
    exists s', passSets s = .ok PUnit.unit s' ∧ s'.2.sps = s.2.sps ∧
      s'.2.pps = s.2.pps := by
  have hextract : extractBitstreamSps (fun _ => true) s = .ok PUnit.unit s := by
    unfold extractBitstreamSps
    rw [get_bind]
    split <;> rfl
  rcases encapsulate_ok s.2.sps s with ⟨t, hfirst, hsps, hpps⟩
  rcases encapsulate_ok t.2.pps t with ⟨u, hsecond, hsps', hpps'⟩
  refine ⟨u, ?_, hsps'.trans hsps, hpps'.trans hpps⟩
  unfold passSets
  rw [bind_of_ok hextract, get_bind, bind_of_ok hfirst, get_bind, hsecond]

section Parse

variable {b : FlatBuffer} {t : H264Track} {set rest : Bytes}

theorem parsePps_unit (hb : b.Valid) (hset : set.length < 256 ^ 2)
    (hskip : 1 <= b.unreadLength)
    (h : b.unread.drop 1 = withLength 2 set ++ rest) :
    exists s', parsePps (b, t) = .ok PUnit.unit s' ∧ s'.2.sps = t.sps ∧
      s'.2.pps = set := by
  unfold parsePps
  rcases parameterSet_unit hb hset hskip h _ with ⟨c, hc, hunread, hread⟩
  rcases store_set (t := t) hc hunread (fun t => { t with pps := set }) passSets
    with ⟨c', _, _, hstore⟩
  rcases passSets_ok (c', { t with pps := set }) with ⟨s', hpass, hsps, hpps⟩
  exact ⟨s', hread.trans (hstore.trans hpass), hsps, hpps⟩

/-- The first set goes into the track before the second one is looked for. -/
theorem parse_unit (hb : b.Valid) (hset : set.length < 256 ^ 2)
    (hskip : 6 <= b.unreadLength)
    (h : b.unread.drop 6 = withLength 2 set ++ rest) :
    exists c, c.Valid ∧ c.unread = rest ∧
      parse (b, t) = parsePps (c, { t with sps := set }) := by
  rw [parse_eq]
  rcases parameterSet_unit hb hset hskip h _ with ⟨c, hc, hunread, hread⟩
  rcases store_set (t := t) hc hunread (fun t => { t with sps := set }) parsePps
    with ⟨c', hc', hrest, hstore⟩
  exact ⟨c', hc', hrest, hread.trans hstore⟩

/-- What the sets are when the call is over, by what is behind the first. -/
theorem parsePps_cases (hb : b.Valid) :
    (Incomplete 2 (b.unread.drop 1) ∧
      exists what b', parsePps (b, t) = .error what (b', t)) ∨
    exists pps rest s', b.unread.drop 1 = withLength 2 pps ++ rest ∧
      pps.length < 256 ^ 2 ∧ parsePps (b, t) = .ok PUnit.unit s' ∧
      s'.2.sps = t.sps ∧ s'.2.pps = pps := by
  by_cases h : Incomplete 2 (b.unread.drop 1)
  · exact Or.inl ⟨h, parameterSet_incomplete hb h _⟩
  · right
    rcases exists_unit h with ⟨pps, rest, heq, hpps⟩
    have hskip : 1 <= b.unreadLength := by
      have hlength := congrArg List.length heq
      rw [List.length_drop, hb.unread_length] at hlength
      simp only [withLength, List.length_append, bigEndian_length] at hlength
      omega
    rcases parsePps_unit (t := t) hb hpps hskip heq with ⟨s', hs', hsps, hset⟩
    exact ⟨pps, rest, s', heq, hpps, hs', hsps, hset⟩

end Parse

/-!
## Records
-/

section Record

variable {record : AvcRecord} {b : FlatBuffer} {t : H264Track} {k : Nat}

theorem encode_length (record : AvcRecord) :
    record.encode.length = record.tailOffset + record.tail.length := by
  simp only [AvcRecord.encode, AvcRecord.tailOffset, AvcRecord.head, withLength,
    List.length_append, bigEndian_length, List.length_cons, List.length_nil]
  omega

theorem encode_drop (record : AvcRecord) :
    record.encode.drop 6 = withLength 2 record.firstSps ++ record.tail := rfl

theorem firstSps_sized (record : AvcRecord) :
    record.firstSps.length < 256 ^ 2 :=
  record.sps_sized _ (List.mem_cons_self ..)

theorem firstPps_sized (record : AvcRecord) :
    record.firstPps.length < 256 ^ 2 :=
  record.pps_sized _ (List.mem_cons_self ..)

theorem stores_iff (hb : b.Valid) (h : b.unread = record.encode) :
    Stores record (b, t) <-> record.PpsFollows := by
  have hlen : 6 <= b.unreadLength := by
    rw [← hb.unread_length, h, encode_length, AvcRecord.tailOffset]
    omega
  have hdrop : b.unread.drop 6 =
      withLength 2 record.firstSps ++ record.tail := by
    rw [h, encode_drop]
  rcases parse_unit (t := t) hb (firstSps_sized record) hlen hdrop with
    ⟨c, hc, hrest, hparse⟩
  unfold Stores AvcRecord.PpsFollows
  rw [hparse, ← hrest]
  rcases parsePps_cases (t := { t with sps := record.firstSps }) hc with
    ⟨hcut, what, b', hthrow⟩ | ⟨pps, rest, s', heq, hpps, hs', hsps, hset⟩
  · rw [hthrow]
    constructor
    · rintro ⟨s', hs', _⟩
      cases hs'
    · rintro ⟨rest, hfollows⟩
      rw [← hfollows] at hcut
      exact absurd hcut (not_incomplete_withLength rest (firstPps_sized record))
  · rw [hs', heq]
    constructor
    · rintro ⟨_, hsame, _, hfirst⟩
      cases hsame
      rw [← hfirst, hset]
      exact List.prefix_append _ _
    · rintro ⟨more, hfollows⟩
      have hsame := (withLength_inj (firstPps_sized record) hpps hfollows).1
      exact ⟨s', rfl, hsps, hset.trans hsame.symm⟩

theorem refuses_early (hb : b.Valid) (h : b.unread = record.encode.take k)
    (hk : k < record.tailOffset) : Refuses (b, t) := by
  have hlength := encode_length record
  have hdrop : b.unread.drop 6 =
      (withLength 2 record.firstSps ++ record.tail).take (k - 6) := by
    rw [h, List.drop_take, encode_drop]
  have hcut : Incomplete 2 (b.unread.drop 6) := by
    have hlen : (b.unread.drop 6).length = k - 6 := by
      rw [List.length_drop, h, List.length_take]
      omega
    unfold Incomplete
    rw [hlen]
    rcases Nat.lt_or_ge (k - 6) 2 with hshort | hlong
    · exact Or.inl hshort
    · right
      rw [hdrop, List.take_take, Nat.min_eq_left hlong, take_withLength,
        bigEndianValue_of_lt (firstSps_sized record)]
      unfold AvcRecord.tailOffset at hk
      omega
  rcases parameterSet_incomplete (t := t) hb hcut _ with ⟨what, b', hthrow⟩
  exact ⟨what, (b', t), hthrow, rfl, rfl⟩

/-- Behind the first set the track has changed already. -/
theorem refuses_late_iff (hb : b.Valid) (h : b.unread = record.encode.take k)
    (hk : record.tailOffset <= k) :
    Refuses (b, t) <-> t.sps = record.firstSps ∧
      Incomplete 2 ((record.tail.take (k - record.tailOffset)).drop 1) := by
  have hoffset : k - 6 - (withLength 2 record.firstSps).length =
      k - record.tailOffset := by
    simp only [withLength, List.length_append, bigEndian_length,
      AvcRecord.tailOffset]
    omega
  have hdrop : b.unread.drop 6 = withLength 2 record.firstSps ++
      record.tail.take (k - record.tailOffset) := by
    rw [h, List.drop_take, encode_drop, List.take_append, hoffset,
      List.take_of_length_le]
    simp only [withLength, List.length_append, bigEndian_length]
    unfold AvcRecord.tailOffset at hk
    omega
  have hlen : 6 <= b.unreadLength := by
    have hlength := congrArg List.length hdrop
    rw [List.length_drop, hb.unread_length] at hlength
    simp only [withLength, List.length_append, bigEndian_length] at hlength
    omega
  rcases parse_unit (t := t) hb (firstSps_sized record) hlen hdrop with
    ⟨c, hc, hrest, hparse⟩
  unfold Refuses
  rw [hparse, ← hrest]
  rcases parsePps_cases (t := { t with sps := record.firstSps }) hc with
    ⟨hcut, what, b', hthrow⟩ | ⟨pps, rest, s', heq, hpps, hs', _, _⟩
  · rw [hthrow]
    constructor
    · rintro ⟨_, _, hsame, hsps, _⟩
      cases hsame
      exact ⟨hsps.symm, hcut⟩
    · rintro ⟨hsps, _⟩
      exact ⟨what, _, rfl, hsps.symm, rfl⟩
  · rw [hs', heq]
    constructor
    · rintro ⟨_, _, hsame, _⟩
      cases hsame
    · rintro ⟨_, hcut⟩
      exact absurd hcut (not_incomplete_withLength rest hpps)

/-- What should come of the first `k` bytes of a record. -/
structure ParsesRight (record : AvcRecord) (k : Nat)
    (s : FlatBuffer × H264Track) : Prop where
  whole : record.encode.length <= k -> Stores record s
  truncated : k < record.encode.length -> Refuses s

structure Regular (record : AvcRecord) (k : Nat) (t : H264Track) : Prop where
  whole : record.encode.length <= k -> record.PpsFollows
  truncated : k < record.encode.length -> record.CutInTime k t

theorem parsesRight_iff (hb : b.Valid) (h : b.unread = record.encode.take k) :
    ParsesRight record k (b, t) <-> Regular record k t := by
  have hwhole : record.encode.length <= k ->
      (Stores record (b, t) <-> record.PpsFollows) := by
    intro hk
    rw [List.take_of_length_le hk] at h
    exact stores_iff hb h
  have htruncated : Refuses (b, t) <-> record.CutInTime k t := by
    unfold AvcRecord.CutInTime
    rcases Nat.lt_or_ge k record.tailOffset with hearly | hlate
    · exact ⟨fun _ => Or.inl hearly, fun _ => refuses_early hb h hearly⟩
    · rw [refuses_late_iff hb h hlate]
      exact ⟨Or.inr, fun hor => hor.resolve_left (Nat.not_lt.mpr hlate)⟩
  constructor
  · rintro ⟨hstores, hrefuses⟩
    exact ⟨fun hk => (hwhole hk).mp (hstores hk),
      fun hk => htruncated.mp (hrefuses hk)⟩
  · rintro ⟨hfollows, hcut⟩
    exact ⟨fun hk => (hwhole hk).mpr (hfollows hk),
      fun hk => htruncated.mpr (hcut hk)⟩

end Record

/-- With a single sequence parameter set the byte between is the number of the
picture parameter sets. -/
theorem ppsFollows_of_single {record : AvcRecord} (h : record.otherSps = []) :
    record.PpsFollows := by
  unfold AvcRecord.PpsFollows AvcRecord.tail
  rw [h, encodeUnits_nil, List.nil_append, List.drop_one, List.tail_cons,
    encodeUnits_cons, List.append_assoc]
  exact List.prefix_append _ _

/-- The baseline profile, with one set of each kind. -/
def baseline : AvcRecord where
  configurationVersion := 1
  profileIndication := 0x42
  profileCompatibility := 0
  levelIndication := 0x1E
  lengthSizeMinusOne := 3
  firstSps := [0x67, 0x42, 0x00, 0x1E]
  otherSps := []
  firstPps := [0x68, 0xCE]
  otherPps := []
  extension := []
  sps_count := by decide
  pps_count := by decide
  sps_sized := by simp [Sized]
  pps_sized := by simp [Sized]

theorem parsesRight_iff_baseline :
    ParsesRight baseline 19 (FlatBuffer.ofBytes (baseline.encode.take 19), {}) <->
      Regular baseline 19 {} :=
  parsesRight_iff (FlatBuffer.ofBytes_valid _) (FlatBuffer.ofBytes_unread _)

/-- The same with another sequence parameter set. -/
def twoSps : AvcRecord :=
  { baseline with
    otherSps := [[0x67, 0x42, 0x00, 0x1F]]
    sps_count := by decide
    sps_sized := by simp [Sized, baseline] }

/-- The second set is taken for picture parameters; and a record that is cut
behind the first one leaves it in the track. -/
theorem not_parsesRight_twoSps :
    ¬ ParsesRight twoSps twoSps.encode.length
        (FlatBuffer.ofBytes twoSps.encode, {}) ∧
      ¬ ParsesRight baseline 12
        (FlatBuffer.ofBytes (baseline.encode.take 12), {}) := by
  constructor
  · rintro ⟨hstores, _⟩
    have hfollows := (stores_iff (FlatBuffer.ofBytes_valid _)
      (FlatBuffer.ofBytes_unread _)).mp (hstores (Nat.le_refl _))
    revert hfollows
    unfold AvcRecord.PpsFollows
    decide
  · rintro ⟨_, hrefuses⟩
    have hsame := (refuses_late_iff (FlatBuffer.ofBytes_valid _)
      (FlatBuffer.ofBytes_unread _) (by decide)).mp (hrefuses (by decide))
    cases hsame.1

end H264Track

end Codec
end Streaming
