import Streaming.Foundation.LengthPrefixed
import Streaming.Network.ByteQueue
import Streaming.Rtmp.Demuxer

/-!
# NAL units

A video message carries units behind lengths of four bytes.  The loop that
splits them reads a length before it tests it, and in the end only asks whether
anything is left to read.
-/

namespace Streaming
namespace Rtmp

open Codec Foundation Network Util

/-- Units that `split_nal_frame` should accept: none is empty, and their lengths
fit into four bytes. -/
def NalUnits (units : List Bytes) : Prop :=
  forall unit, unit ∈ units -> unit ≠ [] ∧ unit.length < 256 ^ 4

/-- The payload is accepted just when it consists of units, and then there is
one frame for each of them: the start code and the unit. -/
structure SplitsRight (dts pts : Nat) (b : FlatBuffer) (t : H264Track) :
    Prop where
  returns_iff :
    (exists s, splitNalFrame dts pts (b, some t) = .ok PUnit.unit s) <->
      exists units, NalUnits units ∧ b.unread = encodeUnits 4 units
  frames : forall units s, NalUnits units ->
    b.unread = encodeUnits 4 units ->
    splitNalFrame dts pts (b, some t) = .ok PUnit.unit s ->
      exists t' frames, s.2 = some t' ∧ t'.frames = t.frames ++ frames ∧
        frames.map (fun fr => fr.data.unread) =
          units.map fun unit => kH264HeaderPrefix ++ unit

/-- Units with an empty one among them, or units and a length behind which
there is nothing. -/
def Irregular (payload : Bytes) : Prop :=
  exists units rest, payload = encodeUnits 4 units ++ rest ∧ Sized 4 units ∧
    (rest = [] ∧ [] ∈ units ∨ rest.length = 4 ∧ 0 < bigEndianValue rest)

/-!
## The loop
-/

section Loop

variable {dts pts : Nat} {b : FlatBuffer} {t : H264Track}

theorem unreadLength_eq {track : Type} (s : FlatBuffer × Option track) :
    (throwing unreadLength : Decode track Nat) s = .ok s.1.unreadLength s :=
  rfl

theorem onBuffer_of_ok {track value : Type} {m : EStateM String FlatBuffer value}
    {s : FlatBuffer × Option track} {b : FlatBuffer} {a : value}
    (h : m s.1 = .ok a b) :
    (throwing (onFst m) : Decode track value) s = .ok a (b, s.2) :=
  throwing_of_ok (onFst_of_ok h)

theorem splitNalLoop_short (h : b.unreadLength < 4) (fuel : Nat) :
    splitNalLoop dts pts fuel (b, some t) = .ok PUnit.unit (b, some t) := by
  cases fuel with
  | zero => rfl
  | succ fuel =>
      rw [splitNalLoop, bind_of_ok (unreadLength_eq (b, some t)),
        if_neg (Nat.not_le.mpr h)]
      rfl

/-- The length has been read when it turns out to be too large. -/
theorem splitNalLoop_break (hb : b.Valid) (h : 4 <= b.unreadLength)
    (hlarge : b.unreadLength - 4 < bigEndianValue (b.unread.take 4))
    (fuel : Nat) :
    splitNalLoop dts pts (fuel + 1) (b, some t) =
      .ok PUnit.unit (b.safeConsume 4, some t) := by
  have hread := onBuffer_of_ok (s := (b, some t))
    (FlatBuffer.readUint32_of_le hb h)
  have hrest := FlatBuffer.safeConsume_unreadLength hb h
  rw [splitNalLoop, bind_of_ok (unreadLength_eq (b, some t)), if_pos h,
    bind_of_ok hread, bind_of_ok (unreadLength_eq _), hrest, if_pos hlarge]
  rfl

/-- One turn of the loop makes a frame of a unit. -/
theorem splitNalLoop_unit (hb : b.Valid) {unit rest : Bytes}
    (hunit : unit.length < 256 ^ 4)
    (h : b.unread = withLength 4 unit ++ rest) (fuel : Nat) :
    exists b', b'.Valid ∧ b'.unread = rest ∧
      splitNalLoop dts pts (fuel + 1) (b, some t) =
        splitNalLoop dts pts fuel (b', some { t with
          frames := t.frames ++ [h264Frame dts pts unit] }) := by
  have hlen : 4 <= b.unreadLength := by
    rw [← hb.unread_length, h]
    simp only [withLength, List.length_append, bigEndian_length]
    omega
  have hvalue : bigEndianValue (b.unread.take 4) = unit.length := by
    rw [h, take_withLength, bigEndianValue_of_lt hunit]
  have hread := onBuffer_of_ok (s := (b, some t))
    (FlatBuffer.readUint32_of_le hb hlen)
  rw [hvalue] at hread
  have hvalid := FlatBuffer.safeConsume_valid hb 4
  have hunread : (b.safeConsume 4).unread = unit ++ rest := by
    rw [FlatBuffer.safeConsume_unread hlen, h, drop_withLength]
  have hfits : unit.length <= (b.safeConsume 4).unreadLength :=
    hvalid.length_le hunread
  have hnal : (b.safeConsume 4).data.take unit.length = unit := by
    rw [← FlatBuffer.take_unread hfits, hunread, List.take_left]
  have hpeek : (throwing (peekBytes unit.length) : Decode H264Track Bytes)
      (b.safeConsume 4, some t) = .ok unit (b.safeConsume 4, some t) :=
    congrArg (EStateM.Result.ok · _) hnal
  have hconsume := onBuffer_of_ok (s := (b.safeConsume 4, some t))
    (FlatBuffer.consumeOrFail_of_le hfits)
  refine ⟨(b.safeConsume 4).safeConsume unit.length,
    FlatBuffer.safeConsume_valid hvalid _, ?_, ?_⟩
  · rw [FlatBuffer.safeConsume_unread hfits, hunread, List.drop_left]
  · rw [splitNalLoop, bind_of_ok (unreadLength_eq (b, some t)), if_pos hlen,
      bind_of_ok hread, bind_of_ok (unreadLength_eq _),
      if_neg (Nat.not_lt.mpr hfits), bind_of_ok hpeek, bind_of_ok hconsume]
    rfl

/-- What is left unread where no further unit can be taken. -/
def leftover (rest : Bytes) : Bytes :=
  if rest.length < 4 then rest else rest.drop 4

theorem splitNalLoop_incomplete (hb : b.Valid) (h : Incomplete 4 b.unread)
    {fuel : Nat} (hfuel : b.unreadLength <= fuel) :
    exists b', splitNalLoop dts pts fuel (b, some t) =
        .ok PUnit.unit (b', some t) ∧
      b'.Valid ∧ b'.unread = leftover b.unread := by
  unfold leftover
  unfold Incomplete at h
  rw [hb.unread_length] at h ⊢
  rcases Nat.lt_or_ge b.unreadLength 4 with hshort | hlen
  · refine ⟨b, splitNalLoop_short hshort fuel, hb, ?_⟩
    rw [if_pos hshort]
  · have hlarge := h.resolve_left (Nat.not_lt.mpr hlen)
    refine ⟨b.safeConsume 4, ?_, FlatBuffer.safeConsume_valid hb 4, ?_⟩
    · rcases fuel with _ | fuel
      · omega
      · exact splitNalLoop_break hb hlen hlarge fuel
    · rw [if_neg (Nat.not_lt.mpr hlen), FlatBuffer.safeConsume_unread hlen]

/-- All units in front become frames, one after the other. -/
theorem splitNalLoop_units {units : List Bytes} {rest : Bytes} (hb : b.Valid)
    (hsized : Sized 4 units) (hrest : Incomplete 4 rest)
    (h : b.unread = encodeUnits 4 units ++ rest) {fuel : Nat}
    (hfuel : b.unreadLength <= fuel) :
    exists b', splitNalLoop dts pts fuel (b, some t) = .ok PUnit.unit
        (b', some { t with
          frames := t.frames ++ units.map (h264Frame dts pts) }) ∧
      b'.Valid ∧ b'.unread = leftover rest := by
  induction units generalizing b t fuel with
  | nil =>
      rw [encodeUnits_nil, List.nil_append] at h
      rw [← h] at hrest
      rw [List.map_nil, List.append_nil, ← h]
      exact splitNalLoop_incomplete hb hrest hfuel
  | cons unit units ih =>
      rcases List.forall_mem_cons.mp hsized with ⟨hunit, hunits⟩
      rw [encodeUnits_cons, List.append_assoc] at h
      have hlen : b.unreadLength =
          (4 + unit.length) + (encodeUnits 4 units ++ rest).length := by
        rw [← hb.unread_length, h, List.length_append, withLength,
          List.length_append, bigEndian_length]
      rcases fuel with _ | fuel
      · omega
      · rcases splitNalLoop_unit hb hunit h fuel with ⟨u, hu, hunread, hloop⟩
        have hshorter : u.unreadLength <= fuel := by
          rw [← hu.unread_length, hunread]
          omega
        rcases ih hu hunits hunread hshorter with ⟨b', hrun, hb', hend⟩
        refine ⟨b', ?_, hb', hend⟩
        rw [hloop, hrun, List.map_cons, List.append_assoc,
          List.singleton_append]

/-- The call returns when nothing is left, and throws otherwise. -/
theorem splitNalFrame_units {units : List Bytes} {rest : Bytes} (hb : b.Valid)
    (hsized : Sized 4 units) (hrest : Incomplete 4 rest)
    (h : b.unread = encodeUnits 4 units ++ rest) :
    exists b', splitNalFrame dts pts (b, some t) =
      if leftover rest = [] then
        .ok PUnit.unit (b', some { t with
          frames := t.frames ++ units.map (h264Frame dts pts) })
      else
        .error (.exception "H.264 frames are encoded incorrectly")
          (b', some { t with
            frames := t.frames ++ units.map (h264Frame dts pts) }) := by
  have hunits : exists b' : FlatBuffer,
      splitNalLoop dts pts b.unreadLength (b, some t) = _ ∧
      b'.Valid ∧ b'.unread = leftover rest :=
    splitNalLoop_units hb hsized hrest h (Nat.le_refl _)
  rcases hunits with ⟨b', hloop, hb', hend⟩
  refine ⟨b', ?_⟩
  have hlength := hb'.unread_length
  rw [hend] at hlength
  unfold splitNalFrame
  rw [bind_of_ok (unreadLength_eq (b, some t)), bind_of_ok hloop,
    bind_of_ok (unreadLength_eq _), ← hlength]
  by_cases hempty : leftover rest = []
  · rw [if_pos hempty, hempty]
    rfl
  · rw [if_neg hempty, if_pos]
    · rfl
    · exact fun hzero => hempty (List.length_eq_zero_iff.mp hzero)

theorem returns_iff_leftover {units : List Bytes} {rest : Bytes}
    (hb : b.Valid) (hsized : Sized 4 units) (hrest : Incomplete 4 rest)
    (h : b.unread = encodeUnits 4 units ++ rest) :
    (exists s, splitNalFrame dts pts (b, some t) = .ok PUnit.unit s) <->
      leftover rest = [] := by
  rcases splitNalFrame_units hb hsized hrest h with ⟨b', hsplit⟩
  rw [hsplit]
  split
  · rename_i hempty
    exact ⟨fun _ => hempty, fun _ => ⟨_, rfl⟩⟩
  · rename_i hleft
    constructor
    · rintro ⟨s, hs⟩
      cases hs
    · exact fun hempty => absurd hempty hleft

end Loop

/-!
## Which payloads are read right
-/

theorem incomplete_nil : Incomplete 4 [] :=
  Or.inl (by decide)

theorem sized_of_nalUnits {units : List Bytes} (h : NalUnits units) :
    Sized 4 units :=
  fun unit hunit => (h unit hunit).2

/-- A length alone is incomplete unless it is 0. -/
theorem incomplete_length {rest : Bytes} (hlen : rest.length = 4)
    (hpos : 0 < bigEndianValue rest) : Incomplete 4 rest := by
  right
  rw [List.take_of_length_le (Nat.le_of_eq hlen), hlen]
  exact hpos

theorem leftover_eq_nil_iff {rest : Bytes} (h : Incomplete 4 rest) :
    leftover rest = [] <->
      rest = [] ∨ rest.length = 4 ∧ 0 < bigEndianValue rest := by
  unfold leftover
  rcases Nat.lt_or_ge rest.length 4 with hshort | hlen
  · rw [if_pos hshort]
    constructor
    · exact Or.inl
    · rintro (hempty | ⟨hfour, _⟩)
      · exact hempty
      · omega
  · rw [if_neg (Nat.not_lt.mpr hlen), List.drop_eq_nil_iff]
    constructor
    · intro hle
      have hfour : rest.length = 4 := Nat.le_antisymm hle hlen
      have hlarge := h.resolve_left (Nat.not_lt.mpr hlen)
      rw [List.take_of_length_le hle, hfour] at hlarge
      exact Or.inr ⟨hfour, hlarge⟩
    · rintro (hempty | ⟨hfour, _⟩)
      · simp [hempty]
      · exact Nat.le_of_eq hfour

theorem not_nalUnits_iff {units : List Bytes} (h : Sized 4 units) :
    ¬ NalUnits units <-> [] ∈ units := by
  constructor
  · intro hnot
    by_contra hempty
    apply hnot
    intro unit hunit
    exact ⟨fun heq => hempty (heq ▸ hunit), h unit hunit⟩
  · intro hempty hunits
    exact (hunits [] hempty).1 rfl

theorem h264Frame_unread (dts pts : Nat) (nal : Bytes) :
    (h264Frame dts pts nal).data.unread = kH264HeaderPrefix ++ nal := by
  have hb := FlatBuffer.create_valid (kH264HeaderPrefix.length + nal.length)
  unfold h264Frame
  rw [FlatBuffer.write_unread (FlatBuffer.write_valid hb _),
    FlatBuffer.write_unread hb, FlatBuffer.create_unread, List.nil_append]

/-- Units without an empty one become their frames. -/
theorem splitNalFrame_frames {dts pts : Nat} {b : FlatBuffer} {t : H264Track}
    (hb : b.Valid) {units : List Bytes} {s : FlatBuffer × Option H264Track}
    (hunits : NalUnits units) (h : b.unread = encodeUnits 4 units)
    (hsplit : splitNalFrame dts pts (b, some t) = .ok PUnit.unit s) :
    exists t' frames, s.2 = some t' ∧ t'.frames = t.frames ++ frames ∧
      frames.map (fun fr => fr.data.unread) =
        units.map fun unit => kH264HeaderPrefix ++ unit := by
  rw [← List.append_nil (encodeUnits 4 units)] at h
  have hresult : exists b', splitNalFrame dts pts (b, some t) = _ :=
    splitNalFrame_units hb (sized_of_nalUnits hunits) incomplete_nil h
  rcases hresult with ⟨b', hresult⟩
  rw [if_pos (show leftover [] = [] from rfl), hsplit] at hresult
  cases hresult
  refine ⟨_, units.map (h264Frame dts pts), rfl, rfl, ?_⟩
  rw [List.map_map]
  exact List.map_congr_left fun unit _ => h264Frame_unread dts pts unit

/-- A payload is irregular if its own units and what is left are. -/
theorem irregular_iff {units : List Bytes} {rest : Bytes}
    (hsized : Sized 4 units) (hrest : Incomplete 4 rest) :
    Irregular (encodeUnits 4 units ++ rest) <->
      rest = [] ∧ [] ∈ units ∨ rest.length = 4 ∧ 0 < bigEndianValue rest := by
  constructor
  · rintro ⟨units', rest', heq, hsized', hodd⟩
    have hrest' : Incomplete 4 rest' := by
      rcases hodd with ⟨rfl, _⟩ | ⟨hlen, hpos⟩
      · exact incomplete_nil
      · exact incomplete_length hlen hpos
    rcases encodeUnits_inj hsized hsized' hrest hrest' heq with ⟨rfl, rfl⟩
    exact hodd
  · intro hodd
    exact ⟨units, rest, rfl, hsized, hodd⟩

/-- Which payloads are units is decided by their units and what is left. -/
theorem isUnits_iff {units : List Bytes} {rest : Bytes}
    (hsized : Sized 4 units) (hrest : Incomplete 4 rest) :
    (exists others, NalUnits others ∧
      encodeUnits 4 units ++ rest = encodeUnits 4 others) <->
        rest = [] ∧ NalUnits units := by
  constructor
  · rintro ⟨others, hothers, heq⟩
    rw [← List.append_nil (encodeUnits 4 others)] at heq
    rcases encodeUnits_inj hsized (sized_of_nalUnits hothers) hrest
      incomplete_nil heq with ⟨rfl, rfl⟩
    exact ⟨rfl, hothers⟩
  · rintro ⟨rfl, hunits⟩
    exact ⟨units, hunits, List.append_nil _⟩

/-- A payload is split right unless it is irregular. -/
theorem splitsRight_iff {dts pts : Nat} {b : FlatBuffer} {t : H264Track}
    (hb : b.Valid) : SplitsRight dts pts b t <-> ¬ Irregular b.unread := by
  have hfour : 0 < 4 := by decide
  rcases exists_units hfour b.unread with ⟨units, rest, h, hsized, hrest⟩
  have hreturns : (exists s, splitNalFrame dts pts (b, some t) =
      .ok PUnit.unit s) <-> _ :=
    (returns_iff_leftover hb hsized hrest h).trans (leftover_eq_nil_iff hrest)
  constructor
  · rintro ⟨hright, _⟩ hodd
    rw [h, irregular_iff hsized hrest] at hodd
    have hunits := hright.mp (hreturns.mpr (hodd.imp_left And.left))
    rw [h, isUnits_iff hsized hrest] at hunits
    rcases hodd with ⟨_, hempty⟩ | ⟨hlen, _⟩
    · exact (not_nalUnits_iff hsized).mpr hempty hunits.2
    · rw [hunits.1] at hlen
      cases hlen
  · intro hregular
    rw [h, irregular_iff hsized hrest] at hregular
    refine ⟨?_, fun others s hothers heq hsplit =>
      splitNalFrame_frames hb hothers heq hsplit⟩
    rw [hreturns, h, isUnits_iff hsized hrest]
    constructor
    · rintro (hempty | hlength)
      · refine ⟨hempty, ?_⟩
        by_contra hnot
        exact hregular (Or.inl ⟨hempty, (not_nalUnits_iff hsized).mp hnot⟩)
      · exact absurd (Or.inr hlength) hregular
    · exact fun hunits => Or.inl hunits.1

/-- The payload of one slice of an IDR picture. -/
def idrSlice : Bytes := encodeUnits 4 [[0x65, 0x88, 0x84]]

theorem splitsRight_iff_idrSlice :
    SplitsRight 0 0 (FlatBuffer.ofBytes idrSlice) {} <->
      ¬ Irregular (FlatBuffer.ofBytes idrSlice).unread :=
  splitsRight_iff (FlatBuffer.ofBytes_valid idrSlice)

/-- A length of 0 is accepted, and becomes a frame without a NAL type. -/
theorem not_splitsRight_emptyUnit :
    ¬ SplitsRight 0 0 (FlatBuffer.ofBytes [0, 0, 0, 0]) {} := by
  rintro ⟨hright, _⟩
  have hb := FlatBuffer.ofBytes_valid [0, 0, 0, 0]
  have hsized : Sized 4 [[]] := by
    simp [Sized]
  have hunread : (FlatBuffer.ofBytes [0, 0, 0, 0]).unread =
      encodeUnits 4 [[]] ++ [] := by
    rw [FlatBuffer.ofBytes_unread]
    rfl
  have hunits := hright.mp
    ((returns_iff_leftover hb hsized incomplete_nil hunread).mpr rfl)
  rw [hunread, isUnits_iff hsized incomplete_nil] at hunits
  exact (not_nalUnits_iff hsized).mpr (List.mem_singleton_self _) hunits.2

end Rtmp
end Streaming
