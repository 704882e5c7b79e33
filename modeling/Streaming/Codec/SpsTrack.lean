import Streaming.Codec.AvcConfig
import Streaming.Codec.SpsRoundTrip

/-!
# What an H.264 track takes from its parameter sets

The size of the pictures comes from the sequence parameter set, of which the
height is that of a field where there are fields.  Both sets are passed on when
the first one has been parsed.
-/

namespace Streaming
namespace Codec

open Foundation Network Util

/-!
## The size of the pictures
-/

namespace SeqParameterSet

variable {s : SeqParameterSet}

end SeqParameterSet

/-!
## The configuration of a track
-/

namespace H264Track

/-- `h264DecSeqParameterSet` returns 0. -/
def spsParses (set : Bytes) : Bool :=
  match h264DecSeqParameterSet set with
  | .ok _ => true
  | .error _ => false

variable {parses : Bytes -> Bool} {record : AvcRecord} {b : FlatBuffer}
  {t : H264Track}

/-- The frame of a set, if there is one. -/
def configFrames (config : Bytes) : List Frame :=
  if config = [] then [] else [h264Frame 0 0 config]

theorem encapsulateConfigFrame_eq (config : Bytes) (s : FlatBuffer × H264Track) :
    encapsulateConfigFrame config s = .ok PUnit.unit
      (s.1, { s.2 with frames := s.2.frames ++ configFrames config }) := by
  unfold encapsulateConfigFrame configFrames
  split
  · rw [List.append_nil]
    rfl
  · rfl

/-- A set of fewer than four bytes is not parsed. -/
def SpsPasses (parses : Bytes -> Bool) (sps : Bytes) : Prop :=
  sps.length < 4 ∨ parses (sps.drop 1) = true

/-- The end of `parse_config`. -/
def passParsed (parses : Bytes -> Bool) : Parse H264Track PUnit := do
  extractBitstreamSps parses
  encapsulateConfigFrame (<- get).2.sps
  encapsulateConfigFrame (<- get).2.pps

theorem passParsed_ok (h : SpsPasses parses t.sps) :
    passParsed parses (b, t) = .ok PUnit.unit (b, { t with
      frames := t.frames ++ (configFrames t.sps ++ configFrames t.pps) }) := by
  have hextract : extractBitstreamSps parses (b, t) = .ok PUnit.unit (b, t) := by
    unfold extractBitstreamSps
    rw [get_bind]
    rcases h with hshort | hparses
    · rw [if_pos (Or.inr hshort)]
      rfl
    · simp only [hparses]
      split <;> rfl
  unfold passParsed
  rw [bind_of_ok hextract, get_bind, bind_of_ok (encapsulateConfigFrame_eq _ _),
    get_bind, encapsulateConfigFrame_eq, List.append_assoc]

theorem passParsed_error (h : ¬ SpsPasses parses t.sps) :
    passParsed parses (b, t) = .error "cannot parse sps" (b, t) := by
  rcases not_or.mp h with ⟨hlong, hparses⟩
  have hsome : ¬ (t.sps = [] ∨ t.sps.length < 4) := by
    rintro (hnil | hshort)
    · rw [hnil] at hlong
      exact hlong (by decide)
    · exact hlong hshort
  have hextract : extractBitstreamSps parses (b, t) =
      .error "cannot parse sps" (b, t) := by
    unfold extractBitstreamSps
    rw [get_bind, if_neg hsome]
    simp only [Bool.not_eq_true] at hparses
    simp only [hparses]
    rfl
  exact bind_of_error hextract

/-- The sets are in the track before the first one is parsed.  They are passed on
only if that goes well. -/
theorem parseConfig_record (parses : Bytes -> Bool) (hb : b.Valid)
    (h : b.unread = record.encode) (hfollows : record.PpsFollows) :
    exists c, parseConfig parses (b, t) =
      passParsed parses (c, { t with
        sps := record.firstSps
        pps := record.firstPps }) := by
  have hlen : 6 <= b.unreadLength := by
    rw [← hb.unread_length, h, encode_length, AvcRecord.tailOffset]
    omega
  have hdrop : b.unread.drop 6 =
      withLength 2 record.firstSps ++ record.tail := by
    rw [h, encode_drop]
  rcases hfollows with ⟨rest, hrest⟩
  have heq : parseConfig parses = parameterSet 6 (fun sps size => do
      modify fun s => (s.1, { s.2 with sps := sps })
      onFst (FlatBuffer.consumeOrFail size)
      parameterSet 1 fun pps size => do
        modify fun s => (s.1, { s.2 with pps := pps })
        onFst (FlatBuffer.consumeOrFail size)
        passParsed parses) := rfl
  rw [heq]
  rcases parameterSet_unit (t := t) hb (firstSps_sized record) hlen hdrop _ with
    ⟨c, hc, hunread, hread⟩
  rcases store_set (t := t) hc hunread
    (fun t => { t with sps := record.firstSps }) _ with ⟨d, hd, htail, hstore⟩
  have hone : 1 <= d.unreadLength := by
    have hlength := congrArg List.length hrest
    rw [← htail, List.length_drop, hd.unread_length] at hlength
    simp only [withLength, List.length_append, bigEndian_length] at hlength
    omega
  rw [← htail] at hrest
  rcases parameterSet_unit (t := { t with sps := record.firstSps }) hd
    (firstPps_sized record) hone hrest.symm _ with ⟨e, he, hunread', hread'⟩
  rcases store_set (t := { t with sps := record.firstSps }) he hunread'
    (fun t => { t with pps := record.firstPps }) _ with ⟨f, _, _, hstore'⟩
  exact ⟨f, hread.trans (hstore.trans (hread'.trans hstore'))⟩

theorem parseConfig_outcome (parses : Bytes -> Bool) (hb : b.Valid)
    (h : b.unread = record.encode) (hfollows : record.PpsFollows) :
    exists c,
      (SpsPasses parses record.firstSps -> parseConfig parses (b, t) =
        .ok PUnit.unit (c, { t with
          sps := record.firstSps
          pps := record.firstPps
          frames := t.frames ++ (configFrames record.firstSps ++
            configFrames record.firstPps) })) ∧
      (¬ SpsPasses parses record.firstSps -> parseConfig parses (b, t) =
        .error "cannot parse sps" (c, { t with
          sps := record.firstSps
          pps := record.firstPps })) := by
  rcases parseConfig_record (t := t) parses hb h hfollows with ⟨c, hparse⟩
  rw [hparse]
  exact ⟨c, passParsed_ok (t := { t with sps := _, pps := _ }),
    passParsed_error (t := { t with sps := _, pps := _ })⟩

theorem baseline_ppsFollows : baseline.PpsFollows :=
  ppsFollows_of_single rfl

theorem parseConfig_outcome_baseline :
    exists c, parseConfig spsParses (FlatBuffer.ofBytes baseline.encode, {}) =
      .ok PUnit.unit (c, {
        sps := baseline.firstSps
        pps := baseline.firstPps
        frames := [h264Frame 0 0 baseline.firstSps,
          h264Frame 0 0 baseline.firstPps] }) := by
  rcases parseConfig_outcome (t := {}) spsParses (FlatBuffer.ofBytes_valid _)
    (FlatBuffer.ofBytes_unread _) baseline_ppsFollows
    with ⟨c, hpasses, _⟩
  exact ⟨c, hpasses (Or.inr (by decide +kernel))⟩

theorem payload_length {s : SeqParameterSet} (hrun : oddRun 0 s.rbsp = false) :
    3 <= s.payload.length := by
  have hstrip : strip s.payload = s.rbsp := (strip_escape_run s.rbsp 0).mpr hrun
  have hle := strip_length_le s.payload
  rw [hstrip] at hle
  have hbits := congrArg List.length (bitsOf_packBits s.aligned)
  have hprofile : 24 <= s.bits.length := by
    simp only [SeqParameterSet.bits, SeqParameterSet.frontBits,
      SeqParameterSet.profileBits, List.length_append, binary_length, flagBits,
      List.length_singleton]
    omega
  rw [bitsOf_length, List.length_append] at hbits
  change 8 * s.rbsp.length = _ at hbits
  omega

end H264Track

end Codec
end Streaming
