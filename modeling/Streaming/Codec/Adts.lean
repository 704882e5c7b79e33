import Mathlib.Tactic.IntervalCases
import Streaming.Codec.Tracks
import Streaming.Foundation.BitField

/-!
# ADTS headers

The 56 bits of a header without a checksum, and those of the configuration that
it is made of.  A value that is too large for its field loses its upper bits.
-/

namespace Streaming
namespace Codec

open Foundation Util

/-!
## The configuration
-/

/-- An `AudioSpecificConfig`, by its bits. -/
structure AudioSpecificConfig where
  bytes : Bytes
  deriving DecidableEq, Repr

namespace AudioSpecificConfig

/-- Five bits; 31 stands for a type in the six bits behind them. -/
def audioObjectType (config : AudioSpecificConfig) : Nat :=
  if field config.bytes 0 5 = 31 then 32 + field config.bytes 5 6
  else field config.bytes 0 5

def samplingOffset (config : AudioSpecificConfig) : Nat :=
  if field config.bytes 0 5 = 31 then 11 else 5

def samplingFrequencyIndex (config : AudioSpecificConfig) : Nat :=
  field config.bytes config.samplingOffset 4

/-- Behind the index 15 there are the 24 bits of a frequency. -/
def channelConfiguration (config : AudioSpecificConfig) : Nat :=
  if config.samplingFrequencyIndex = 15 then
    field config.bytes (config.samplingOffset + 28) 4
  else
    field config.bytes (config.samplingOffset + 4) 4

end AudioSpecificConfig

/-- A byte has no bits beyond its eight. -/
theorem byteAt_testBit (data : Bytes) (i : Nat) {j : Nat} (h : 8 <= j) :
    (byteAt data i).testBit j = false := by
  have hle : 2 ^ 8 <= 2 ^ j := Nat.pow_le_pow_right (Nat.succ_pos 1) h
  exact Nat.testBit_lt_two_pow (Nat.lt_of_lt_of_le (byteAt_lt data i) hle)

theorem bitAt_eq (data : Bytes) (i : Nat) :
    bitAt data i = (byteAt data (i / 8)).testBit (7 - i % 8) := rfl

theorem cfg_objectType (cfg : Bytes) :
    byteAt cfg 0 >>> 3 = field cfg 0 5 := by
  have hlt : byteAt cfg 0 >>> 3 < 2 ^ 5 := by
    have hbyte := byteAt_lt cfg 0
    rw [Nat.shiftRight_eq_div_pow]
    omega
  rw [field_eq_mod (x := byteAt cfg 0 >>> 3), Nat.mod_eq_of_lt hlt]
  intro i hi
  interval_cases i <;> simp [bitAt_eq]

theorem cfg_sampleIndex (cfg : Bytes) :
    AacTrack.sampleIndex (byteAt cfg 0) (byteAt cfg 1) = field cfg 5 4 := by
  have hlow : byteAt cfg 0 &&& 0b00000111 < 2 ^ 3 :=
    Nat.and_lt_two_pow _ (by decide)
  have hlt : AacTrack.sampleIndex (byteAt cfg 0) (byteAt cfg 1) < 2 ^ 4 := by
    have hbyte := byteAt_lt cfg 1
    unfold AacTrack.sampleIndex
    apply Nat.or_lt_two_pow
    · rw [Nat.shiftLeft_eq]
      omega
    · rw [Nat.shiftRight_eq_div_pow]
      omega
  rw [field_eq_mod (x := AacTrack.sampleIndex (byteAt cfg 0) (byteAt cfg 1)),
    Nat.mod_eq_of_lt hlt]
  intro i hi
  interval_cases i <;>
    simp +decide [bitAt_eq, AacTrack.sampleIndex, byteAt_testBit]

theorem cfg_channel (cfg : Bytes) :
    (byteAt cfg 1 &&& 0b01111000) >>> 3 = field cfg 9 4 := by
  have hlt : (byteAt cfg 1 &&& 0b01111000) >>> 3 < 2 ^ 4 := by
    have hbyte : byteAt cfg 1 &&& 0b01111000 < 2 ^ 7 :=
      Nat.and_lt_two_pow _ (by decide)
    rw [Nat.shiftRight_eq_div_pow]
    omega
  rw [field_eq_mod (x := (byteAt cfg 1 &&& 0b01111000) >>> 3),
    Nat.mod_eq_of_lt hlt]
  intro i hi
  interval_cases i <;> simp +decide [bitAt_eq]

/-!
## The layout of the header
-/

/-- A value and the place for its bits. -/
structure PackedField where
  offset : Nat
  width : Nat
  value : Nat

namespace AdtsHeader

/-- The fields in their order, with the widths that the standard gives them. -/
def layout (h : AdtsHeader) : List PackedField :=
  [⟨0, 12, h.syncword⟩, ⟨12, 1, h.id⟩, ⟨13, 2, h.layer⟩,
    ⟨15, 1, h.protectionAbsent⟩, ⟨16, 2, h.profile⟩,
    ⟨18, 4, h.samplingFrequencyIndex⟩, ⟨22, 1, h.privateBit⟩,
    ⟨23, 3, h.channelConfiguration⟩, ⟨26, 1, h.originality⟩, ⟨27, 1, h.home⟩,
    ⟨28, 1, h.copyrightIdentificationBit⟩,
    ⟨29, 1, h.copyrightIdentificationStart⟩, ⟨30, 13, h.aacFrameLength⟩,
    ⟨43, 11, h.adtsBufferFullness⟩, ⟨54, 2, h.noRawDataBlocksInFrame⟩]

/-- The header that a frame begins with. -/
def decode (bytes : Bytes) : AdtsHeader where
  syncword := field bytes 0 12
  id := field bytes 12 1
  layer := field bytes 13 2
  protectionAbsent := field bytes 15 1
  profile := field bytes 16 2
  samplingFrequencyIndex := field bytes 18 4
  privateBit := field bytes 22 1
  channelConfiguration := field bytes 23 3
  originality := field bytes 26 1
  home := field bytes 27 1
  copyrightIdentificationBit := field bytes 28 1
  copyrightIdentificationStart := field bytes 29 1
  aacFrameLength := field bytes 30 13
  adtsBufferFullness := field bytes 43 11
  noRawDataBlocksInFrame := field bytes 54 2

/-- Every field is where the standard has it, cut to its width. -/
theorem field_dump (h : AdtsHeader) {f : PackedField} (hf : f ∈ h.layout) :
    field (AacTrack.dumpAdtsHeader h) f.offset f.width =
      f.value % 2 ^ f.width := by
  simp only [layout, List.mem_cons, List.not_mem_nil, or_false] at hf
  apply field_eq_mod
  rcases hf with rfl | rfl | rfl | rfl | rfl | rfl | rfl | rfl | rfl | rfl |
    rfl | rfl | rfl | rfl | rfl
  all_goals
    intro i hi
    -- One bit at a time: first to the field that it is from, then the masks.
    interval_cases i <;>
      simp only [bitAt, AacTrack.dumpAdtsHeader, Nat.reduceAdd, Nat.reduceDiv,
        Nat.reduceMod, Nat.reduceSub, List.getD_cons_succ, List.getD_cons_zero,
        UInt8.toNat_ofNat', Nat.testBit_mod_two_pow, Nat.testBit_or,
        Nat.testBit_and, Nat.testBit_shiftLeft, Nat.testBit_shiftRight] <;>
      simp [Nat.testBit]

theorem dumpAdtsHeader_length (h : AdtsHeader) :
    (AacTrack.dumpAdtsHeader h).length = kAdtsHeaderLength := rfl

/-- The same where the payload follows. -/
theorem field_dump_append (h : AdtsHeader) (payload : Bytes) {f : PackedField}
    (hf : f ∈ h.layout) :
    field (AacTrack.dumpAdtsHeader h ++ payload) f.offset f.width =
      f.value % 2 ^ f.width := by
  have hfits : forall f, f ∈ h.layout -> f.offset + f.width <= 56 := by
    simp [layout]
  rw [field_append payload (hfits f hf)]
  exact field_dump h hf

/-- Reading a header back gives its values, each cut to its width. -/
theorem decode_dump (h : AdtsHeader) (payload : Bytes) :
    decode (AacTrack.dumpAdtsHeader h ++ payload) =
      { syncword := h.syncword % 2 ^ 12
        id := h.id % 2 ^ 1
        layer := h.layer % 2 ^ 2
        protectionAbsent := h.protectionAbsent % 2 ^ 1
        profile := h.profile % 2 ^ 2
        samplingFrequencyIndex := h.samplingFrequencyIndex % 2 ^ 4
        privateBit := h.privateBit % 2 ^ 1
        channelConfiguration := h.channelConfiguration % 2 ^ 3
        originality := h.originality % 2 ^ 1
        home := h.home % 2 ^ 1
        copyrightIdentificationBit := h.copyrightIdentificationBit % 2 ^ 1
        copyrightIdentificationStart := h.copyrightIdentificationStart % 2 ^ 1
        aacFrameLength := h.aacFrameLength % 2 ^ 13
        adtsBufferFullness := h.adtsBufferFullness % 2 ^ 11
        noRawDataBlocksInFrame := h.noRawDataBlocksInFrame % 2 ^ 2 } := by
  have hfields : forall f, f ∈ h.layout ->
      field (AacTrack.dumpAdtsHeader h ++ payload) f.offset f.width =
        f.value % 2 ^ f.width := fun f hf => field_dump_append h payload hf
  simp only [layout, List.forall_mem_cons] at hfields
  unfold decode
  simp only [hfields]

end AdtsHeader

end Codec
end Streaming
