import Streaming.Network.FlatBuffer

/-!
# Audio and video tracks

A track parses the codec configuration out of a buffer that it reads from, and
passes frames on to the muxer.  `muxer::translate_frame` does nothing with them
yet; the frames that it was given are kept in order.
-/

namespace Streaming
namespace Codec

open Foundation Network Util

inductive CodecType where
  | codecInvalid
  | codecH264
  | codecAac
  deriving DecidableEq, Repr

structure Frame where
  codecId : CodecType
  dts : Nat := 0
  pts : Nat := 0
  prefixSize : Nat := 0
  data : FlatBuffer
  deriving DecidableEq, Repr

/-- A member function of a track that reads from a buffer. -/
abbrev Parse (track : Type) := EStateM String (FlatBuffer × track)

/-- `buf.data()` as a string of the given size. -/
def peekBytes {track : Type} (len : Nat) : Parse track Bytes := fun s =>
  .ok (s.1.data.take len) s

def unreadLength {track : Type} : Parse track Nat := fun s =>
  .ok s.1.unreadLength s

/-!
## AAC
-/

def samplingFrequencyTable : List Nat :=
  [96000, 88200, 64000, 48000, 44100, 32000, 24000, 22050, 16000, 12000, 11025,
    8000, 7350, 0, 0, 0]

def kAdtsHeaderLength : Nat := 7

/-- The fields are `unsigned int`. -/
structure AdtsHeader where
  syncword : Nat
  id : Nat
  layer : Nat
  protectionAbsent : Nat
  profile : Nat
  samplingFrequencyIndex : Nat
  privateBit : Nat
  channelConfiguration : Nat
  originality : Nat
  home : Nat
  copyrightIdentificationBit : Nat
  copyrightIdentificationStart : Nat
  aacFrameLength : Nat
  adtsBufferFullness : Nat
  noRawDataBlocksInFrame : Nat
  deriving DecidableEq, Repr

structure AacTrack where
  bitRate : Nat := 0
  cfg : Bytes := []
  channel : Nat := 0
  sampleRate : Nat := 0
  frames : List Frame := []
  deriving DecidableEq, Repr

namespace AacTrack

def inputFrame (fr : Frame) : Parse AacTrack PUnit :=
  modify fun s => (s.1, { s.2 with frames := s.2.frames ++ [fr] })

def sampleIndex (cfg1 cfg2 : Nat) : Nat :=
  ((cfg1 &&& 0b00000111) <<< 1) ||| (cfg2 >>> 7)

def parseConfig : Parse AacTrack PUnit := do
  onFst (FlatBuffer.requireLengthOrFail 2)
  let cfg <- peekBytes (<- unreadLength)
  modify fun s => (s.1, { s.2 with cfg := cfg })
  let cfg1 := byteAt cfg 0
  let cfg2 := byteAt cfg 1
  let sampleIndex := sampleIndex cfg1 cfg2
  if sampleIndex >= samplingFrequencyTable.length then
    throw s!"aac sample index {sampleIndex} is out of range"
  modify fun s => (s.1, { s.2 with
    sampleRate := samplingFrequencyTable.getD sampleIndex 0
    channel := (cfg2 &&& 0b01111000) >>> 3 })

def extractAacConfig : Parse AacTrack AdtsHeader := do
  let cfg := (<- get).2.cfg
  if cfg = [] ∨ cfg.length < 2 then
    throw "aac config is not valid"
  let cfg1 := byteAt cfg 0
  let cfg2 := byteAt cfg 1
  let audioObjectType := cfg1 >>> 3
  return {
    syncword := 0x0FFF
    id := 0
    layer := 0
    protectionAbsent := 1
    -- object type 0 wraps around
    profile := (audioObjectType + 2 ^ 32 - 1) % 2 ^ 32
    samplingFrequencyIndex := sampleIndex cfg1 cfg2
    privateBit := 0
    channelConfiguration := (cfg2 &&& 0b01111000) >>> 3
    originality := 0
    home := 0
    copyrightIdentificationBit := 0
    copyrightIdentificationStart := 0
    aacFrameLength := 7
    adtsBufferFullness := 0b11111111111
    noRawDataBlocksInFrame := 0 }

def dumpAdtsHeader (header : AdtsHeader) : Bytes :=
  [UInt8.ofNat ((header.syncword >>> 4) &&& 0xFF),
    UInt8.ofNat (((header.syncword <<< 4) &&& 0xF0) |||
      ((header.id <<< 3) &&& 0b1000) |||
      ((header.layer <<< 1) &&& 0b0110) |||
      (header.protectionAbsent &&& 0b0001)),
    UInt8.ofNat (((header.profile <<< 6) &&& 0b11000000) |||
      ((header.samplingFrequencyIndex <<< 2) &&& 0b00111100) |||
      ((header.privateBit <<< 1) &&& 0b0010) |||
      ((header.channelConfiguration >>> 2) &&& 0b0001)),
    UInt8.ofNat (((header.channelConfiguration <<< 6) &&& 0b11000000) |||
      ((header.originality <<< 5) &&& 0b00100000) |||
      ((header.home <<< 4) &&& 0b00010000) |||
      ((header.copyrightIdentificationBit <<< 3) &&& 0b00001000) |||
      ((header.copyrightIdentificationStart <<< 2) &&& 0b00000100) |||
      ((header.aacFrameLength >>> 11) &&& 0b00000011)),
    UInt8.ofNat ((header.aacFrameLength >>> 3) &&& 0xFF),
    UInt8.ofNat (((header.aacFrameLength <<< 5) &&& 0b11100000) |||
      ((header.adtsBufferFullness >>> 6) &&& 0b00011111)),
    UInt8.ofNat (((header.adtsBufferFullness <<< 2) &&& 0b11111100) |||
      (header.noRawDataBlocksInFrame &&& 0b00000011))]

end AacTrack

/-!
## H.264
-/

def kH264HeaderPrefix : Bytes := [0x00, 0x00, 0x00, 0x01]

structure H264Track where
  bitRate : Nat := 0
  sps : Bytes := []
  pps : Bytes := []
  frames : List Frame := []
  deriving DecidableEq, Repr

/-- An H.264 frame behind the four-byte start code. -/
def h264Frame (dts pts : Nat) (nal : Bytes) : Frame where
  codecId := .codecH264
  dts := dts
  pts := pts
  prefixSize := 4
  data := ((FlatBuffer.create (kH264HeaderPrefix.length + nal.length)).write
    kH264HeaderPrefix).write nal

namespace H264Track

def inputFrame (fr : Frame) : Parse H264Track PUnit :=
  modify fun s => (s.1, { s.2 with frames := s.2.frames ++ [fr] })

/--
`extract_bitstream_sps`.  The parameter says for which parameter sets, less
their first byte, `h264DecSeqParameterSet` returns 0.  The width, the height
and the frame rate that it finds are not kept.
-/
def extractBitstreamSps (h264DecSeqParameterSet : Bytes -> Bool) :
    Parse H264Track PUnit := do
  let sps := (<- get).2.sps
  if sps = [] ∨ sps.length < 4 then
    return
  if !h264DecSeqParameterSet (sps.drop 1) then
    throw "cannot parse sps"

def encapsulateConfigFrame (config : Bytes) : Parse H264Track PUnit :=
  if config = [] then return
  else inputFrame (h264Frame 0 0 config)

def parseConfig (h264DecSeqParameterSet : Bytes -> Bool) :
    Parse H264Track PUnit := do
  onFst (FlatBuffer.consumeOrFail 6)
  let spsSize <- onFst FlatBuffer.readUint16
  onFst (FlatBuffer.requireLengthOrFail spsSize)
  let sps <- peekBytes spsSize
  modify fun s => (s.1, { s.2 with sps := sps })
  onFst (FlatBuffer.consumeOrFail spsSize)
  onFst (FlatBuffer.consumeOrFail 1)
  let ppsSize <- onFst FlatBuffer.readUint16
  onFst (FlatBuffer.requireLengthOrFail ppsSize)
  let pps <- peekBytes ppsSize
  modify fun s => (s.1, { s.2 with pps := pps })
  onFst (FlatBuffer.consumeOrFail ppsSize)
  extractBitstreamSps h264DecSeqParameterSet
  encapsulateConfigFrame (<- get).2.sps
  encapsulateConfigFrame (<- get).2.pps

end H264Track

/-!
## What parsing leaves alone

Whatever a track does, it moves only the read index of the buffer.
-/

/-- The buffer has only been read. -/
def BufferRead {track : Type} (s s' : FlatBuffer × track) : Prop :=
  s.1.OnlyRead s'.1

section Frames

variable {track : Type}

instance : Std.Refl (@BufferRead track) where
  refl s := Std.Refl.refl s.1

instance : IsTrans (FlatBuffer × track) BufferRead where
  trans s t u h h' := IsTrans.trans s.1 t.1 u.1 h h'

theorem peekBytes_bufferRead (len : Nat) :
    Keeps BufferRead (peekBytes len : Parse track Bytes) := by
  intro s a s' h
  cases h
  exact Std.Refl.refl s

theorem unreadLength_bufferRead :
    Keeps BufferRead (unreadLength : Parse track Nat) := by
  intro s a s' h
  cases h
  exact Std.Refl.refl s

theorem modifyTrack_bufferRead (f : FlatBuffer × track -> track) :
    Keeps BufferRead (modify fun s => (s.1, f s) : Parse track PUnit) :=
  Keeps.update fun s => Std.Refl.refl s.1

theorem AacTrack.parseConfig_bufferRead : Keeps BufferRead parseConfig := by
  unfold parseConfig
  refine (FlatBuffer.requireLengthOrFail_onlyRead 2).onFst.bind fun _ => ?_
  refine unreadLength_bufferRead.bind fun _ => ?_
  refine (peekBytes_bufferRead _).bind fun _ => ?_
  refine (modifyTrack_bufferRead _).bind fun _ => ?_
  apply Keeps.ite
  · exact (Keeps.throw _).bind fun _ => modifyTrack_bufferRead _
  · exact modifyTrack_bufferRead _

theorem AacTrack.extractAacConfig_bufferRead :
    Keeps BufferRead extractAacConfig := by
  unfold extractAacConfig
  refine Keeps.get.bind fun s => ?_
  apply Keeps.ite
  · exact (Keeps.throw _).bind fun _ => Keeps.pure _
  · exact Keeps.pure _

namespace H264Track

theorem extractBitstreamSps_bufferRead
    (h264DecSeqParameterSet : Bytes -> Bool) :
    Keeps BufferRead (extractBitstreamSps h264DecSeqParameterSet) := by
  unfold extractBitstreamSps
  refine Keeps.get.bind fun s => ?_
  apply Keeps.ite
  · exact Keeps.pure _
  · apply Keeps.ite
    · exact Keeps.throw _
    · exact Keeps.pure _

theorem encapsulateConfigFrame_bufferRead (config : Bytes) :
    Keeps BufferRead (encapsulateConfigFrame config) := by
  unfold encapsulateConfigFrame
  apply Keeps.ite
  · exact Keeps.pure _
  · exact modifyTrack_bufferRead _

theorem parseConfig_bufferRead (h264DecSeqParameterSet : Bytes -> Bool) :
    Keeps BufferRead (parseConfig h264DecSeqParameterSet) := by
  unfold parseConfig
  refine (FlatBuffer.consumeOrFail_onlyRead 6).onFst.bind fun _ => ?_
  refine FlatBuffer.readUint16_onlyRead.onFst.bind fun spsSize => ?_
  refine (FlatBuffer.requireLengthOrFail_onlyRead spsSize).onFst.bind fun _ => ?_
  refine (peekBytes_bufferRead spsSize).bind fun sps => ?_
  refine (modifyTrack_bufferRead _).bind fun _ => ?_
  refine (FlatBuffer.consumeOrFail_onlyRead spsSize).onFst.bind fun _ => ?_
  refine (FlatBuffer.consumeOrFail_onlyRead 1).onFst.bind fun _ => ?_
  refine FlatBuffer.readUint16_onlyRead.onFst.bind fun ppsSize => ?_
  refine (FlatBuffer.requireLengthOrFail_onlyRead ppsSize).onFst.bind fun _ => ?_
  refine (peekBytes_bufferRead ppsSize).bind fun pps => ?_
  refine (modifyTrack_bufferRead _).bind fun _ => ?_
  refine (FlatBuffer.consumeOrFail_onlyRead ppsSize).onFst.bind fun _ => ?_
  refine (extractBitstreamSps_bufferRead h264DecSeqParameterSet).bind fun _ => ?_
  refine Keeps.get.bind fun s => ?_
  refine (encapsulateConfigFrame_bufferRead _).bind fun _ => ?_
  exact Keeps.get.bind fun s => encapsulateConfigFrame_bufferRead _

end H264Track

end Frames

end Codec
end Streaming
