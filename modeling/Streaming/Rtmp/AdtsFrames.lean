import Streaming.Codec.Adts
import Streaming.Rtmp.Demuxer

/-!
# AAC frames

A raw AAC packet is sent on behind an ADTS header, which is made of the last
configuration.  Values that are too large for the header are not refused.
-/

namespace Streaming
namespace Rtmp

open Codec Foundation Network Util

/-- The frame is the payload behind a header that says what it is. -/
structure RightFrame (config : AudioSpecificConfig) (payload frame : Bytes) :
    Prop where
  length : frame.length = kAdtsHeaderLength + payload.length
  payload : frame.drop kAdtsHeaderLength = payload
  syncword : (AdtsHeader.decode frame).syncword = 0xFFF
  protectionAbsent : (AdtsHeader.decode frame).protectionAbsent = 1
  profile :
    ((AdtsHeader.decode frame).profile : Int) = config.audioObjectType - 1
  samplingFrequencyIndex : (AdtsHeader.decode frame).samplingFrequencyIndex =
    config.samplingFrequencyIndex
  channelConfiguration : (AdtsHeader.decode frame).channelConfiguration =
    config.channelConfiguration
  aacFrameLength : (AdtsHeader.decode frame).aacFrameLength = frame.length

/-- The configuration and the length of the payload fit into a header.  With an
explicit frequency, its upper bits are where the channels are looked for. -/
structure FitsAdts (config : AudioSpecificConfig) (payloadLength : Nat) :
    Prop where
  objectType_pos : 1 <= config.audioObjectType
  objectType_le : config.audioObjectType <= 4
  channels_le : config.channelConfiguration <= 7
  explicitFrequency : config.samplingFrequencyIndex = 15 ->
    field config.bytes 9 4 % 8 = config.channelConfiguration
  length_le : kAdtsHeaderLength + payloadLength <= 8191

/-- A track whose configuration is one that `parse_config` has accepted. -/
def Configured (config : AudioSpecificConfig) (t : AacTrack) : Prop :=
  exists b before b' after, b.Valid ∧ b.unread = config.bytes ∧
    AacTrack.parseConfig (b, before) = .ok PUnit.unit (b', after) ∧
    t.cfg = after.cfg

/-!
## What the track does
-/

/-- The whole buffer is kept, whatever the index of the frequency. -/
theorem parseConfig_cfg {s s' : FlatBuffer × AacTrack}
    (h : AacTrack.parseConfig s = .ok PUnit.unit s') : s'.2.cfg = s.1.unread := by
  rcases bind_eq_ok h with ⟨_, t, hrequire, h⟩
  rcases bind_eq_ok h with ⟨len, t', hlen, h⟩
  rcases bind_eq_ok h with ⟨cfg, u, hpeek, h⟩
  rcases bind_eq_ok h with ⟨_, v, hset, h⟩
  have hsame := (FlatBuffer.requireLengthOrFail_ok (onFst_ok hrequire).1).1
  cases hlen
  cases hpeek
  cases hset
  simp only at h
  split at h
  · cases h
  · cases h
    simp only [hsame]
    rfl

theorem configured_cfg {config : AudioSpecificConfig} {t : AacTrack}
    (h : Configured config t) : t.cfg = config.bytes := by
  rcases h with ⟨b, before, b', after, hb, hbytes, hparse, hcfg⟩
  rw [hcfg, ← hbytes]
  exact parseConfig_cfg hparse

/-- The header that `extract_aac_config` returns. -/
def configHeader (cfg : Bytes) : AdtsHeader where
  syncword := 0x0FFF
  id := 0
  layer := 0
  protectionAbsent := 1
  profile := (byteAt cfg 0 >>> 3 + 2 ^ 32 - 1) % 2 ^ 32
  samplingFrequencyIndex := AacTrack.sampleIndex (byteAt cfg 0) (byteAt cfg 1)
  privateBit := 0
  channelConfiguration := (byteAt cfg 1 &&& 0b01111000) >>> 3
  originality := 0
  home := 0
  copyrightIdentificationBit := 0
  copyrightIdentificationStart := 0
  aacFrameLength := 7
  adtsBufferFullness := 0b11111111111
  noRawDataBlocksInFrame := 0

theorem extractAacConfig_ok {s s' : FlatBuffer × AacTrack} {h : AdtsHeader}
    (hextract : AacTrack.extractAacConfig s = .ok h s') :
    h = configHeader s.2.cfg ∧ s' = s := by
  rcases bind_eq_ok hextract with ⟨_, t, hget, hextract⟩
  cases hget
  simp only at hextract
  split at hextract
  · cases hextract
  · cases hextract
    exact ⟨rfl, rfl⟩

def frameHeader (cfg : Bytes) (payloadLength : Nat) : AdtsHeader :=
  { configHeader cfg with
    aacFrameLength := (payloadLength + kAdtsHeaderLength) % 2 ^ 32 }

theorem isConfigFrame_eq {track : Type} {pkt : RtmpPacket} {isConfig : Bool}
    (h : pkt.isConfigFrame = .ok isConfig) (t : track) :
    isConfigFrame pkt (pkt.buf, t) = .ok isConfig (pkt.buf, t) := by
  have hpkt : { pkt with buf := pkt.buf } = pkt := rfl
  unfold isConfigFrame
  rw [hpkt, h]

/-- A packet that is accepted becomes one frame. -/
theorem aacInputRtmp_raw {pkt : RtmpPacket} {t : AacTrack}
    {s : FlatBuffer × Option AacTrack} (hb : pkt.buf.Valid)
    (hraw : pkt.isConfigFrame = .ok false)
    (h : aacInputRtmp pkt (pkt.buf, some t) = .ok PUnit.unit s) :
    s.2 = some { t with
      frames := t.frames ++ [aacFrame pkt.timeStamp
        (AacTrack.dumpAdtsHeader
          (frameHeader t.cfg (pkt.buf.unread.drop 2).length))
        (pkt.buf.unread.drop 2)] } := by
  rcases bind_eq_ok h with ⟨_, ⟨b₁, t₁⟩, hrequire, h⟩
  rcases onFst_ok (throwing_ok hrequire) with ⟨hfirst, htrack⟩
  rcases FlatBuffer.requireLengthOrFail_ok hfirst with ⟨hbuf, _⟩
  cases hbuf
  cases htrack
  rcases bind_eq_ok h with ⟨_, _, hcheck, h⟩
  cases hcheck
  rw [bind_of_ok (throwing_of_ok (isConfigFrame_eq hraw (some t)))] at h
  rcases bind_eq_ok h with ⟨_, ⟨b₂, t₂⟩, hconsume, h⟩
  rcases onFst_ok (throwing_ok hconsume) with ⟨hskip, htrack⟩
  rcases FlatBuffer.consumeOrFail_ok hskip with ⟨hrest, hlen⟩
  cases hrest
  cases htrack
  rcases bind_eq_ok h with ⟨header, s₃, hextract, h⟩
  rcases onTrack_ok hextract with ⟨b₃, t₃, hparsed, rfl⟩
  rcases extractAacConfig_ok hparsed with ⟨rfl, hsame⟩
  cases hsame
  have hpayload := FlatBuffer.safeConsume_unread hlen
  have hlength := (FlatBuffer.safeConsume_valid hb 2).unread_length
  rw [← hpayload, hlength]
  cases h
  rfl

theorem aacFrame_unread (dts : Nat) (adtsRaw payload : Bytes) :
    (aacFrame dts adtsRaw payload).data.unread = adtsRaw ++ payload := by
  have hb := FlatBuffer.create_valid (adtsRaw.length + payload.length)
  unfold aacFrame
  rw [FlatBuffer.write_unread (FlatBuffer.write_valid hb adtsRaw),
    FlatBuffer.write_unread hb, FlatBuffer.create_unread, List.nil_append]

/-!
## What the header says
-/

theorem decode_frameHeader (cfg payload : Bytes) :
    let header := AdtsHeader.decode
      (AacTrack.dumpAdtsHeader (frameHeader cfg payload.length) ++ payload)
    header.syncword = 0xFFF ∧ header.protectionAbsent = 1 ∧
      header.profile = (field cfg 0 5 + 2 ^ 32 - 1) % 2 ^ 32 % 4 ∧
      header.samplingFrequencyIndex = field cfg 5 4 ∧
      header.channelConfiguration = field cfg 9 4 % 8 ∧
      header.aacFrameLength = (payload.length + 7) % 2 ^ 13 := by
  have hindex : field cfg 5 4 % 2 ^ 4 = field cfg 5 4 :=
    Nat.mod_eq_of_lt (field_lt cfg 5 4)
  have hlength : (payload.length + 7) % 2 ^ 32 % 2 ^ 13 =
      (payload.length + 7) % 2 ^ 13 :=
    Nat.mod_mod_of_dvd _ (Nat.pow_dvd_pow 2 (by decide))
  simp only [AdtsHeader.decode_dump, frameHeader, configHeader,
    kAdtsHeaderLength, cfg_objectType, cfg_sampleIndex, cfg_channel]
  exact ⟨rfl, rfl, rfl, hindex, rfl, hlength⟩

/-- One less than the object type, where two bits are enough for that. -/
theorem profile_iff (config : AudioSpecificConfig) :
    (((field config.bytes 0 5 + 2 ^ 32 - 1) % 2 ^ 32 % 4 : Nat) : Int) =
        config.audioObjectType - 1 <->
      1 <= config.audioObjectType ∧ config.audioObjectType <= 4 := by
  have hlt := field_lt config.bytes 0 5
  unfold AudioSpecificConfig.audioObjectType
  split <;> omega

/-- The types that fit are not in the bits behind the first five. -/
theorem samplingOffset_eq {config : AudioSpecificConfig}
    (h : config.audioObjectType <= 4) : config.samplingOffset = 5 := by
  unfold AudioSpecificConfig.audioObjectType at h
  unfold AudioSpecificConfig.samplingOffset
  split at h
  · omega
  · rename_i hshort
    exact if_neg hshort

theorem channel_iff {config : AudioSpecificConfig}
    (h : config.audioObjectType <= 4) :
    field config.bytes 9 4 % 8 = config.channelConfiguration <->
      config.channelConfiguration <= 7 ∧
        (config.samplingFrequencyIndex = 15 ->
          field config.bytes 9 4 % 8 = config.channelConfiguration) := by
  constructor
  · intro heq
    exact ⟨by omega, fun _ => heq⟩
  · rintro ⟨hle, hexplicit⟩
    by_cases hindex : config.samplingFrequencyIndex = 15
    · exact hexplicit hindex
    · have hnear : config.channelConfiguration = field config.bytes 9 4 := by
        unfold AudioSpecificConfig.channelConfiguration
        rw [if_neg hindex, samplingOffset_eq h]
      rw [← hnear]
      exact Nat.mod_eq_of_lt (Nat.lt_succ_of_le hle)

theorem rightFrame_iff (config : AudioSpecificConfig) (payload : Bytes) :
    RightFrame config payload
        (AacTrack.dumpAdtsHeader (frameHeader config.bytes payload.length) ++
          payload) <->
      FitsAdts config payload.length := by
  rcases decode_frameHeader config.bytes payload with
    ⟨hsync, habsent, hprofile, hindex, hchannel, hlength⟩
  have htotal : (AacTrack.dumpAdtsHeader (frameHeader config.bytes
      payload.length) ++ payload).length = kAdtsHeaderLength + payload.length := by
    rw [List.length_append, AdtsHeader.dumpAdtsHeader_length]
  constructor
  · rintro ⟨_, _, _, _, hp, _, hc, hl⟩
    rw [hprofile] at hp
    rw [hchannel] at hc
    rw [hlength, htotal] at hl
    rcases (profile_iff config).mp hp with ⟨hpos, hle⟩
    rcases (channel_iff hle).mp hc with ⟨hchannels, hexplicit⟩
    refine ⟨hpos, hle, hchannels, hexplicit, ?_⟩
    have hlt := Nat.mod_lt (payload.length + 7) (Nat.two_pow_pos 13)
    omega
  · rintro ⟨hpos, hle, hchannels, hexplicit, hshort⟩
    refine ⟨htotal, List.drop_left' rfl, hsync, habsent, ?_, ?_, ?_, ?_⟩
    · rw [hprofile]
      exact (profile_iff config).mpr ⟨hpos, hle⟩
    · rw [hindex]
      unfold AudioSpecificConfig.samplingFrequencyIndex
      rw [samplingOffset_eq hle]
    · rw [hchannel]
      exact (channel_iff hle).mpr ⟨hchannels, hexplicit⟩
    · have hsize : kAdtsHeaderLength = 7 := rfl
      rw [hlength, htotal, hsize, Nat.add_comm]
      exact Nat.mod_eq_of_lt (by omega)

/-- There is one new frame, the payload behind its header. -/
theorem emits_iff {pkt : RtmpPacket} {t : AacTrack}
    {s : FlatBuffer × Option AacTrack} (hb : pkt.buf.Valid)
    (hraw : pkt.isConfigFrame = .ok false)
    (h : aacInputRtmp pkt (pkt.buf, some t) = .ok PUnit.unit s)
    (good : Bytes -> Prop) :
    (exists t' fr, s.2 = some t' ∧ t'.frames = t.frames ++ [fr] ∧
      good fr.data.unread) <->
      good (AacTrack.dumpAdtsHeader
        (frameHeader t.cfg (pkt.buf.unread.drop 2).length) ++
          pkt.buf.unread.drop 2) := by
  have htrack := aacInputRtmp_raw hb hraw h
  rw [← aacFrame_unread pkt.timeStamp]
  constructor
  · rintro ⟨t', fr, ht', hfr, hgood⟩
    cases htrack.symm.trans ht'
    rw [List.append_cancel_left_eq, List.singleton_inj] at hfr
    rw [hfr]
    exact hgood
  · intro hgood
    exact ⟨_, _, htrack, rfl, hgood⟩

/-- A raw packet becomes a right frame if the configuration and the length fit
into the header, and only then. -/
theorem emits_rightFrame_iff {config : AudioSpecificConfig} {t : AacTrack}
    {pkt : RtmpPacket} {s : FlatBuffer × Option AacTrack}
    (hconfig : Configured config t) (hb : pkt.buf.Valid)
    (hraw : pkt.isConfigFrame = .ok false)
    (h : aacInputRtmp pkt (pkt.buf, some t) = .ok PUnit.unit s) :
    (exists t' fr, s.2 = some t' ∧ t'.frames = t.frames ++ [fr] ∧
      RightFrame config (pkt.buf.unread.drop 2) fr.data.unread) <->
        FitsAdts config (pkt.buf.unread.drop 2).length := by
  rw [emits_iff hb hraw h, configured_cfg hconfig]
  exact rightFrame_iff config _

/-!
## Two configurations
-/

/-- The track behind `parse_config`. -/
def trackOf (config : AudioSpecificConfig) : AacTrack :=
  (resultState (AacTrack.parseConfig (FlatBuffer.ofBytes config.bytes, {}))).2

/-- Three bytes of AAC. -/
def rawPacket : RtmpPacket where
  chunkStreamId := 4
  msgStreamId := 1
  msgLength := 5
  msgTypeId := msgAudio
  tsDelta := 0
  timeStamp := 0
  isAbsStamp := true
  buf := FlatBuffer.ofBytes [0xAF, 0x01, 0x21, 0x00, 0x49]
  pktHeaderLength := 0

/-- AAC-LC at 44100 Hz with two channels. -/
def lowComplexity : AudioSpecificConfig := ⟨[0x12, 0x10]⟩

theorem emits_rightFrame_iff_lowComplexity :
    (exists t' fr,
      (resultState (aacInputRtmp rawPacket
        (rawPacket.buf, some (trackOf lowComplexity)))).2 = some t' ∧
      t'.frames = (trackOf lowComplexity).frames ++ [fr] ∧
      RightFrame lowComplexity (rawPacket.buf.unread.drop 2)
        fr.data.unread) <->
        FitsAdts lowComplexity (rawPacket.buf.unread.drop 2).length :=
  emits_rightFrame_iff
    ⟨FlatBuffer.ofBytes lowComplexity.bytes, {}, _, trackOf lowComplexity,
      FlatBuffer.ofBytes_valid _, FlatBuffer.ofBytes_unread _, rfl, rfl⟩
    (FlatBuffer.ofBytes_valid _) rfl rfl

/-- HE-AAC, whose object type is 5. -/
def highEfficiency : AudioSpecificConfig := ⟨[0x2B, 0x92, 0x08, 0x00]⟩

theorem not_rightFrame_highEfficiency :
    exists t s, Configured highEfficiency t ∧
      aacInputRtmp rawPacket (rawPacket.buf, some t) = .ok PUnit.unit s ∧
      ¬ exists t' fr, s.2 = some t' ∧ t'.frames = t.frames ++ [fr] ∧
        RightFrame highEfficiency (rawPacket.buf.unread.drop 2)
          fr.data.unread := by
  have hconfig : Configured highEfficiency (trackOf highEfficiency) :=
    ⟨FlatBuffer.ofBytes highEfficiency.bytes, {}, _, trackOf highEfficiency,
      FlatBuffer.ofBytes_valid _, FlatBuffer.ofBytes_unread _, rfl, rfl⟩
  have hrun : aacInputRtmp rawPacket
      (rawPacket.buf, some (trackOf highEfficiency)) =
        .ok PUnit.unit (resultState (aacInputRtmp rawPacket
          (rawPacket.buf, some (trackOf highEfficiency)))) := rfl
  refine ⟨trackOf highEfficiency, _, hconfig, hrun, ?_⟩
  rw [emits_iff (FlatBuffer.ofBytes_valid _) rfl hrun, configured_cfg hconfig,
    rightFrame_iff]
  intro hfits
  exact absurd hfits.objectType_le (by decide)

end Rtmp
end Streaming
