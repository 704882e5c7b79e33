import Streaming.Codec.Tracks
import Streaming.Foundation.Fault
import Streaming.Rtmp.Amf
import Streaming.Rtmp.Packet

/-!
# The RTMP demuxer

The demuxer hands audio and video messages to a decoder, which consumes the
packet's buffer while it looks for codec configurations and frames.  A snapshot
of the buffer is taken before and restored after.
-/

namespace Streaming
namespace Rtmp

open Codec Foundation Network Util

/-!
## Pointers
-/

/-- The pointers of a connection and of its source that may be null, or whose
object may be gone, where they are followed. -/
inductive BadPointer where
  | mediaInfo
  | rtmpSource
  | metaData
  | dispatcher
  | audioRtmpDecoder
  | videoRtmpDecoder
  | audioTrack
  | videoTrack
  deriving DecidableEq, Repr

/-- A member function of a decoder, with the buffer of a packet and what
`get_track` returns. -/
abbrev Decode (track : Type) :=
  EStateM (Fault BadPointer) (FlatBuffer × Option track)

/-- Call a function of the track that the decoder points to. -/
def onTrack {track value : Type} (p : BadPointer) (m : Parse track value) :
    Decode track value := fun s =>
  match s.2 with
  | none => .error (.undefined p) s
  | some t =>
      match m (s.1, t) with
      | .ok a (b, t) => .ok a (b, some t)
      | .error what (b, t) => .error (.exception what) (b, some t)

/-- The check of the track. -/
def requireTrack {track : Type} (what : String) : Decode track PUnit := fun s =>
  if s.2.isNone then .error (.exception what) s else .ok ⟨⟩ s

/-- `pkt->is_config_frame()`, for a packet whose buffer is being parsed. -/
def isConfigFrame {track : Type} (pkt : RtmpPacket) : Parse track Bool :=
  fun s =>
    match { pkt with buf := s.1 }.isConfigFrame with
    | .ok isConfig => .ok isConfig s
    | .error what => .error what s

/-!
## AAC
-/

def aacFrame (dts : Nat) (adtsRaw payload : Bytes) : Frame where
  codecId := .codecAac
  dts := dts
  data := ((FlatBuffer.create (adtsRaw.length + payload.length)).write
    adtsRaw).write payload

/-- `aac_rtmp_decoder::input_rtmp`. -/
def aacInputRtmp (pkt : RtmpPacket) : Decode AacTrack PUnit := do
  throwing (onFst (FlatBuffer.requireLengthOrFail 2))
  requireTrack "The audio track must be attached to the aac_rtmp_decoder prior to processing RTMP"
  if <- throwing (isConfigFrame pkt) then
    throwing (onFst (FlatBuffer.consumeOrFail 2))
    onTrack .audioTrack AacTrack.parseConfig
  else
    throwing (onFst (FlatBuffer.consumeOrFail 2))
    let adtsHead <- onTrack .audioTrack AacTrack.extractAacConfig
    let unread <- throwing unreadLength
    let adtsRaw := AacTrack.dumpAdtsHeader
      { adtsHead with aacFrameLength := (unread + kAdtsHeaderLength) % 2 ^ 32 }
    let payload <- throwing (peekBytes unread)
    onTrack .audioTrack
      (AacTrack.inputFrame (aacFrame pkt.timeStamp adtsRaw payload))

/-!
## H.264
-/

/-- The loop that splits RTMP frames by their length.  A frame that is longer
than what is left ends it. -/
def splitNalLoop (dts pts : Nat) : Nat -> Decode H264Track PUnit
  | 0 => return
  | fuel + 1 => do
      if (<- throwing unreadLength) >= 4 then
        let frameLen <- throwing (onFst FlatBuffer.readUint32)
        if frameLen > (<- throwing unreadLength) then
          return
        else
          let nal <- throwing (peekBytes frameLen)
          throwing (onFst (FlatBuffer.consumeOrFail frameLen))
          -- `track_ptr` has not been checked
          onTrack .videoTrack (H264Track.inputFrame (h264Frame dts pts nal))
          splitNalLoop dts pts fuel
      else
        return

/-- Every round reads four bytes, so the unread length is fuel enough. -/
def splitNalFrame (dts pts : Nat) : Decode H264Track PUnit := do
  splitNalLoop dts pts (<- throwing unreadLength)
  if (<- throwing unreadLength) ≠ 0 then
    throw (.exception "H.264 frames are encoded incorrectly")

/-- The composition time is a signed 24-bit number. -/
def compositionTime (data : Bytes) : Nat :=
  ((loadBe24 data + 0xff800000) % 2 ^ 32) ^^^ 0xff800000

/-- `h264_rtmp_decoder::input_rtmp`. -/
def h264InputRtmp (h264DecSeqParameterSet : Bytes -> Bool)
    (pkt : RtmpPacket) : Decode H264Track PUnit := do
  throwing (onFst (FlatBuffer.requireLengthOrFail 5))
  if <- throwing (isConfigFrame pkt) then
    throwing (onFst (FlatBuffer.consumeOrFail 5))
    requireTrack "The video track must be attached to the h264_rtmp_decoder prior to processing RTMP"
    onTrack .videoTrack (H264Track.parseConfig h264DecSeqParameterSet)
  else
    throwing (onFst (FlatBuffer.consumeOrFail 2))
    let cts := compositionTime (<- throwing (peekBytes 3))
    throwing (onFst (FlatBuffer.consumeOrFail 3))
    splitNalFrame pkt.timeStamp ((pkt.timeStamp + cts) % 2 ^ 32)

/-!
## The demuxer
-/

/-- An `rtmp_codec`, which is a pointer to a track. -/
structure RtmpCodec (track : Type) where
  track : Option track := none
  deriving DecidableEq, Repr

structure RtmpDemuxer where
  /-- The bits of a `double`. -/
  duration : Nat := 0
  audioRtmpDecoder : Option (RtmpCodec AacTrack) := none
  videoRtmpDecoder : Option (RtmpCodec H264Track) := none
  deriving DecidableEq, Repr

namespace RtmpDemuxer

/-- `rtmp_flv_codec_id::h264` and `rtmp_flv_codec_id::aac`. -/
def h264 : Int := 7
def aac : Int := 10

/-- A conversion to `rtmp_flv_codec_id`, which is an `int8_t`. -/
def rtmpFlvCodecId (id : Int) : Int :=
  id.bmod 256

/-- The `uint32_t` that `set_bit_rate` is given. -/
def bitRate (dataRate : Int) : Nat :=
  (dataRate * 1024 % 2 ^ 32).toNat

abbrev Init := EStateM (Fault BadPointer) (Metadata × RtmpDemuxer)

def anyCastDouble : Any -> Init Nat
  | some (.double bits) => return bits
  | _ => throw (.exception "bad any_cast")

def anyCastBool : Any -> Init Bool
  | some (.bool b) => return b
  | _ => throw (.exception "bad any_cast")

def metadataDouble (key : List Char) : Init Nat := do
  anyCastDouble (<- throwing (onFst (Metadata.subscript (ascii key))))

def metadataInt (key : List Char) : Init Int := do
  return doubleToInt (<- metadataDouble key)

/-- `std::make_shared` of a track.  The members `audio_track_` and `video_track_`
point to a track only while its decoder is made. -/
def makeTrack {track : Type} (t : track) : Option track := some t

def initVideoTrack (codecId : Int) (bitRate : Nat) : Init PUnit := do
  if (<- get).2.videoRtmpDecoder.isSome then
    return
  if codecId ≠ h264 then
    throw (.exception "Currently, only the H264 video codec is supported")
  let videoTrack <- deref .videoTrack (makeTrack ({} : H264Track))
  let decoder := { track := some { videoTrack with bitRate := bitRate } }
  modify fun s => (s.1, { s.2 with videoRtmpDecoder := some decoder })

def initAudioTrack (codecId : Int) (bitRate : Nat) : Init PUnit := do
  if (<- get).2.audioRtmpDecoder.isSome then
    return
  if codecId ≠ aac then
    throw (.exception "Currently, only the AAC audio codec is supported")
  let audioTrack <- deref .audioTrack (makeTrack ({} : AacTrack))
  let decoder := { track := some { audioTrack with bitRate := bitRate } }
  modify fun s => (s.1, { s.2 with audioRtmpDecoder := some decoder })

def initTracksWithMetadata : Init PUnit := do
  if (<- get).1 = [] then
    throw (.exception "Cannot initialize tracks with empty metadata")
  let duration <- metadataDouble ['d', 'u', 'r', 'a', 't', 'i', 'o', 'n']
  modify fun s => (s.1, { s.2 with duration := duration })
  let _ <- metadataInt
    ['a', 'u', 'd', 'i', 'o', 's', 'a', 'm', 'p', 'l', 'e', 'r', 'a', 't', 'e']
  let _ <- metadataInt
    ['a', 'u', 'd', 'i', 'o', 's', 'a', 'm', 'p', 'l', 'e', 's', 'i', 'z', 'e']
  let _ <- anyCastBool
    (<- throwing (onFst (Metadata.subscript
      (ascii ['s', 't', 'e', 'r', 'e', 'o']))))
  let videocodecid <- metadataInt
    ['v', 'i', 'd', 'e', 'o', 'c', 'o', 'd', 'e', 'c', 'i', 'd']
  let audiocodecid <- metadataInt
    ['a', 'u', 'd', 'i', 'o', 'c', 'o', 'd', 'e', 'c', 'i', 'd']
  let audiodatarate <- metadataInt
    ['a', 'u', 'd', 'i', 'o', 'd', 'a', 't', 'a', 'r', 'a', 't', 'e']
  let videodatarate <- metadataInt
    ['v', 'i', 'd', 'e', 'o', 'd', 'a', 't', 'a', 'r', 'a', 't', 'e']
  if videocodecid ≠ 0 then
    initVideoTrack (rtmpFlvCodecId videocodecid) (bitRate videodatarate)
  if audiocodecid ≠ 0 then
    initAudioTrack (rtmpFlvCodecId audiocodecid) (bitRate audiodatarate)

/-- Call `input_rtmp` of the decoder that a member points to. -/
def decodeWith {track : Type} (p : BadPointer)
    (decoder : Option (RtmpCodec track))
    (put : RtmpCodec track -> RtmpDemuxer -> RtmpDemuxer)
    (m : Decode track PUnit) :
    EStateM (Fault BadPointer) (RtmpPacket × RtmpDemuxer) PUnit := fun s =>
  match decoder with
  | none => .error (.undefined p) s
  | some decoder =>
      match m (s.1.buf, decoder.track) with
      | .ok _ (buf, t) =>
          .ok ⟨⟩ ({ s.1 with buf := buf }, put { track := t } s.2)
      | .error e (buf, t) =>
          .error e ({ s.1 with buf := buf }, put { track := t } s.2)

abbrev Input := EStateM (Fault BadPointer) (RtmpPacket × RtmpDemuxer)

def captureSnapshot : Input PUnit :=
  modify fun s => ({ s.1 with buf := s.1.buf.captureSnapshot }, s.2)

def restoreSnapshot : Input PUnit :=
  modify fun s => ({ s.1 with buf := s.1.buf.restoreSnapshot }, s.2)

/-- Parse the packet with the decoder for its type; without one, do nothing. -/
def decode (h264DecSeqParameterSet : Bytes -> Bool) : Input PUnit := fun s =>
  if s.1.msgTypeId = msgVideo ∧ s.2.videoRtmpDecoder.isSome then
    decodeWith .videoRtmpDecoder s.2.videoRtmpDecoder
      (fun decoder demuxer =>
        { demuxer with videoRtmpDecoder := some decoder })
      (h264InputRtmp h264DecSeqParameterSet s.1) s
  else if s.1.msgTypeId = msgAudio ∧ s.2.audioRtmpDecoder.isSome then
    decodeWith .audioRtmpDecoder s.2.audioRtmpDecoder
      (fun decoder demuxer =>
        { demuxer with audioRtmpDecoder := some decoder })
      (aacInputRtmp s.1) s
  else
    .ok ⟨⟩ s

def inputRtmp (h264DecSeqParameterSet : Bytes -> Bool) : Input PUnit := do
  captureSnapshot
  decode h264DecSeqParameterSet
  restoreSnapshot

end RtmpDemuxer

/-!
## What demuxing leaves alone
-/

theorem isConfigFrame_bufferRead {track : Type} (pkt : RtmpPacket) :
    Keeps BufferRead (isConfigFrame pkt : Parse track Bool) := by
  intro s isConfig s' h
  unfold isConfigFrame at h
  split at h
  · cases h
    exact Std.Refl.refl s
  · cases h

theorem requireTrack_bufferRead {track : Type} (what : String) :
    Keeps BufferRead (requireTrack what : Decode track PUnit) := by
  intro s u s' h
  unfold requireTrack at h
  split at h
  · cases h
  · cases h
    exact Std.Refl.refl s

theorem onTrack_bufferRead {track value : Type} {m : Parse track value}
    (p : BadPointer) (hm : Keeps BufferRead m) :
    Keeps BufferRead (onTrack p m) := by
  intro s a s' h
  unfold onTrack at h
  split at h
  · cases h
  · split at h
    · rename_i hresult
      cases h
      exact hm _ _ _ hresult
    · cases h

theorem onTrack_ok {track value : Type} {p : BadPointer}
    {m : Parse track value} {b : FlatBuffer} {t : track}
    {s : FlatBuffer × Option track} {a : value}
    (h : onTrack p m (b, some t) = .ok a s) :
    exists b' t', m (b, t) = .ok a (b', t') ∧ s = (b', some t') := by
  unfold onTrack at h
  simp only at h
  split at h
  · rename_i b' t' hresult
    cases h
    exact ⟨b', t', hresult, rfl⟩
  · cases h

/-- Each function of the packet's buffer only reads. -/
theorem onBuffer_bufferRead {track value : Type}
    {m : EStateM String FlatBuffer value}
    (hm : Keeps FlatBuffer.OnlyRead m) :
    Keeps BufferRead (throwing (onFst m) : Decode track value) :=
  hm.onFst.throwing

theorem aacInputRtmp_bufferRead (pkt : RtmpPacket) :
    Keeps BufferRead (aacInputRtmp pkt) := by
  unfold aacInputRtmp
  refine (onBuffer_bufferRead
    (FlatBuffer.requireLengthOrFail_onlyRead 2)).bind fun _ => ?_
  refine (requireTrack_bufferRead _).bind fun _ => ?_
  refine (isConfigFrame_bufferRead pkt).throwing.bind fun isConfig => ?_
  apply Keeps.ite
  · refine (onBuffer_bufferRead
      (FlatBuffer.consumeOrFail_onlyRead 2)).bind fun _ => ?_
    exact onTrack_bufferRead _ AacTrack.parseConfig_bufferRead
  · refine (onBuffer_bufferRead
      (FlatBuffer.consumeOrFail_onlyRead 2)).bind fun _ => ?_
    refine (onTrack_bufferRead _
      AacTrack.extractAacConfig_bufferRead).bind fun adtsHead => ?_
    refine unreadLength_bufferRead.throwing.bind fun unread => ?_
    refine (peekBytes_bufferRead unread).throwing.bind fun payload => ?_
    exact onTrack_bufferRead _ (modifyTrack_bufferRead _)

theorem splitNalLoop_bufferRead (dts pts fuel : Nat) :
    Keeps BufferRead (splitNalLoop dts pts fuel) := by
  induction fuel with
  | zero => exact Keeps.pure _
  | succ fuel ih =>
      unfold splitNalLoop
      refine unreadLength_bufferRead.throwing.bind fun unread => ?_
      apply Keeps.ite
      · refine (onBuffer_bufferRead
          FlatBuffer.readUint32_onlyRead).bind fun frameLen => ?_
        refine unreadLength_bufferRead.throwing.bind fun unread => ?_
        apply Keeps.ite
        · exact Keeps.pure _
        · refine (peekBytes_bufferRead frameLen).throwing.bind fun nal => ?_
          refine (onBuffer_bufferRead
            (FlatBuffer.consumeOrFail_onlyRead frameLen)).bind fun _ => ?_
          exact (onTrack_bufferRead _ (modifyTrack_bufferRead _)).bind fun _ => ih
      · exact Keeps.pure _

theorem splitNalFrame_bufferRead (dts pts : Nat) :
    Keeps BufferRead (splitNalFrame dts pts) := by
  unfold splitNalFrame
  refine unreadLength_bufferRead.throwing.bind fun fuel => ?_
  refine (splitNalLoop_bufferRead dts pts fuel).bind fun _ => ?_
  refine unreadLength_bufferRead.throwing.bind fun unread => ?_
  apply Keeps.ite
  · exact Keeps.throw _
  · exact Keeps.pure _

theorem h264InputRtmp_bufferRead (h264DecSeqParameterSet : Bytes -> Bool)
    (pkt : RtmpPacket) :
    Keeps BufferRead (h264InputRtmp h264DecSeqParameterSet pkt) := by
  unfold h264InputRtmp
  refine (onBuffer_bufferRead
    (FlatBuffer.requireLengthOrFail_onlyRead 5)).bind fun _ => ?_
  refine (isConfigFrame_bufferRead pkt).throwing.bind fun isConfig => ?_
  apply Keeps.ite
  · refine (onBuffer_bufferRead
      (FlatBuffer.consumeOrFail_onlyRead 5)).bind fun _ => ?_
    refine (requireTrack_bufferRead _).bind fun _ => ?_
    exact onTrack_bufferRead _
      (H264Track.parseConfig_bufferRead h264DecSeqParameterSet)
  · refine (onBuffer_bufferRead
      (FlatBuffer.consumeOrFail_onlyRead 2)).bind fun _ => ?_
    refine (peekBytes_bufferRead 3).throwing.bind fun ctsBytes => ?_
    refine (onBuffer_bufferRead
      (FlatBuffer.consumeOrFail_onlyRead 3)).bind fun _ => ?_
    exact splitNalFrame_bufferRead _ _

namespace RtmpDemuxer

/-- Only the packet's buffer has been used, and it has only been read. -/
def PacketRead (s s' : RtmpPacket × RtmpDemuxer) : Prop :=
  s'.1 = { s.1 with buf := s'.1.buf } ∧ s.1.buf.OnlyRead s'.1.buf

theorem decodeWith_packetRead {track : Type} {p : BadPointer}
    {decoder : Option (RtmpCodec track)}
    {put : RtmpCodec track -> RtmpDemuxer -> RtmpDemuxer}
    {m : Decode track PUnit} (hm : Keeps BufferRead m) :
    Keeps PacketRead (decodeWith p decoder put m) := by
  intro s u s' h
  unfold decodeWith at h
  split at h
  · cases h
  · split at h
    · rename_i v buf t' hdecoded
      cases h
      exact ⟨rfl, hm _ _ _ hdecoded⟩
    · cases h

theorem decode_packetRead (h264DecSeqParameterSet : Bytes -> Bool) :
    Keeps PacketRead (decode h264DecSeqParameterSet) := by
  intro s u s' h
  unfold decode at h
  split_ifs at h
  · exact decodeWith_packetRead
      (h264InputRtmp_bufferRead h264DecSeqParameterSet s.1) s u s' h
  · exact decodeWith_packetRead (aacInputRtmp_bufferRead s.1) s u s' h
  · cases h
    exact ⟨rfl, Std.Refl.refl s.1.buf⟩

/-- A message that is accepted leaves its packet as it was, snapshot apart. -/
theorem inputRtmp_ok {h264DecSeqParameterSet : Bytes -> Bool}
    {s s' : RtmpPacket × RtmpDemuxer} {u : PUnit}
    (h : inputRtmp h264DecSeqParameterSet s = .ok u s') :
    s'.1 = { s.1 with buf := s.1.buf.captureSnapshot } := by
  rcases bind_eq_ok h with ⟨_, captured, hcapture, h⟩
  rcases bind_eq_ok h with ⟨_, decoded, hdecode, hrestore⟩
  cases hcapture
  cases hrestore
  rcases decode_packetRead h264DecSeqParameterSet _ _ _ hdecode with
    ⟨hfields, hread⟩
  have hbuf := FlatBuffer.restoreSnapshot_of_onlyRead hread
  show { decoded.1 with buf := decoded.1.buf.restoreSnapshot } = _
  rw [hbuf, hfields]

end RtmpDemuxer

/-!
## What becomes of the metadata
-/

namespace RtmpDemuxer

/-- The map is as it was. -/
def MapKept (s s' : Metadata × RtmpDemuxer) : Prop :=
  s'.1 = s.1

instance : Std.Refl MapKept :=
  ⟨fun _ => rfl⟩

instance : IsTrans (Metadata × RtmpDemuxer) MapKept :=
  ⟨fun _ _ _ h h' => h'.trans h⟩

/-- What a look-up inserts cannot be cast to anything. -/
theorem subscript_some {key : Bytes} {value : MetaValue}
    {s s' : Metadata × RtmpDemuxer}
    (h : (throwing (onFst (Metadata.subscript key)) : Init Any) s =
      .ok (some value) s') : MapKept s s' := by
  have hlook := (onFst_ok (throwing_ok h)).1
  unfold Metadata.subscript at hlook
  split at hlook
  · exact (EStateM.Result.ok.inj hlook).2.symm
  · cases (EStateM.Result.ok.inj hlook).1

theorem metadataDouble_mapKept (key : List Char) :
    Keeps MapKept (metadataDouble key) := by
  intro s bits s' h
  rcases bind_eq_ok h with ⟨value, t, hlook, hcast⟩
  unfold anyCastDouble at hcast
  split at hcast
  · cases hcast
    exact subscript_some hlook
  · cases hcast

theorem metadataInt_mapKept (key : List Char) :
    Keeps MapKept (metadataInt key) :=
  (metadataDouble_mapKept key).bind fun _ => Keeps.pure _

theorem anyCastBool_mapKept {key : Bytes} {f : Bool -> Init PUnit}
    (hf : forall b, Keeps MapKept (f b)) :
    Keeps MapKept (do
      let value <- throwing (onFst (Metadata.subscript key))
      f (<- anyCastBool value)) := by
  intro s u s' h
  rcases bind_eq_ok h with ⟨value, t, hlook, h⟩
  rcases bind_eq_ok h with ⟨b, t', hcast, hrest⟩
  unfold anyCastBool at hcast
  split at hcast
  · cases hcast
    exact IsTrans.trans _ _ _ (subscript_some hlook) (hf _ t u s' hrest)
  · cases hcast

theorem initVideoTrack_mapKept (codecId : Int) (bitRate : Nat) :
    Keeps MapKept (initVideoTrack codecId bitRate) := by
  refine Keeps.get.bind fun s => ?_
  apply Keeps.ite
  · exact Keeps.pure _
  · apply Keeps.ite
    · exact fun _ _ _ h => nomatch h
    · exact Keeps.update fun _ => rfl

theorem initAudioTrack_mapKept (codecId : Int) (bitRate : Nat) :
    Keeps MapKept (initAudioTrack codecId bitRate) := by
  refine Keeps.get.bind fun s => ?_
  apply Keeps.ite
  · exact Keeps.pure _
  · apply Keeps.ite
    · exact fun _ _ _ h => nomatch h
    · exact Keeps.update fun _ => rfl

/-- Where tracks have been made, nothing has been inserted. -/
theorem initTracksWithMetadata_mapKept :
    Keeps MapKept initTracksWithMetadata := by
  refine Keeps.get.bind fun s => ?_
  apply Keeps.ite
  · exact fun _ _ _ h => nomatch h
  · refine (metadataDouble_mapKept _).bind fun duration => ?_
    have hset : Keeps MapKept (modify fun s =>
        (s.1, { s.2 with duration := duration }) : Init PUnit) :=
      Keeps.update fun _ => rfl
    refine hset.bind fun _ => ?_
    refine (metadataInt_mapKept _).bind fun audiosamplerate => ?_
    refine (metadataInt_mapKept _).bind fun audiosamplesize => ?_
    apply anyCastBool_mapKept
    intro stereo
    refine (metadataInt_mapKept _).bind fun videocodecid => ?_
    refine (metadataInt_mapKept _).bind fun audiocodecid => ?_
    refine (metadataInt_mapKept _).bind fun audiodatarate => ?_
    refine (metadataInt_mapKept _).bind fun videodatarate => ?_
    have haudio : Keeps MapKept (if audiocodecid ≠ 0 then
        initAudioTrack (rtmpFlvCodecId audiocodecid) (bitRate audiodatarate)
      else pure PUnit.unit) :=
      Keeps.ite (initAudioTrack_mapKept _ _) (Keeps.pure _)
    apply Keeps.ite
    · exact (initVideoTrack_mapKept _ _).bind fun _ => haudio
    · exact haudio

end RtmpDemuxer

/-!
## The loop that splits frames comes to its end
-/

theorem readUint32_unreadLength {b b' : FlatBuffer} {x : Nat}
    (h : FlatBuffer.readUint32 b = .ok x b') :
    b'.unreadLength = b.unreadLength - 4 := by
  rcases bind_eq_ok h with ⟨y, t, hpeek, h⟩
  rcases bind_eq_ok h with ⟨_, t', hconsume, hreturn⟩
  cases hreturn
  unfold FlatBuffer.peekUint32 at hpeek
  split at hpeek
  · cases hpeek
  · cases hpeek
    exact FlatBuffer.consumeOrFail_unreadLength hconsume

/-- A frame that is passed on leaves the buffer as it is. -/
theorem inputFrame_buffer {p : BadPointer} {fr : Frame}
    {s s' : FlatBuffer × Option H264Track} {u : PUnit}
    (h : onTrack p (H264Track.inputFrame fr) s = .ok u s') : s'.1 = s.1 := by
  unfold onTrack at h
  split at h
  · cases h
  · cases h
    rfl

/-- More fuel than bytes makes no difference. -/
theorem splitNalLoop_fuel (dts pts fuel : Nat)
    {s : FlatBuffer × Option H264Track} (h : s.1.unreadLength <= fuel) :
    splitNalLoop dts pts (fuel + 1) s = splitNalLoop dts pts fuel s := by
  induction fuel generalizing s with
  | zero =>
      have hempty : ¬ s.1.unreadLength >= 4 := by omega
      show (ite (s.1.unreadLength >= 4) _ _ : Decode H264Track PUnit) s = _
      rw [if_neg hempty]
      rfl
  | succ fuel ih =>
      rw [splitNalLoop.eq_2 dts pts (fuel + 1), splitNalLoop.eq_2 dts pts fuel]
      apply bind_congr_of_ok
      intro unread t hunread
      cases throwing_ok hunread
      by_cases hfour : s.1.unreadLength >= 4
      · rw [if_pos hfour, if_pos hfour]
        apply bind_congr_of_ok
        intro frameLen t hread
        have hlength := readUint32_unreadLength (onFst_ok (throwing_ok hread)).1
        apply bind_congr_of_ok
        intro unread t' hunread
        cases throwing_ok hunread
        split
        · rfl
        · apply bind_congr_of_ok
          intro nal t' hnal
          cases throwing_ok hnal
          apply bind_congr_of_ok
          intro _ t' hconsume
          have hrest := FlatBuffer.consumeOrFail_unreadLength
            (onFst_ok (throwing_ok hconsume)).1
          apply bind_congr_of_ok
          intro _ t'' hinput
          apply ih
          rw [inputFrame_buffer hinput]
          omega
      · rw [if_neg hfour, if_neg hfour]

end Rtmp
end Streaming
