import Streaming.Rtmp.MediaSource

/-!
# The pointers of a source

A source follows its dispatcher behind a check at the start of
`process_av_packet`, and a decoder its track behind a check or none.  Nothing
that a source does follows a pointer that is null: every decoder that is made
has a track, and keeps it.
-/

namespace Streaming
namespace Rtmp

open Codec Foundation Media Network Util

/-!
## Every decoder has its track
-/

/-- What `get_track` returns is not null. -/
def HasTrack {track : Type} (s : FlatBuffer × Option track) : Prop :=
  s.2.isSome = true

/-- A function of a decoder that follows the track only where there is one. -/
def TrackSafe {track value : Type} (m : Decode track value) : Prop :=
  Defined HasTrack m (fun _ => HasTrack) HasTrack

section Tracks

variable {track value : Type}

theorem onBuffer_trackSafe (m : EStateM String FlatBuffer value) :
    TrackSafe (throwing (onFst m) : Decode track value) := by
  apply Defined.throwing
  exact @Ensures.onFst _ _ _ _ (fun t : Option track => t.isSome = true) m

theorem unreadLength_trackSafe :
    TrackSafe (throwing unreadLength : Decode track Nat) :=
  fun _ hs => hs

theorem peekBytes_trackSafe (len : Nat) :
    TrackSafe (throwing (peekBytes len) : Decode track Bytes) :=
  fun _ hs => hs

theorem isConfigFrame_trackSafe (pkt : RtmpPacket) :
    TrackSafe (throwing (isConfigFrame pkt) : Decode track Bool) := by
  apply Defined.throwing
  intro s hs
  unfold isConfigFrame
  cases { pkt with buf := s.1 }.isConfigFrame with
  | ok isConfig => exact hs
  | error what => exact hs

theorem requireTrack_trackSafe (what : String) :
    TrackSafe (requireTrack what : Decode track PUnit) := by
  intro s hs
  unfold requireTrack
  have hnone : ¬ s.2.isNone = true := by
    rw [Option.isNone_iff_eq_none]
    exact Option.isSome_iff_ne_none.mp hs
  rw [if_neg hnone]
  exact hs

theorem onTrack_trackSafe (p : BadPointer) (m : Parse track value) :
    TrackSafe (onTrack p m) := by
  intro s hs
  rcases Option.isSome_iff_exists.mp hs with ⟨t, ht⟩
  unfold onTrack
  rw [ht]
  dsimp only
  cases m (s.1, t) with
  | ok a s' => exact rfl
  | error what s' => exact rfl

end Tracks

theorem aacInputRtmp_trackSafe (pkt : RtmpPacket) :
    TrackSafe (aacInputRtmp pkt) := by
  unfold aacInputRtmp
  apply (onBuffer_trackSafe _).bind
  intro _
  apply (requireTrack_trackSafe _).bind
  intro _
  apply (isConfigFrame_trackSafe pkt).bind
  intro isConfig
  apply Defined.ite
  · intro _
    apply (onBuffer_trackSafe _).bind
    intro _
    exact onTrack_trackSafe _ _
  · intro _
    apply (onBuffer_trackSafe _).bind
    intro _
    apply (onTrack_trackSafe _ _).bind
    intro adtsHead
    apply unreadLength_trackSafe.bind
    intro unread
    apply (peekBytes_trackSafe unread).bind
    intro payload
    exact onTrack_trackSafe _ _

/-- The loop does not check the track, it relies on it. -/
theorem splitNalLoop_trackSafe (dts pts fuel : Nat) :
    TrackSafe (splitNalLoop dts pts fuel) := by
  induction fuel with
  | zero => exact Defined.pure fun _ hs => hs
  | succ fuel ih =>
      unfold splitNalLoop
      apply unreadLength_trackSafe.bind
      intro unread
      apply Defined.ite
      · intro _
        apply (onBuffer_trackSafe _).bind
        intro frameLen
        apply unreadLength_trackSafe.bind
        intro unread
        apply Defined.ite
        · exact fun _ => Defined.pure fun _ hs => hs
        · intro _
          apply (peekBytes_trackSafe frameLen).bind
          intro nal
          apply (onBuffer_trackSafe _).bind
          intro _
          exact (onTrack_trackSafe _ _).bind fun _ => ih
      · exact fun _ => Defined.pure fun _ hs => hs

theorem h264InputRtmp_trackSafe (h264DecSeqParameterSet : Bytes -> Bool)
    (pkt : RtmpPacket) :
    TrackSafe (h264InputRtmp h264DecSeqParameterSet pkt) := by
  unfold h264InputRtmp
  apply (onBuffer_trackSafe _).bind
  intro _
  apply (isConfigFrame_trackSafe pkt).bind
  intro isConfig
  apply Defined.ite
  · intro _
    apply (onBuffer_trackSafe _).bind
    intro _
    apply (requireTrack_trackSafe _).bind
    intro _
    exact onTrack_trackSafe _ _
  · intro _
    apply (onBuffer_trackSafe _).bind
    intro _
    apply (peekBytes_trackSafe 3).bind
    intro ctsBytes
    apply (onBuffer_trackSafe _).bind
    intro _
    unfold splitNalFrame
    apply unreadLength_trackSafe.bind
    intro unread
    apply (splitNalLoop_trackSafe _ _ unread).bind
    intro _
    apply unreadLength_trackSafe.bind
    intro left
    apply Defined.ite
    · exact fun _ => Defined.throw fun _ hs => hs
    · exact fun _ => Defined.pure fun _ hs => hs

namespace RtmpDemuxer

/-- Every decoder of the demuxer has its track. -/
structure Attached (demuxer : RtmpDemuxer) : Prop where
  audio : forall decoder, demuxer.audioRtmpDecoder = some decoder ->
    decoder.track.isSome = true
  video : forall decoder, demuxer.videoRtmpDecoder = some decoder ->
    decoder.track.isSome = true

theorem start_attached : Attached {} where
  audio := nofun
  video := nofun

theorem Attached.setAudio {demuxer : RtmpDemuxer} (h : demuxer.Attached)
    {decoder : RtmpCodec AacTrack} (hdecoder : decoder.track.isSome = true) :
    Attached { demuxer with audioRtmpDecoder := some decoder } where
  audio := fun _ heq => by cases heq; exact hdecoder
  video := h.video

theorem Attached.setVideo {demuxer : RtmpDemuxer} (h : demuxer.Attached)
    {decoder : RtmpCodec H264Track} (hdecoder : decoder.track.isSome = true) :
    Attached { demuxer with videoRtmpDecoder := some decoder } where
  audio := h.audio
  video := fun _ heq => by cases heq; exact hdecoder

/-- A call of a demuxer that follows no null pointer, and leaves every decoder
with its track. -/
def DemuxerSafe {other value : Type}
    (m : EStateM (Fault BadPointer) (other × RtmpDemuxer) value) : Prop :=
  Defined (fun s => s.2.Attached) m (fun _ s => s.2.Attached)
    fun s => s.2.Attached

theorem decodeWith_safe {track : Type} {p : BadPointer}
    {decoder : RtmpCodec track}
    {put : RtmpCodec track -> RtmpDemuxer -> RtmpDemuxer}
    {m : Decode track PUnit} (hm : TrackSafe m)
    (htrack : decoder.track.isSome = true)
    (hput : forall (demuxer : RtmpDemuxer) (t : Option track),
      demuxer.Attached -> t.isSome = true ->
        (put { track := t } demuxer).Attached) :
    DemuxerSafe (decodeWith p (some decoder) put m) := by
  intro s hs
  have hend := hm (s.1.buf, decoder.track) htrack
  unfold decodeWith
  dsimp only
  cases hresult : m (s.1.buf, decoder.track) with
  | ok u t =>
      rw [hresult] at hend
      exact hput s.2 t.2 hs hend
  | error e t =>
      rw [hresult] at hend
      cases e with
      | exception what => exact hput s.2 t.2 hs hend
      | undefined c => exact hend

theorem decode_safe (h264DecSeqParameterSet : Bytes -> Bool) :
    DemuxerSafe (decode h264DecSeqParameterSet) := by
  intro s hs
  by_cases hvideo : s.1.msgTypeId = msgVideo ∧ s.2.videoRtmpDecoder.isSome
  · rcases Option.isSome_iff_exists.mp hvideo.2 with ⟨decoder, hdecoder⟩
    have hdecode : decode h264DecSeqParameterSet s = _ := if_pos hvideo
    rw [hdecode, hdecoder]
    exact decodeWith_safe
      (h264InputRtmp_trackSafe h264DecSeqParameterSet s.1)
      (hs.video decoder hdecoder) (fun _ _ h ht => h.setVideo ht) s hs
  · by_cases haudio : s.1.msgTypeId = msgAudio ∧ s.2.audioRtmpDecoder.isSome
    · rcases Option.isSome_iff_exists.mp haudio.2 with ⟨decoder, hdecoder⟩
      have hdecode : decode h264DecSeqParameterSet s = _ :=
        (if_neg hvideo).trans (if_pos haudio)
      rw [hdecode, hdecoder]
      exact decodeWith_safe (aacInputRtmp_trackSafe s.1)
        (hs.audio decoder hdecoder) (fun _ _ h ht => h.setAudio ht) s hs
    · have hdecode : decode h264DecSeqParameterSet s = .ok ⟨⟩ s :=
        (if_neg hvideo).trans (if_neg haudio)
      rw [hdecode]
      exact hs

theorem inputRtmp_safe (h264DecSeqParameterSet : Bytes -> Bool) :
    DemuxerSafe (inputRtmp h264DecSeqParameterSet) := by
  have hcapture : DemuxerSafe captureSnapshot := fun _ hs => hs
  have hrestore : DemuxerSafe restoreSnapshot := fun _ hs => hs
  apply hcapture.bind
  intro _
  exact (decode_safe h264DecSeqParameterSet).bind fun _ => hrestore

/-- A look-up leaves the decoders alone. -/
theorem subscript_safe (key : Bytes) :
    DemuxerSafe (throwing (onFst (Metadata.subscript key)) : Init Any) := by
  apply Defined.throwing
  exact @Ensures.onFst _ _ _ _ Attached (Metadata.subscript key)

theorem metadataDouble_safe (key : List Char) :
    DemuxerSafe (metadataDouble key) := by
  apply (subscript_safe _).bind
  intro value
  unfold anyCastDouble
  split
  · exact Defined.pure fun _ hs => hs
  · exact Defined.throw fun _ hs => hs

theorem metadataInt_safe (key : List Char) : DemuxerSafe (metadataInt key) :=
  (metadataDouble_safe key).bind fun _ => Defined.pure fun _ hs => hs

theorem anyCastBool_safe (value : Any) : DemuxerSafe (anyCastBool value) := by
  unfold anyCastBool
  split
  · exact Defined.pure fun _ hs => hs
  · exact Defined.throw fun _ hs => hs

theorem initVideoTrack_safe (codecId : Int) (bitRate : Nat) :
    DemuxerSafe (initVideoTrack codecId bitRate) := by
  apply Defined.get_bind
  intro s
  apply Defined.ite
  · exact fun _ => Defined.pure fun _ hs => hs
  · intro _
    apply Defined.ite
    · exact fun _ _ hs => hs
    · exact fun _ _ hs => hs.setVideo rfl

theorem initAudioTrack_safe (codecId : Int) (bitRate : Nat) :
    DemuxerSafe (initAudioTrack codecId bitRate) := by
  apply Defined.get_bind
  intro s
  apply Defined.ite
  · exact fun _ => Defined.pure fun _ hs => hs
  · intro _
    apply Defined.ite
    · exact fun _ _ hs => hs
    · exact fun _ _ hs => hs.setAudio rfl

/-- The tracks are made where they are used, and every decoder gets its own. -/
theorem initTracksWithMetadata_safe : DemuxerSafe initTracksWithMetadata := by
  apply Defined.get_bind
  intro s
  apply Defined.ite
  · exact fun _ _ hs => hs
  · intro _
    apply (metadataDouble_safe _).bind
    intro duration
    have hset : DemuxerSafe (modify fun s =>
        (s.1, { s.2 with duration := duration }) : Init PUnit) :=
      fun _ hs => ⟨hs.audio, hs.video⟩
    apply hset.bind
    intro _
    apply (metadataInt_safe _).bind
    intro audiosamplerate
    apply (metadataInt_safe _).bind
    intro audiosamplesize
    apply (subscript_safe _).bind
    intro stereo
    apply (anyCastBool_safe stereo).bind
    intro audiochannels
    apply (metadataInt_safe _).bind
    intro videocodecid
    apply (metadataInt_safe _).bind
    intro audiocodecid
    apply (metadataInt_safe _).bind
    intro audiodatarate
    apply (metadataInt_safe _).bind
    intro videodatarate
    have haudio : DemuxerSafe (if audiocodecid ≠ 0 then
        initAudioTrack (rtmpFlvCodecId audiocodecid) (bitRate audiodatarate)
      else pure PUnit.unit) := by
      apply Defined.ite
      · exact fun _ => initAudioTrack_safe _ _
      · exact fun _ => Defined.pure fun _ hs => hs
    apply Defined.ite
    · exact fun _ => (initVideoTrack_safe _ _).bind fun _ => haudio
    · exact fun _ => haudio

end RtmpDemuxer

namespace RtmpMediaSource

/-!
## What a source follows
-/

section Calls

variable {W R : Type}

/-- Every decoder of the source has its track. -/
def Tracked (g : Ingest W R) : Prop :=
  g.source.demuxer.Attached

/-- Besides, there is a dispatcher. -/
def Dispatching (g : Ingest W R) : Prop :=
  Tracked g ∧ g.source.dispatcher.isSome = true

/-- A call that is made behind the check of the dispatcher. -/
def PacketSafe {value : Type} (m : Call W R value) : Prop :=
  Defined Dispatching m (fun _ => Dispatching) Tracked

/-- The dispatcher is there when the check returns. -/
theorem checkPacket_safe (ptr : PacketPtr) :
    Defined Tracked (checkPacket ptr : Call W R RtmpPacket)
      (fun _ => Dispatching) Tracked := by
  intro g hg
  unfold checkPacket
  cases g.packets[ptr]? with
  | none => exact hg
  | some pkt =>
      by_cases htype : pkt.msgTypeId ≠ msgAudio ∧ pkt.msgTypeId ≠ msgVideo
      · simp only [if_pos htype]
        exact hg
      · cases hdispatcher : g.source.dispatcher with
        | none =>
            simp only [if_neg htype, Option.isNone_none, if_pos]
            exact hg
        | some dispatcher =>
            have hsome : Dispatching g := ⟨hg, by rw [hdispatcher]; rfl⟩
            simp only [if_neg htype, Option.isNone_some, Bool.false_eq_true,
              if_false]
            exact hsome

theorem demux_safe (h264DecSeqParameterSet : Bytes -> Bool) (ptr : PacketPtr)
    (pkt : RtmpPacket) :
    PacketSafe (demux h264DecSeqParameterSet ptr pkt : Call W R RtmpPacket) := by
  intro g hg
  have hinput := RtmpDemuxer.inputRtmp_safe h264DecSeqParameterSet
    (pkt, g.source.demuxer) hg.1
  unfold demux
  dsimp only
  cases hresult : RtmpDemuxer.inputRtmp h264DecSeqParameterSet
      (pkt, g.source.demuxer) with
  | ok u s =>
      rw [hresult] at hinput
      exact ⟨hinput, hg.2⟩
  | error e s =>
      rw [hresult] at hinput
      cases e with
      | exception what => exact hinput
      | undefined p => exact hinput

theorem updateTrack_safe (ptr : PacketPtr) (pkt : RtmpPacket) :
    PacketSafe (updateTrack ptr pkt : Call W R RtmpPacket) :=
  fun _ hg => hg

theorem test_safe (result : Except String Bool) :
    PacketSafe (test result : Call W R Bool) := by
  intro g hg
  unfold test
  cases result with
  | ok b => exact hg
  | error what => exact hg.1

theorem noteConfigFrame_safe (ptr : PacketPtr) (pkt : RtmpPacket) :
    PacketSafe (noteConfigFrame ptr pkt : Call W R Bool) := by
  apply (test_safe _).bind
  intro isConfig
  apply Defined.ite
  · exact fun _ _ hg => hg
  · exact fun _ => Defined.pure fun _ hg => hg

theorem registOrReturn_safe (regist : W -> Except String (Option W))
    (pkt : RtmpPacket) (isConfig : Bool) :
    PacketSafe (registOrReturn regist pkt isConfig : Call W R (Option Bool)) := by
  have hflag : PacketSafe
      (do return some (<- test pkt.isVideoKeyframe) : Call W R (Option Bool)) :=
    (test_safe _).bind fun _ => Defined.pure fun _ hg => hg
  have hregist : PacketSafe (registSource regist : Call W R PUnit) := by
    intro g hg
    unfold registSource
    cases regist g.registry with
    | error what => exact hg.1
    | ok registry =>
        cases registry with
        | none => exact hg
        | some registry => exact hg
  apply Defined.get_bind
  intro g
  apply Defined.ite
  · exact fun _ => hflag
  · intro _
    apply Defined.ite
    · exact fun _ => Defined.pure fun _ hg => hg
    · exact fun _ => hregist.bind fun _ => hflag

theorem distribute_safe [DecidableEq R] (ptr : PacketPtr) (isIdr : Bool) :
    Defined Dispatching (distribute ptr isIdr : Call W R PUnit)
      (fun _ => Tracked) Tracked := by
  intro g hg
  rcases Option.isSome_iff_exists.mp hg.2 with ⟨dispatcher, hdispatcher⟩
  unfold distribute
  rw [hdispatcher]
  exact hg.1

/-- Whatever the packet holds, every pointer that is followed is there. -/
theorem processAvPacket_safe [DecidableEq R]
    (regist : W -> Except String (Option W))
    (h264DecSeqParameterSet : Bytes -> Bool) (ptr : PacketPtr) :
    Defined Tracked
      (processAvPacket regist h264DecSeqParameterSet ptr : Call W R PUnit)
      (fun _ => Tracked) Tracked := by
  have haccept : Defined Tracked
      (acceptPacket regist h264DecSeqParameterSet ptr : Call W R (Option Bool))
      (fun _ => Dispatching) Tracked := by
    apply (checkPacket_safe ptr).bind
    intro pkt
    apply (demux_safe h264DecSeqParameterSet ptr pkt).bind
    intro pkt'
    apply (updateTrack_safe ptr pkt').bind
    intro pkt''
    apply (noteConfigFrame_safe ptr pkt'').bind
    intro isConfig
    exact registOrReturn_safe regist pkt'' isConfig
  apply haccept.bind
  intro isIdr
  cases isIdr with
  | none => exact Defined.pure fun _ hg => hg.1
  | some isIdr => exact distribute_safe ptr isIdr

/-- As long as the map is there, so is every other pointer. -/
theorem initTracks_safe (ptr : MetaDataPtr) :
    Defined (fun g => Tracked g ∧ (g.maps ptr).isSome = true)
      (initTracks (some ptr) : Call W R PUnit) (fun _ => Tracked) Tracked := by
  rintro g ⟨hg, hmap⟩
  rcases Option.isSome_iff_exists.mp hmap with ⟨metadata, hmetadata⟩
  have hinit := RtmpDemuxer.initTracksWithMetadata_safe
    (metadata, g.source.demuxer) hg
  unfold initTracks
  simp only [hmetadata]
  cases hresult : RtmpDemuxer.initTracksWithMetadata
      (metadata, g.source.demuxer) with
  | ok u s =>
      rw [hresult] at hinit
      exact hinit
  | error e s =>
      rw [hresult] at hinit
      cases e with
      | exception what => exact hinit
      | undefined p => exact hinit

theorem initTracks_tracked (ptr : MetaDataPtr) {g : Ingest W R}
    (hg : Tracked g) :
    Tracked (resultState (initTracks (some ptr) g)) := by
  cases hmap : g.maps ptr with
  | none =>
      have hsame : resultState (initTracks (some ptr) g) = g := by
        unfold initTracks
        simp only [hmap]
        rfl
      rw [hsame]
      exact hg
  | some metadata =>
      have hsome : (g.maps ptr).isSome = true := by
        rw [hmap]
        rfl
      have hend := initTracks_safe ptr g ⟨hg, hsome⟩
      cases hresult : initTracks (some ptr) g with
      | ok u t =>
          rw [hresult] at hend
          exact hend
      | error e t =>
          rw [hresult] at hend
          cases e with
          | exception what => exact hend
          | undefined p => exact hend.elim

end Calls

end RtmpMediaSource
end Rtmp
end Streaming
