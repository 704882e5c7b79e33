import Streaming.Media.PacketDispatcher
import Streaming.Rtmp.Demuxer

/-!
# The RTMP media source

A media source receives the audio and video messages of its publisher.  Packets
are shared: the demuxer, the map of config frames, the cache of the dispatcher
and the readers all point to the same object, so packets live in a store here
and a pointer is an index into it.

Of `speed_` only the call of `size()` is kept, which changes the packet.
-/

namespace Streaming
namespace Rtmp

open Foundation Media Network Util

/-- An `rtmp_packet::ptr`. -/
abbrev PacketPtr := Nat

/-- A `metadata_map *`, by the connection whose `meta_data_` it points to. -/
abbrev MetaDataPtr := Nat

structure RtmpMediaSource (R : Type) where
  demuxer : RtmpDemuxer := {}
  /-- Not responsible for the map, which may go before the source does. -/
  metaData : Option MetaDataPtr := none
  /-- The entries of `config_frame_map_`, at most one for a message type. -/
  configFrameMap : List (Nat × PacketPtr) := []
  dispatcher : Option (PacketDispatcher PacketPtr R) := none
  /-- The latest timestamp of the audio and of the video track. -/
  trackStamps : List Nat := [0, 0]
  isRegistered : Bool := false

/-- A source among the packets and maps it points to and the registry of
sources. -/
structure Ingest (W R : Type) where
  packets : List RtmpPacket := []
  /-- The maps that are still there. -/
  maps : MetaDataPtr -> Option Metadata := fun _ => none
  registry : W
  source : RtmpMediaSource R := {}

/-- What the source's `meta_data_` points to. -/
def Ingest.metadata {W R : Type} (s : Ingest W R) : Option Metadata :=
  s.source.metaData.bind s.maps

namespace RtmpMediaSource

section Calls

variable {W R : Type}

abbrev Call (W R : Type) := EStateM (Fault BadPointer) (Ingest W R)

/-- The result of a `const` function that does not change the state. -/
def test (result : Except String Bool) : Call W R Bool := fun s =>
  match result with
  | .ok b => .ok b s
  | .error what => .error (.exception what) s

/-- `*meta_data` -/
def followMetadata (metaData : MetaDataPtr) : Call W R Metadata := fun s =>
  deref .metaData (s.maps metaData) s

/-- A look-up that finds nothing changes the map, and the call throws; that
entry is left out here. -/
def initTracks (metaData : Option MetaDataPtr) : Call W R PUnit := fun s =>
  match metaData with
  | none =>
      .error (.exception
        "rtmp demuxer cannot initialize tracks with empty metadata") s
  | some ptr =>
      match s.maps ptr with
      | none => .error (.undefined .metaData) s
      | some metadata =>
          match RtmpDemuxer.initTracksWithMetadata
              (metadata, s.source.demuxer) with
          | .error e (_, demuxer) =>
              .error e { s with source := { s.source with demuxer := demuxer } }
          | .ok _ (_, demuxer) =>
              .ok ⟨⟩ { s with source := { s.source with
                demuxer := demuxer
                metaData := some ptr
                -- init dispatcher after tracks have been initialized
                dispatcher := some PacketDispatcher.create } }

def getMetadata : Call W R MetaDataPtr := fun s =>
  match s.source.metaData with
  | some metaData => .ok metaData s
  | none => .error (.exception "meta data is empty") s

def getDispatcher : Call W R (PacketDispatcher PacketPtr R) := fun s =>
  match s.source.dispatcher with
  | some dispatcher => .ok dispatcher s
  | none => .error (.exception "rtmp dispatcher is empty") s

/-!
## `process_av_packet`
-/

/-- The checks at the start. -/
def checkPacket (ptr : PacketPtr) : Call W R RtmpPacket := fun s =>
  match s.packets[ptr]? with
  | none =>
      .error (.exception "rtmp packet must be either video or audio") s
  | some pkt =>
      if pkt.msgTypeId ≠ msgAudio ∧ pkt.msgTypeId ≠ msgVideo then
        .error (.exception "rtmp packet must be either video or audio") s
      else if s.source.dispatcher.isNone then
        .error (.exception
          "Must initialize tracks with metadata before processing packets.") s
      else
        .ok pkt s

/-- `demuxer_->input_rtmp(pkt)`, on the stored packet. -/
def demux (h264DecSeqParameterSet : Bytes -> Bool) (ptr : PacketPtr)
    (pkt : RtmpPacket) : Call W R RtmpPacket := fun s =>
  let keep := fun (pkt : RtmpPacket) (demuxer : RtmpDemuxer) =>
    { s with
      packets := s.packets.set ptr pkt
      source := { s.source with demuxer := demuxer } }
  match RtmpDemuxer.inputRtmp h264DecSeqParameterSet (pkt, s.source.demuxer) with
  | .ok _ (pkt, demuxer) => .ok pkt (keep pkt demuxer)
  | .error e (pkt, demuxer) => .error e (keep pkt demuxer)

/-- Update the speed and the timestamp of the packet's track. -/
def updateTrack (ptr : PacketPtr) (pkt : RtmpPacket) : Call W R RtmpPacket :=
  fun s =>
    let trackIndex := if pkt.msgTypeId = msgVideo then 1 else 0
    .ok pkt.size { s with
      packets := s.packets.set ptr pkt.size
      source := { s.source with
        trackStamps := s.source.trackStamps.set trackIndex pkt.timeStamp } }

/-- `config_frame_map_[msg_type_id] = pkt`. -/
def setConfigFrame (msgTypeId : Nat) (ptr : PacketPtr)
    (configFrameMap : List (Nat × PacketPtr)) : List (Nat × PacketPtr) :=
  (msgTypeId, ptr) :: configFrameMap.filter fun entry => entry.1 ≠ msgTypeId

def keepConfigFrame (ptr : PacketPtr) (pkt : RtmpPacket) : Call W R PUnit :=
  modify fun s => { s with source := { s.source with
    configFrameMap :=
      setConfigFrame pkt.msgTypeId ptr s.source.configFrameMap } }

/-- `regist()` of the base class, with the registry it works on.  Without a new
registry it has returned early. -/
def registSource (regist : W -> Except String (Option W)) : Call W R PUnit :=
  fun s =>
    match regist s.registry with
    | .ok (some registry) =>
        .ok ⟨⟩ { s with
          registry := registry
          source := { s.source with isRegistered := true } }
    | .ok none => .ok ⟨⟩ s
    | .error what => .error (.exception what) s

/-- What the registry does for a source that has no entry of its own yet. -/
def registNew (regist : W -> Except String W) (registry : W) :
    Except String (Option W) :=
  (regist registry).map some

/-- Always keep the up-to-date config frame for both video and audio. -/
def noteConfigFrame (ptr : PacketPtr) (pkt : RtmpPacket) : Call W R Bool := do
  let isConfig <- test pkt.isConfigFrame
  if isConfig then
    keepConfigFrame ptr pkt
    return true
  else
    return false

/--
Register the source with the first packet behind the config frames.  The result
is the key-frame flag for the call of `distribute`, or nothing when a config
frame comes before the source is registered.
-/
def registOrReturn (regist : W -> Except String (Option W)) (pkt : RtmpPacket)
    (isConfig : Bool) : Call W R (Option Bool) := do
  if (<- get).source.isRegistered then
    return some (<- test pkt.isVideoKeyframe)
  else if isConfig then
    return none
  else
    registSource regist
    return some (<- test pkt.isVideoKeyframe)

/-- `process_av_packet` up to the call of `distribute`. -/
def acceptPacket (regist : W -> Except String (Option W))
    (h264DecSeqParameterSet : Bytes -> Bool) (ptr : PacketPtr) :
    Call W R (Option Bool) := do
  let pkt <- checkPacket ptr
  let pkt <- demux h264DecSeqParameterSet ptr pkt
  let pkt <- updateTrack ptr pkt
  registOrReturn regist pkt (<- noteConfigFrame ptr pkt)

/-- `dispatcher_->distribute(pkt, …)` -/
def distribute [DecidableEq R] (ptr : PacketPtr) (isIdr : Bool) :
    Call W R PUnit := fun s =>
  match s.source.dispatcher with
  | none => .error (.undefined .dispatcher) s
  | some d =>
      .ok ⟨⟩ { s with source := { s.source with
        dispatcher := some (d.distribute ptr isIdr) } }

def processAvPacket [DecidableEq R] (regist : W -> Except String (Option W))
    (h264DecSeqParameterSet : Bytes -> Bool) (ptr : PacketPtr) :
    Call W R PUnit := do
  match <- acceptPacket regist h264DecSeqParameterSet ptr with
  | none => return
  | some isIdr => distribute ptr isIdr

end Calls

end RtmpMediaSource

/-!
## A packet after its message was accepted
-/

/-- What `process_av_packet` makes of a packet that it accepts. -/
def RtmpPacket.processed (pkt : RtmpPacket) : RtmpPacket :=
  { pkt with buf := pkt.buf.captureSnapshot }.size

/-- A packet that `is_config_frame` holds of. -/
def RtmpPacket.IsConfig (pkt : RtmpPacket) : Prop :=
  pkt.isConfigFrame = .ok true

instance (pkt : RtmpPacket) : Decidable pkt.IsConfig :=
  match h : pkt.isConfigFrame with
  | .ok true => .isTrue h
  | .ok false => .isFalse fun hconfig => by cases h.symm.trans hconfig
  | .error _ => .isFalse fun hconfig => by cases h.symm.trans hconfig

/-- A packet that `is_video_keyframe` holds of; config frames are among them. -/
def RtmpPacket.IsKeyframe (pkt : RtmpPacket) : Prop :=
  pkt.isVideoKeyframe = .ok true

instance (pkt : RtmpPacket) : Decidable pkt.IsKeyframe :=
  inferInstanceAs (Decidable (_ = _))

/-- A video packet that holds a picture and not a configuration. -/
def RtmpPacket.CodedVideo (pkt : RtmpPacket) : Prop :=
  pkt.msgTypeId = msgVideo ∧ ¬ pkt.IsConfig

instance (pkt : RtmpPacket) : Decidable pkt.CodedVideo :=
  inferInstanceAs (Decidable (_ ∧ _))

/-- A picture in the AVC format, without an extended header. -/
def RtmpPacket.CodedAvc (pkt : RtmpPacket) : Prop :=
  pkt.CodedVideo ∧ (byteAt pkt.buf.data 0 >>> 4) &&& 0b1000 = 0 ∧
    pkt.getAvCodecId = .ok 7

instance (pkt : RtmpPacket) : Decidable pkt.CodedAvc :=
  inferInstanceAs (Decidable (_ ∧ _))

namespace RtmpPacket

theorem inspect_peekUint8 (pkt : RtmpPacket) :
    pkt.inspect FlatBuffer.peekUint8 =
      if pkt.buf.unreadLength < 1 then .error "not enough data"
      else .ok (byteAt pkt.buf.data 0) := by
  unfold inspect FlatBuffer.peekUint8
  split_ifs <;> rfl

theorem inspect_requireLengthOrFail (pkt : RtmpPacket) (len : Nat) :
    pkt.inspect (FlatBuffer.requireLengthOrFail len) =
      if len > pkt.buf.unreadLength then
        .error s!"flat_buffer {pkt.buf.unreadLength} does not contain the required length {len}"
      else .ok () := by
  unfold inspect FlatBuffer.requireLengthOrFail
  split_ifs <;> rfl

/-- The frame tests look at the type, the bytes and their number only. -/
theorem isVideoKeyframe_congr {pkt other : RtmpPacket}
    (htype : pkt.msgTypeId = other.msgTypeId)
    (hdata : pkt.buf.data = other.buf.data)
    (hunread : pkt.buf.unreadLength = other.buf.unreadLength) :
    pkt.isVideoKeyframe = other.isVideoKeyframe := by
  unfold isVideoKeyframe
  rw [inspect_peekUint8, inspect_peekUint8, htype, hdata, hunread]

theorem isConfigFrame_congr {pkt other : RtmpPacket}
    (htype : pkt.msgTypeId = other.msgTypeId)
    (hdata : pkt.buf.data = other.buf.data)
    (hunread : pkt.buf.unreadLength = other.buf.unreadLength) :
    pkt.isConfigFrame = other.isConfigFrame := by
  unfold isConfigFrame getAvCodecId
  rw [isVideoKeyframe_congr htype hdata hunread, inspect_peekUint8,
    inspect_peekUint8, inspect_requireLengthOrFail,
    inspect_requireLengthOrFail, htype, hdata, hunread]

theorem isKeyframe_eq (pkt : RtmpPacket) {b : Bool}
    (h : pkt.isVideoKeyframe = .ok b) : b = decide pkt.IsKeyframe := by
  cases b with
  | true =>
      have hkey : pkt.IsKeyframe := h
      exact (decide_eq_true hkey).symm
  | false =>
      have hnot : ¬ pkt.IsKeyframe := by
        intro hkey
        cases h.symm.trans hkey
      exact (decide_eq_false hnot).symm

theorem processed_isConfigFrame (pkt : RtmpPacket) :
    pkt.processed.isConfigFrame = pkt.isConfigFrame :=
  isConfigFrame_congr rfl rfl rfl

theorem processed_isVideoKeyframe (pkt : RtmpPacket) :
    pkt.processed.isVideoKeyframe = pkt.isVideoKeyframe :=
  isVideoKeyframe_congr rfl rfl rfl

end RtmpPacket

/-!
## What an accepted packet does to the source
-/

namespace RtmpMediaSource

section Accepted

variable {W R : Type}

/-- The effect of `acceptPacket` on a packet that it returns for. -/
structure Accepted (ptr : PacketPtr) (pkt : RtmpPacket) (s s' : Ingest W R)
    (isIdr : Option Bool) : Prop where
  packet_eq : s.packets[ptr]? = some pkt
  type_eq : pkt.msgTypeId = msgAudio ∨ pkt.msgTypeId = msgVideo
  packets_eq : s'.packets = s.packets.set ptr pkt.processed
  maps_eq : s'.maps = s.maps
  metaData_eq : s'.source.metaData = s.source.metaData
  dispatcher_eq : s'.source.dispatcher = s.source.dispatcher
  configFrameMap_eq : s'.source.configFrameMap =
    if pkt.IsConfig then
      setConfigFrame pkt.msgTypeId ptr s.source.configFrameMap
    else s.source.configFrameMap
  isIdr_eq : forall b, isIdr = some b -> pkt.isVideoKeyframe = .ok b

theorem checkPacket_ok {ptr : PacketPtr} {pkt : RtmpPacket} {s s' : Ingest W R}
    (h : checkPacket ptr s = .ok pkt s') :
    s' = s ∧ s.packets[ptr]? = some pkt ∧
      (pkt.msgTypeId = msgAudio ∨ pkt.msgTypeId = msgVideo) := by
  unfold checkPacket at h
  split at h
  · cases h
  · rename_i found hfound
    split at h
    · cases h
    · rename_i htype
      split at h
      · cases h
      · cases h
        exact ⟨rfl, hfound, by tauto⟩

theorem demux_ok {h264DecSeqParameterSet : Bytes -> Bool} {ptr : PacketPtr}
    {pkt out : RtmpPacket} {s s' : Ingest W R}
    (h : demux h264DecSeqParameterSet ptr pkt s = .ok out s') :
    out = { pkt with buf := pkt.buf.captureSnapshot } ∧
      exists demuxer, s' = { s with
        packets := s.packets.set ptr out
        source := { s.source with demuxer := demuxer } } := by
  simp only [demux] at h
  split at h
  · rename_i u out' demuxer hinput
    cases h
    exact ⟨RtmpDemuxer.inputRtmp_ok hinput, demuxer, rfl⟩
  · cases h

theorem initTracks_ok {metaData : Option MetaDataPtr} {s s' : Ingest W R}
    {u : PUnit} (h : initTracks metaData s = .ok u s') :
    exists ptr metadata demuxer, s.maps ptr = some metadata ∧
      s' = { s with source := { s.source with
        demuxer := demuxer
        metaData := some ptr
        dispatcher := some PacketDispatcher.create } } := by
  unfold initTracks at h
  split at h
  · cases h
  · rename_i ptr
    split at h
    · cases h
    · rename_i metadata hmetadata
      split at h
      · cases h
      · rename_i demuxer hinit
        cases h
        exact ⟨ptr, metadata, demuxer, hmetadata, rfl⟩

theorem initTracks_of_ok {ptr : MetaDataPtr} {s : Ingest W R}
    {metadata metadata' : Metadata} {demuxer : RtmpDemuxer} {u : PUnit}
    (hmap : s.maps ptr = some metadata)
    (hinit : RtmpDemuxer.initTracksWithMetadata (metadata, s.source.demuxer) =
      .ok u (metadata', demuxer)) :
    initTracks (some ptr) s = .ok ⟨⟩ { s with source := { s.source with
      demuxer := demuxer
      metaData := some ptr
      dispatcher := some PacketDispatcher.create } } := by
  unfold initTracks
  simp only [hmap, hinit]

theorem test_ok {result : Except String Bool} {b : Bool} {s s' : Ingest W R}
    (h : test result s = .ok b s') : s' = s ∧ result = .ok b := by
  unfold test at h
  split at h
  · cases h
    exact ⟨rfl, rfl⟩
  · cases h

theorem noteConfigFrame_ok {ptr : PacketPtr} {pkt : RtmpPacket}
    {isConfig : Bool} {s s' : Ingest W R}
    (h : noteConfigFrame ptr pkt s = .ok isConfig s') :
    s' = { s with source := { s.source with
      configFrameMap :=
        if pkt.IsConfig then
          setConfigFrame pkt.msgTypeId ptr s.source.configFrameMap
        else s.source.configFrameMap } } := by
  rcases bind_eq_ok h with ⟨tested, t, htest, hkeep⟩
  rcases test_ok htest with ⟨ht, htested⟩
  subst ht
  cases tested with
  | true =>
      have hconfig : pkt.IsConfig := htested
      cases hkeep
      rw [if_pos hconfig]
  | false =>
      cases hkeep
      have hnot : ¬ pkt.IsConfig := by
        intro hconfig
        cases htested.symm.trans hconfig
      rw [if_neg hnot]

theorem registSource_ok {regist : W -> Except String (Option W)} {s s' : Ingest W R}
    {u : PUnit} (h : registSource regist s = .ok u s') :
    s' = { s with
      registry := s'.registry
      source := { s.source with isRegistered := s'.source.isRegistered } } := by
  unfold registSource at h
  split at h
  · cases h
    rfl
  · cases h
    rfl
  · cases h

/-- A new source is registered when the call returns. -/
theorem registSource_new {regist : W -> Except String W} {s s' : Ingest W R}
    {u : PUnit} (h : registSource (registNew regist) s = .ok u s') :
    s'.source.isRegistered = true := by
  unfold registSource registNew at h
  cases hregist : regist s.registry with
  | ok registry =>
      rw [hregist] at h
      cases h
      rfl
  | error what =>
      rw [hregist] at h
      cases h

theorem registOrReturn_ok {regist : W -> Except String (Option W)} {pkt : RtmpPacket}
    {isConfig : Bool} {isIdr : Option Bool} {s s' : Ingest W R}
    (h : registOrReturn regist pkt isConfig s = .ok isIdr s') :
    s' = { s with
      registry := s'.registry
      source := { s.source with isRegistered := s'.source.isRegistered } } ∧
      forall b, isIdr = some b -> pkt.isVideoKeyframe = .ok b := by
  have hflag : forall t : Ingest W R,
      (do return some (<- test pkt.isVideoKeyframe) : Call W R (Option Bool)) t =
          .ok isIdr s' ->
        s' = t ∧ forall b, isIdr = some b -> pkt.isVideoKeyframe = .ok b := by
    intro t ht
    rcases bind_eq_ok ht with ⟨flag, t', htest, hreturn⟩
    rcases test_ok htest with ⟨ht', hkey⟩
    cases hreturn
    constructor
    · exact ht'
    · intro b hb
      cases hb
      exact hkey
  unfold registOrReturn at h
  rcases bind_eq_ok h with ⟨current, t, hget, hbranch⟩
  cases hget
  split_ifs at hbranch
  · rcases hflag s hbranch with ⟨hs', hkey⟩
    rw [hs']
    exact ⟨rfl, hkey⟩
  · cases hbranch
    exact ⟨rfl, fun b hb => by cases hb⟩
  · rcases bind_eq_ok hbranch with ⟨u, t, hregist, hend⟩
    rcases hflag t hend with ⟨hs', hkey⟩
    have ht := registSource_ok hregist
    subst hs'
    constructor
    · rw [ht]
    · exact hkey

theorem processed_isConfig (pkt : RtmpPacket) :
    pkt.processed.IsConfig <-> pkt.IsConfig := by
  unfold RtmpPacket.IsConfig
  rw [pkt.processed_isConfigFrame]

/-- What a call that returns has found, and the calls it has made with that. -/
theorem acceptPacket_parts {regist : W -> Except String (Option W)}
    {h264DecSeqParameterSet : Bytes -> Bool} {ptr : PacketPtr}
    {isIdr : Option Bool} {s s' : Ingest W R}
    (h : acceptPacket regist h264DecSeqParameterSet ptr s = .ok isIdr s') :
    exists pkt demuxer trackStamps isConfig t, s.packets[ptr]? = some pkt ∧
      (pkt.msgTypeId = msgAudio ∨ pkt.msgTypeId = msgVideo) ∧
      noteConfigFrame ptr pkt.processed { s with
        packets := s.packets.set ptr pkt.processed
        source := { s.source with
          demuxer := demuxer
          trackStamps := trackStamps } } = .ok isConfig t ∧
      registOrReturn regist pkt.processed isConfig t = .ok isIdr s' := by
  rcases bind_eq_ok h with ⟨pkt, s₁, hcheck, h₁⟩
  rcases checkPacket_ok hcheck with ⟨hs₁, hfound, htype⟩
  rcases bind_eq_ok h₁ with ⟨captured, s₂, hdemux, h₂⟩
  rcases demux_ok hdemux with ⟨hcaptured, demuxer, hs₂⟩
  rcases bind_eq_ok h₂ with ⟨processed, s₃, hupdate, h₃⟩
  cases hupdate
  have hprocessed : captured.size = pkt.processed := by
    rw [hcaptured]
    rfl
  rw [hprocessed] at h₃
  rcases bind_eq_ok h₃ with ⟨isConfig, s₄, hnote, hregist⟩
  rw [hs₂, hs₁] at hnote
  simp only [List.set_set] at hnote
  exact ⟨pkt, demuxer, _, isConfig, s₄, hfound, htype, hnote, hregist⟩

theorem acceptPacket_ok {regist : W -> Except String (Option W)}
    {h264DecSeqParameterSet : Bytes -> Bool} {ptr : PacketPtr}
    {isIdr : Option Bool} {s s' : Ingest W R}
    (h : acceptPacket regist h264DecSeqParameterSet ptr s = .ok isIdr s') :
    exists pkt, Accepted ptr pkt s s' isIdr := by
  rcases acceptPacket_parts h with
    ⟨pkt, demuxer, trackStamps, isConfig, t, hfound, htype, hnote, hregist⟩
  have ht := noteConfigFrame_ok hnote
  rcases registOrReturn_ok hregist with ⟨hs', hkey⟩
  refine ⟨pkt, hfound, htype, ?_, ?_, ?_, ?_, ?_, ?_⟩
  · rw [hs', ht]
  · rw [hs', ht]
  · rw [hs', ht]
  · rw [hs', ht]
  · rw [hs', ht]
    simp only [processed_isConfig]
    rfl
  · intro b hb
    rw [← pkt.processed_isVideoKeyframe]
    exact hkey b hb

/-- A packet is accepted behind the check of the dispatcher. -/
theorem acceptPacket_dispatcher {regist : W -> Except String (Option W)}
    {h264DecSeqParameterSet : Bytes -> Bool} {ptr : PacketPtr}
    {isIdr : Option Bool} {s s' : Ingest W R}
    (h : acceptPacket regist h264DecSeqParameterSet ptr s = .ok isIdr s') :
    s'.source.dispatcher ≠ none := by
  rcases acceptPacket_ok h with ⟨pkt, haccepted⟩
  rw [haccepted.dispatcher_eq]
  rcases bind_eq_ok h with ⟨checked, t, hcheck, _⟩
  intro hnone
  unfold checkPacket at hcheck
  rw [hnone] at hcheck
  split at hcheck
  · cases hcheck
  · split_ifs at hcheck with _ hsome
    exact hsome rfl

theorem noteConfigFrame_result {ptr : PacketPtr} {pkt : RtmpPacket}
    {isConfig : Bool} {s s' : Ingest W R}
    (h : noteConfigFrame ptr pkt s = .ok isConfig s') :
    isConfig = decide pkt.IsConfig := by
  rcases bind_eq_ok h with ⟨tested, t, htest, hkeep⟩
  have htested := (test_ok htest).2
  cases tested with
  | true =>
      cases hkeep
      have hconfig : pkt.IsConfig := htested
      exact (decide_eq_true hconfig).symm
  | false =>
      cases hkeep
      have hnot : ¬ pkt.IsConfig := by
        intro hconfig
        cases htested.symm.trans hconfig
      exact (decide_eq_false hnot).symm

/-- What `process_av_packet` makes of a packet: a config frame that comes before
the source is registered is kept back, and every other packet is passed on. -/
inductive PassedOn (pkt : RtmpPacket) (s s' : Ingest W R) :
    Option Bool -> Prop where
  | keptBack (hconfig : pkt.IsConfig)
      (hbefore : s.source.isRegistered = false)
      (hafter : s'.source.isRegistered = false) : PassedOn pkt s s' none
  | passed (hregist : s.source.isRegistered = true ∨ ¬ pkt.IsConfig)
      (hafter : s'.source.isRegistered = true) :
      PassedOn pkt s s' (some (decide pkt.IsKeyframe))

theorem registOrReturn_passedOn {regist : W -> Except String W}
    {pkt : RtmpPacket} {isIdr : Option Bool} {s s' : Ingest W R}
    (h : registOrReturn (registNew regist) pkt (decide pkt.IsConfig) s =
      .ok isIdr s') :
    PassedOn pkt s s' isIdr := by
  have hflag : forall t : Ingest W R,
      (do return some (<- test pkt.isVideoKeyframe) : Call W R (Option Bool)) t =
          .ok isIdr s' ->
        s' = t ∧ isIdr = some (decide pkt.IsKeyframe) := by
    intro t ht
    rcases bind_eq_ok ht with ⟨flag, t', htest, hreturn⟩
    rcases test_ok htest with ⟨ht', hkey⟩
    cases hreturn
    rw [pkt.isKeyframe_eq hkey]
    exact ⟨ht', rfl⟩
  unfold registOrReturn at h
  rcases bind_eq_ok h with ⟨current, t, hget, hbranch⟩
  cases hget
  split_ifs at hbranch with hregistered hconfig
  · rcases hflag s hbranch with ⟨hs', hidr⟩
    rw [hidr]
    refine .passed (Or.inl hregistered) ?_
    rw [hs']
    exact hregistered
  · cases hbranch
    have hbefore := Bool.not_eq_true _ ▸ hregistered
    exact .keptBack (of_decide_eq_true hconfig) hbefore hbefore
  · rcases bind_eq_ok hbranch with ⟨u, t, hregist, hend⟩
    rcases hflag t hend with ⟨hs', hidr⟩
    rw [hidr]
    refine .passed (Or.inr fun h => hconfig (decide_eq_true h)) ?_
    rw [hs']
    exact registSource_new hregist

theorem acceptPacket_passedOn {regist : W -> Except String W}
    {h264DecSeqParameterSet : Bytes -> Bool} {ptr : PacketPtr}
    {pkt : RtmpPacket} {isIdr : Option Bool} {s s' : Ingest W R}
    (hpkt : s.packets[ptr]? = some pkt)
    (h : acceptPacket (registNew regist) h264DecSeqParameterSet ptr s =
      .ok isIdr s') :
    PassedOn pkt s s' isIdr := by
  rcases acceptPacket_parts h with
    ⟨found, demuxer, trackStamps, isConfig, t, hfound, _, hnote, hregist⟩
  cases hpkt.symm.trans hfound
  have ht := noteConfigFrame_ok hnote
  rw [noteConfigFrame_result hnote] at hregist
  have hkey : pkt.processed.IsKeyframe <-> pkt.IsKeyframe := by
    unfold RtmpPacket.IsKeyframe
    rw [pkt.processed_isVideoKeyframe]
  have hbefore : t.source.isRegistered = s.source.isRegistered := by
    rw [ht]
  cases registOrReturn_passedOn hregist with
  | keptBack hkept hfalse hafter =>
      exact .keptBack ((processed_isConfig pkt).mp hkept) (hbefore ▸ hfalse)
        hafter
  | passed hreason hafter =>
      simp only [hkey]
      refine .passed ?_ hafter
      rw [← hbefore, ← processed_isConfig]
      exact hreason

end Accepted

/-!
## What a call does to the registry
-/

section Enrolled

variable {W R : Type}

/-- Either the call has nothing to do with the registry, or it has registered
the source. -/
def Enrolled (regist : W -> Except String (Option W)) (s s' : Ingest W R) : Prop :=
  (s'.registry = s.registry ∧
      s'.source.isRegistered = s.source.isRegistered) ∨
    (s.source.isRegistered = false ∧ s'.source.isRegistered = true ∧
      regist s.registry = .ok (some s'.registry))

variable {regist : W -> Except String (Option W)}

instance : Std.Refl (Enrolled (R := R) regist) :=
  ⟨fun _ => Or.inl ⟨rfl, rfl⟩⟩

instance : IsTrans (Ingest W R) (Enrolled regist) := by
  constructor
  rintro s t u (⟨hregistry, hflag⟩ | ⟨hbefore, hafter, hregist⟩) hnext
  · unfold Enrolled at hnext ⊢
    rw [hregistry, hflag] at hnext
    exact hnext
  · rcases hnext with ⟨hregistry, hflag⟩ | ⟨hfalse, _⟩
    · right
      refine ⟨hbefore, hflag.trans hafter, ?_⟩
      rw [hregist, hregistry]
    · cases hafter.symm.trans hfalse

theorem test_leads (result : Except String Bool) :
    Leads (Enrolled (R := R) regist) (test result) := by
  intro s
  unfold test
  cases result with
  | ok b => exact Std.Refl.refl s
  | error what => exact Std.Refl.refl s

theorem checkPacket_leads (ptr : PacketPtr) :
    Leads (Enrolled (R := R) regist) (checkPacket ptr) := by
  intro s
  have hsame : resultState (checkPacket ptr s) = s := by
    unfold checkPacket
    split
    · rfl
    · split_ifs <;> rfl
  rw [hsame]
  exact Std.Refl.refl s

theorem demux_leads (h264DecSeqParameterSet : Bytes -> Bool) (ptr : PacketPtr)
    (pkt : RtmpPacket) :
    Leads (Enrolled (R := R) regist) (demux h264DecSeqParameterSet ptr pkt) := by
  intro s
  unfold demux
  dsimp only
  split
  · exact Or.inl ⟨rfl, rfl⟩
  · exact Or.inl ⟨rfl, rfl⟩

theorem updateTrack_leads (ptr : PacketPtr) (pkt : RtmpPacket) :
    Leads (Enrolled (R := R) regist) (updateTrack ptr pkt) :=
  fun _ => Or.inl ⟨rfl, rfl⟩

theorem keepConfigFrame_leads (ptr : PacketPtr) (pkt : RtmpPacket) :
    Leads (Enrolled (R := R) regist) (keepConfigFrame ptr pkt) :=
  fun _ => Or.inl ⟨rfl, rfl⟩

theorem noteConfigFrame_leads (ptr : PacketPtr) (pkt : RtmpPacket) :
    Leads (Enrolled (R := R) regist) (noteConfigFrame ptr pkt) := by
  apply Leads.bind (test_leads _)
  intro isConfig
  cases isConfig with
  | true =>
      apply Leads.bind (keepConfigFrame_leads ptr pkt)
      intro u
      exact Leads.pure true
  | false => exact Leads.pure false

theorem registSource_leads {s : Ingest W R}
    (hnot : s.source.isRegistered = false) :
    Enrolled regist s (resultState (registSource regist s)) := by
  unfold registSource
  split
  · rename_i registry hregistry
    exact Or.inr ⟨hnot, rfl, hregistry⟩
  · exact Std.Refl.refl s
  · exact Std.Refl.refl s

theorem registOrReturn_leads (pkt : RtmpPacket) (isConfig : Bool) :
    Leads (Enrolled (R := R) regist) (registOrReturn regist pkt isConfig) := by
  have hflag : Leads (Enrolled (R := R) regist)
      (do return some (<- test pkt.isVideoKeyframe)) :=
    Leads.bind (test_leads _) fun b => Leads.pure (some b)
  intro s
  change Enrolled regist s (resultState ((if s.source.isRegistered then
      (do return some (<- test pkt.isVideoKeyframe))
    else if isConfig then return none
    else do
      registSource regist
      return some (<- test pkt.isVideoKeyframe) : Call W R (Option Bool)) s))
  split_ifs with hregistered
  · exact hflag s
  · exact Std.Refl.refl s
  · have hnot : s.source.isRegistered = false := Bool.not_eq_true _ ▸ hregistered
    have hregist : Enrolled regist s (resultState (registSource regist s)) :=
      registSource_leads hnot
    change Enrolled regist s (resultState (EStateM.bind (registSource regist)
      (fun _ => (do return some (<- test pkt.isVideoKeyframe) :
        Call W R (Option Bool))) s))
    unfold EStateM.bind
    split
    · rename_i u t hresult
      rw [hresult] at hregist
      exact IsTrans.trans _ _ _ hregist (hflag t)
    · rename_i e t hresult
      rw [hresult] at hregist
      exact hregist

theorem distribute_leads [DecidableEq R] (ptr : PacketPtr) (isIdr : Bool) :
    Leads (Enrolled (R := R) regist) (distribute ptr isIdr) := by
  intro s
  unfold distribute
  split
  · exact Std.Refl.refl s
  · exact Or.inl ⟨rfl, rfl⟩

/-- A call registers the source at most, also when it throws. -/
theorem processAvPacket_leads [DecidableEq R]
    (h264DecSeqParameterSet : Bytes -> Bool) (ptr : PacketPtr) :
    Leads (Enrolled (R := R) regist)
      (processAvPacket regist h264DecSeqParameterSet ptr) := by
  apply Leads.bind
  · apply Leads.bind (checkPacket_leads ptr)
    intro pkt
    apply Leads.bind (demux_leads h264DecSeqParameterSet ptr pkt)
    intro pkt'
    apply Leads.bind (updateTrack_leads ptr pkt')
    intro pkt''
    apply Leads.bind (noteConfigFrame_leads ptr pkt'')
    intro isConfig
    exact registOrReturn_leads pkt'' isConfig
  · intro isIdr
    cases isIdr with
    | none => exact Leads.pure _
    | some isIdr => exact distribute_leads ptr isIdr

theorem initTracks_leads (metaData : Option MetaDataPtr) :
    Leads (Enrolled (R := R) regist) (initTracks metaData) := by
  intro s
  unfold initTracks
  split
  · exact Std.Refl.refl s
  · split
    · exact Std.Refl.refl s
    · split
      · exact Or.inl ⟨rfl, rfl⟩
      · exact Or.inl ⟨rfl, rfl⟩

end Enrolled

/-!
## The config frames of a sequence of messages
-/

/-- The last message of a type that is a config frame, by its position. -/
def LatestConfig (msgs : List RtmpPacket) (msgTypeId : Nat) (ptr : PacketPtr) :
    Prop :=
  exists pkt, msgs[ptr]? = some pkt ∧ pkt.msgTypeId = msgTypeId ∧
    pkt.IsConfig ∧
      forall later other, ptr < later -> msgs[later]? = some other ->
        other.IsConfig -> other.msgTypeId ≠ msgTypeId

/-- The entries are the latest config frames, each of them once. -/
structure ConfigFrames (msgs : List RtmpPacket)
    (entries : List (Nat × PacketPtr)) : Prop where
  nodup : entries.Nodup
  mem_iff : forall msgTypeId ptr,
    (msgTypeId, ptr) ∈ entries <-> LatestConfig msgs msgTypeId ptr

theorem getElem?_concat_eq_some {msgs : List RtmpPacket}
    {pkt other : RtmpPacket} {i : Nat} :
    (msgs ++ [pkt])[i]? = some other <->
      msgs[i]? = some other ∨ (i = msgs.length ∧ other = pkt) := by
  rw [List.getElem?_append]
  split
  · rename_i hlt
    constructor
    · exact Or.inl
    · intro h
      exact h.resolve_right fun hlast => Nat.ne_of_lt hlt hlast.1
  · rename_i hge
    rw [List.getElem?_eq_none (Nat.le_of_not_lt hge),
      List.getElem?_singleton]
    constructor
    · intro h
      split at h
      · cases h
        exact Or.inr ⟨by omega, rfl⟩
      · cases h
    · rintro (h | ⟨hlast, hpkt⟩)
      · cases h
      · rw [hlast, hpkt, Nat.sub_self, if_pos rfl]

theorem latestConfig_concat {msgs : List RtmpPacket} {pkt : RtmpPacket}
    {msgTypeId ptr : Nat} :
    LatestConfig (msgs ++ [pkt]) msgTypeId ptr <->
      (pkt.IsConfig ∧ pkt.msgTypeId = msgTypeId ∧ ptr = msgs.length) ∨
        (LatestConfig msgs msgTypeId ptr ∧
          (pkt.IsConfig -> pkt.msgTypeId ≠ msgTypeId)) := by
  constructor
  · rintro ⟨found, hfound, htype, hconfig, hlatest⟩
    rcases getElem?_concat_eq_some.mp hfound with hold | ⟨hptr, hnew⟩
    · right
      have hlt := (List.getElem?_eq_some_iff.mp hold).1
      constructor
      · refine ⟨found, hold, htype, hconfig, ?_⟩
        intro later other hlater hother
        exact hlatest later other hlater
          (getElem?_concat_eq_some.mpr (Or.inl hother))
      · exact hlatest msgs.length pkt hlt
          (getElem?_concat_eq_some.mpr (Or.inr ⟨rfl, rfl⟩))
    · left
      rw [hnew] at htype hconfig
      exact ⟨hconfig, htype, hptr⟩
  · rintro (⟨hconfig, htype, hptr⟩ | ⟨⟨found, hold, htype, hconfig, hlatest⟩, hpkt⟩)
    · refine ⟨pkt, getElem?_concat_eq_some.mpr (Or.inr ⟨hptr, rfl⟩), htype,
        hconfig, ?_⟩
      intro later other hlater hother
      rw [hptr] at hlater
      rcases getElem?_concat_eq_some.mp hother with hold | ⟨hlast, _⟩
      · have hlt := (List.getElem?_eq_some_iff.mp hold).1
        exact absurd hlt (Nat.lt_asymm hlater)
      · exact absurd hlast (Nat.ne_of_gt hlater)
    · refine ⟨found, getElem?_concat_eq_some.mpr (Or.inl hold), htype, hconfig, ?_⟩
      intro later other hlater hother
      rcases getElem?_concat_eq_some.mp hother with hold' | ⟨_, hnew⟩
      · exact hlatest later other hlater hold'
      · rw [hnew]
        exact hpkt

/-- Where there is a config frame of a type, there is a latest one. -/
theorem exists_latestConfig {msgs : List RtmpPacket} {msgTypeId : Nat} :
    (exists ptr, LatestConfig msgs msgTypeId ptr) <->
      exists (i : Nat) (config : RtmpPacket), msgs[i]? = some config ∧
        config.msgTypeId = msgTypeId ∧ config.IsConfig := by
  constructor
  · rintro ⟨ptr, config, hconfig, htype, hisConfig, _⟩
    exact ⟨ptr, config, hconfig, htype, hisConfig⟩
  · induction msgs using List.reverseRecOn with
    | nil =>
        rintro ⟨i, config, hconfig, _⟩
        cases hconfig
    | append_singleton msgs pkt ih =>
        rintro ⟨i, config, hconfig, htype, hisConfig⟩
        by_cases hpkt : pkt.IsConfig ∧ pkt.msgTypeId = msgTypeId
        · exact ⟨msgs.length, latestConfig_concat.mpr
            (Or.inl ⟨hpkt.1, hpkt.2, rfl⟩)⟩
        · rcases getElem?_concat_eq_some.mp hconfig with hold | ⟨_, hnew⟩
          · rcases ih ⟨i, config, hold, htype, hisConfig⟩ with ⟨ptr, hptr⟩
            exact ⟨ptr, latestConfig_concat.mpr
              (Or.inr ⟨hptr, fun hc ht => hpkt ⟨hc, ht⟩⟩)⟩
          · rw [hnew] at htype hisConfig
            exact absurd ⟨hisConfig, htype⟩ hpkt

/-- The map keeps up with the messages. -/
theorem ConfigFrames.concat {msgs : List RtmpPacket}
    {entries : List (Nat × PacketPtr)} (h : ConfigFrames msgs entries)
    (pkt : RtmpPacket) :
    ConfigFrames (msgs ++ [pkt])
      (if pkt.IsConfig then setConfigFrame pkt.msgTypeId msgs.length entries
        else entries) := by
  split
  · rename_i hconfig
    constructor
    · refine List.nodup_cons.mpr ⟨?_, h.nodup.filter _⟩
      intro hmem
      have htype := (List.mem_filter.mp hmem).2
      simp at htype
    · intro msgTypeId ptr
      rw [latestConfig_concat, setConfigFrame, List.mem_cons, List.mem_filter,
        h.mem_iff, Prod.mk.injEq]
      simp only [hconfig, true_and, forall_const, decide_not, Bool.not_eq_true',
        decide_eq_false_iff_not, eq_comm (a := msgTypeId)]
  · rename_i hconfig
    constructor
    · exact h.nodup
    · intro msgTypeId ptr
      rw [latestConfig_concat, h.mem_iff]
      simp [hconfig]

end RtmpMediaSource

/-!
## Sample input
-/

/-- An audio packet that holds nothing but its payload. -/
def audioPacket (timeStamp : Nat) (payload : Bytes) : RtmpPacket where
  chunkStreamId := 6
  msgStreamId := 1
  msgLength := payload.length
  msgTypeId := msgAudio
  tsDelta := 0
  timeStamp := timeStamp
  isAbsStamp := true
  buf := {
    storage := payload
    capacity := payload.length
    readIndex := 0
    writeIndex := payload.length }
  pktHeaderLength := 0

def videoPacket (timeStamp : Nat) (payload : Bytes) : RtmpPacket :=
  { audioPacket timeStamp payload with chunkStreamId := 7, msgTypeId := msgVideo }

/-- The metadata of a publisher that sends AAC and no video. -/
def audioMetadata : Metadata :=
  let zero : Any := some (.double 0)
  [(ascii ['d', 'u', 'r', 'a', 't', 'i', 'o', 'n'], zero),
    (ascii ['a', 'u', 'd', 'i', 'o', 's', 'a', 'm', 'p', 'l', 'e', 'r', 'a', 't',
      'e'], zero),
    (ascii ['a', 'u', 'd', 'i', 'o', 's', 'a', 'm', 'p', 'l', 'e', 's', 'i', 'z',
      'e'], zero),
    (ascii ['s', 't', 'e', 'r', 'e', 'o'], some (.bool true)),
    (ascii ['v', 'i', 'd', 'e', 'o', 'c', 'o', 'd', 'e', 'c', 'i', 'd'], zero),
    (ascii ['a', 'u', 'd', 'i', 'o', 'c', 'o', 'd', 'e', 'c', 'i', 'd'],
      some (.double 0x4024000000000000)),
    (ascii ['a', 'u', 'd', 'i', 'o', 'd', 'a', 't', 'a', 'r', 'a', 't', 'e'],
      zero),
    (ascii ['v', 'i', 'd', 'e', 'o', 'd', 'a', 't', 'a', 'r', 'a', 't', 'e'],
      zero)]

/-- The same with H.264 besides. -/
def avMetadata : Metadata :=
  audioMetadata.map fun entry =>
    if entry.1 =
        ascii ['v', 'i', 'd', 'e', 'o', 'c', 'o', 'd', 'e', 'c', 'i', 'd'] then
      (entry.1, some (.double 0x401C000000000000))
    else entry

instance resultDecidableEq {ε σ α : Type} [DecidableEq ε] [DecidableEq σ]
    [DecidableEq α] : DecidableEq (EStateM.Result ε σ α)
  | .ok a s, .ok b t =>
      decidable_of_iff (a = b ∧ s = t) (by rw [EStateM.Result.ok.injEq])
  | .error e s, .error f t =>
      decidable_of_iff (e = f ∧ s = t) (by rw [EStateM.Result.error.injEq])
  | .ok _ _, .error _ _ => isFalse nofun
  | .error _ _, .ok _ _ => isFalse nofun

/-- The tracks that these publishers announce. -/
theorem initTracksWithMetadata_announced :
    RtmpDemuxer.initTracksWithMetadata (audioMetadata, {}) =
        .ok ⟨⟩ (audioMetadata,
          { audioRtmpDecoder := some { track := some {} } }) ∧
      RtmpDemuxer.initTracksWithMetadata (avMetadata, {}) =
        .ok ⟨⟩ (avMetadata,
          { audioRtmpDecoder := some { track := some {} }
            videoRtmpDecoder := some { track := some {} } }) := by
  decide +kernel

end Rtmp
end Streaming
