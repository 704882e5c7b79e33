import Streaming.Flv.LateJoin
import Streaming.Rtmp.HandedOver
import Streaming.Rtmp.KeptMetadata

/-!
# From a publisher to its viewers

The bytes that a publisher sends on its connection, and the bytes that the FLV
clients of its source are sent.  The other threads run between the sections of
the publisher's calls, and what they do there is a schedule.
-/

namespace Streaming
namespace Flv

open Foundation Media Network Rtmp RtmpMediaSource Util

/-!
## The server behind a connection
-/

/-- A call of another thread. -/
inductive Visit (R : Type) where
  | startMuxing (r : R) (startPts : Nat) (order : List (Nat × PacketPtr))
  | regist (r : R)
  | leave (r : R)

def Visit.event {R : Type} : Visit R -> RelayEvent R
  | startMuxing r startPts order => .startMuxing r startPts order
  | regist r => .fanout (.regist r)
  | leave r => .fanout (.leave r)

structure Stage (C W R : Type) where
  /-- What the handling of commands works on. -/
  rest : C
  /-- `meta_data_` of the connection. -/
  metaData : Metadata := []
  /-- `rtmp_source_`, with the viewers that have started on it. -/
  relay : Relay W R
  /-- What the other threads try, one part behind each section. -/
  schedule : List (List (Visit R)) := []

/-- The map of the connection has these entries from now on.  It is the map that
the pointer 0 leads to. -/
def Stage.setMetaData {C W R : Type} (stage : Stage C W R)
    (metaData : Metadata) : Stage C W R :=
  { stage with
    metaData := metaData
    relay := { stage.relay with ingest := { stage.relay.ingest with
      maps := Function.update stage.relay.ingest.maps 0 (some metaData) } } }

/-- The parts of the server that are left open. -/
structure Studio (C W R : Type) where
  hasSource : C -> Bool
  canPush : C -> Bool
  /-- `find` and the `try` block of `on_amf_publish`.  The source is a new one, or
  one that has been there before. -/
  takeSource : C -> MediaInfo -> Except Bytes (Option (Relay W R)) × C
  regist : W -> Except String W
  h264DecSeqParameterSet : Bytes -> Bool

/-- What a call of `distribute` does with a packet. -/
def distribution {R : Type} (ptr : PacketPtr) :
    Option Bool -> List (FanoutEvent PacketPtr R)
  | none => []
  | some isIdr => [.dispatchOld ptr isIdr, .cachePacket, .mergeClients]

namespace Studio

section Calls

variable {C W R : Type} [DecidableEq R] (studio : Studio C W R)

/-- A call that is not possible yet is left out. -/
def attempt (relay : Relay W R) (e : RelayEvent R) : Relay W R :=
  (relay.step studio.regist studio.h264DecSeqParameterSet e).getD relay

/-- The other threads have their turn. -/
def turn (stage : Stage C W R) : Stage C W R :=
  { stage with
    relay := (stage.schedule.headD []).foldl
      (fun relay visit => studio.attempt relay visit.event) stage.relay
    schedule := stage.schedule.tail }

def proceed (stage : Stage C W R) (e : FanoutEvent PacketPtr R) : Stage C W R :=
  studio.turn { stage with relay := studio.attempt stage.relay (.fanout e) }

def takeSourceOn (stage : Stage C W R) (info : MediaInfo) :
    Except Bytes PUnit × Stage C W R :=
  match studio.takeSource stage.rest info with
  | (.ok none, rest) =>
      (.ok ⟨⟩, { stage with
        rest := rest
        relay := Relay.start { registry := stage.relay.ingest.registry } })
  | (.ok (some relay), rest) =>
      (.ok ⟨⟩, { stage with rest := rest, relay := relay })
  | (.error what, rest) => (.error what, { stage with rest := rest })

/-- `on_process_metadata`.  The source points to the map of the connection. -/
def onProcessMetadata (stage : Stage C W R) (pkt : RtmpPacket) :
    Except (Fault BadPointer) PUnit × Stage C W R :=
  match Rtmp.onProcessMetadata (pkt.buf, []) with
  | .error what (_, entries) =>
      (.error (.exception what),
        stage.setMetaData (entries.foldl Server.emplace stage.metaData))
  | .ok _ (_, entries) =>
      let stage :=
        stage.setMetaData (entries.foldl Server.emplace stage.metaData)
      if studio.hasSource stage.rest then
        match initTracks (some 0) stage.relay.ingest with
        | .error e ingest =>
            (.error e, { stage with
              relay := { stage.relay with ingest := ingest } })
        | .ok _ ingest =>
            (.ok ⟨⟩, studio.turn { stage with
              relay := { stage.relay with ingest := ingest } })
      else
        (.error (.exception "cannot send rtmp meta data before publish cmd"),
          stage)

/-- `process_av_packet`, section by section. -/
def processAvPacket (stage : Stage C W R) (pkt : RtmpPacket) :
    Except (Fault BadPointer) PUnit × Stage C W R :=
  let ptr := stage.relay.ingest.packets.length
  match acceptPacket (registNew studio.regist) studio.h264DecSeqParameterSet ptr
      { stage.relay.ingest with
        packets := stage.relay.ingest.packets ++ [pkt] } with
  | .error e ingest =>
      (.error e, { stage with
        relay := { stage.relay with ingest := ingest } })
  | .ok isIdr ingest =>
      let accepted := { stage with
        relay := { stage.relay with
          ingest := ingest
          pending := isIdr.map fun isIdr => (ptr, isIdr) } }
      (.ok ⟨⟩, (distribution ptr isIdr).foldl studio.proceed
        (studio.turn accepted))

def sources : Sources (Stage C W R) where
  canPush := fun stage => studio.canPush stage.rest
  takeSource := studio.takeSourceOn
  onProcessMetadata := studio.onProcessMetadata
  processAvPacket := studio.processAvPacket

end Calls

end Studio

/-!
## The source on the air
-/

section Stands

variable {C W R : Type} [DecidableEq R] {studio : Studio C W R}
  {visits : List (Visit R)} {msgs : List RtmpPacket} {relay relay' : Relay W R}

/-- The tracks of a new source have been initialized, and these messages have
come in since.  No muxer has gone but on one of the visits. -/
inductive OnTheAir (studio : Studio C W R) (visits : List (Visit R))
    (msgs : List RtmpPacket) (relay : Relay W R) : Prop
  | intro {metaData : Option MetaDataPtr}
      {maps : MetaDataPtr -> Option Metadata} {registry : W}
      {ingest : Ingest W R} {u : PUnit} {es : List (RelayEvent R)}
      (hinit : initTracks metaData { registry := registry, maps := maps } =
        .ok u ingest)
      (hrun : run (Relay.step studio.regist studio.h264DecSeqParameterSet)
        (Relay.start ingest) es = some relay)
      (hmessages : messages es = msgs)
      (hleft : forall r, .leave r ∈ fanoutEvents es -> .leave r ∈ visits)

theorem OnTheAir.step (h : OnTheAir studio visits msgs relay) {e : RelayEvent R}
    (hleave : forall r, e = .fanout (.leave r) -> .leave r ∈ visits)
    (hstep : relay.step studio.regist studio.h264DecSeqParameterSet e =
      some relay') : OnTheAir studio visits (msgs ++ messages [e]) relay' := by
  rcases h with ⟨hinit, hrun, hmessages, hleft⟩
  refine .intro hinit (run_snoc.mpr ⟨relay, hrun, hstep⟩) ?_ ?_
  · rw [messages_append, hmessages]
  · intro r hr
    rw [mem_fanoutEvents, List.mem_append, List.mem_singleton] at hr
    rcases hr with hbefore | hnow
    · exact hleft r (mem_fanoutEvents.mpr hbefore)
    · exact hleave r hnow.symm

/-- The publisher stands here in its calls. -/
structure Stands (studio : Studio C W R) (visits : List (Visit R))
    (msgs : List RtmpPacket) (phase : Phase PacketPtr)
    (pending : Option (PacketPtr × Bool)) (stage : Stage C W R) : Prop where
  onTheAir : OnTheAir studio visits msgs stage.relay
  phase_eq : stage.relay.phase = phase
  pending_eq : stage.relay.pending = pending
  scheduled : forall visit, visit ∈ stage.schedule.flatten -> visit ∈ visits

variable {phase phase' : Phase PacketPtr} {pending : Option (PacketPtr × Bool)}

/-- Other threads do not move the publisher. -/
theorem step_visit {visit : Visit R}
    (h : relay.step studio.regist studio.h264DecSeqParameterSet visit.event =
      some relay') :
    relay'.phase = relay.phase ∧ relay'.pending = relay.pending := by
  have hfanout : forall e : FanoutEvent PacketPtr R, e.packet = none ->
      (forall d f, Fanout.step ⟨d, relay.phase⟩ e = some f ->
        f.phase = relay.phase) ->
      relay.fanout e = some relay' ->
        relay'.phase = relay.phase ∧ relay'.pending = relay.pending := by
    intro e hpacket hphase hstep
    rcases fanout_ok hstep with ⟨s₁, d, f, hprepare, _, hf, _, hrelay'⟩
    have hpending := prepare_pending hprepare
    rw [distributed, List.filterMap_cons_none hpacket] at hpending
    have hhead := congrArg List.head? hpending
    simp only [List.filterMap_nil, List.nil_append, Option.head?_toList] at hhead
    rw [hrelay']
    exact ⟨hphase d f hf, hhead⟩
  cases visit with
  | startMuxing r startPts order =>
      rcases startMuxing_ok h with ⟨_, _, _, _, sent, _, _, _, hrelay'⟩
      rw [hrelay']
      exact ⟨rfl, rfl⟩
  | regist r =>
      refine hfanout (.regist r) rfl ?_ h
      intro d f hf
      cases hf
      rfl
  | leave r =>
      refine hfanout (.leave r) rfl ?_ h
      intro d f hf
      cases hf
      rfl

/-- What the other threads do on a visit. -/
theorem OnTheAir.visit (h : OnTheAir studio visits msgs relay)
    {visit : Visit R} (hvisit : visit ∈ visits) :
    OnTheAir studio visits msgs (studio.attempt relay visit.event) ∧
      (studio.attempt relay visit.event).phase = relay.phase ∧
        (studio.attempt relay visit.event).pending = relay.pending := by
  unfold Studio.attempt
  cases hstep : relay.step studio.regist studio.h264DecSeqParameterSet
      visit.event with
  | none => exact ⟨h, rfl, rfl⟩
  | some relay' =>
      have hleave : forall r, visit.event = .fanout (.leave r) ->
          .leave r ∈ visits := by
        intro r hr
        cases visit with
        | startMuxing other startPts order => cases hr
        | regist other => cases hr
        | leave other =>
            cases hr
            exact hvisit
      have hair := h.step hleave hstep
      have hsilent : messages [visit.event] = [] := by
        cases visit <;> rfl
      rw [hsilent, List.append_nil] at hair
      exact ⟨hair, step_visit hstep⟩

theorem Stands.turn {stage : Stage C W R}
    (h : Stands studio visits msgs phase pending stage) :
    Stands studio visits msgs phase pending (studio.turn stage) := by
  have hflatten : stage.schedule.flatten =
      stage.schedule.headD [] ++ stage.schedule.tail.flatten := by
    cases stage.schedule <;> rfl
  have hhead : forall visit, visit ∈ stage.schedule.headD [] ->
      visit ∈ visits := by
    intro visit hvisit
    apply h.scheduled
    rw [hflatten]
    exact List.mem_append_left _ hvisit
  have htail : forall visit, visit ∈ stage.schedule.tail.flatten ->
      visit ∈ visits := by
    intro visit hvisit
    apply h.scheduled
    rw [hflatten]
    exact List.mem_append_right _ hvisit
  have hvisited : forall (todo : List (Visit R)) (relay : Relay W R),
      (forall visit, visit ∈ todo -> visit ∈ visits) ->
        OnTheAir studio visits msgs relay -> relay.phase = phase ->
          relay.pending = pending ->
            OnTheAir studio visits msgs (todo.foldl
                (fun relay visit => studio.attempt relay visit.event) relay) ∧
              (todo.foldl (fun relay visit => studio.attempt relay visit.event)
                relay).phase = phase ∧
              (todo.foldl (fun relay visit => studio.attempt relay visit.event)
                relay).pending = pending := by
    intro todo
    induction todo with
    | nil => exact fun relay _ hair hphase hpending => ⟨hair, hphase, hpending⟩
    | cons visit todo ih =>
        intro relay htodo hair hphase hpending
        rcases hair.visit (htodo visit List.mem_cons_self) with
          ⟨hair', hphase', hpending'⟩
        exact ih _ (fun other hother => htodo other (List.mem_cons_of_mem _ hother))
          hair' (hphase'.trans hphase) (hpending'.trans hpending)
  rcases hvisited _ stage.relay hhead h.onTheAir h.phase_eq h.pending_eq with
    ⟨hair, hphase, hpending⟩
  exact ⟨hair, hphase, hpending, htail⟩

/-- A section of `distribute` that is the publisher's next one takes place. -/
theorem Stands.proceed {stage : Stage C W R}
    (hmsgs : forall pkt, pkt ∈ msgs -> Receivable pkt)
    (h : Stands studio visits msgs phase pending stage)
    {e : FanoutEvent PacketPtr R} {prepared : Relay W R}
    (hleave : forall r, e ≠ .leave r)
    (hprepare : stage.relay.prepare e = some prepared)
    (hphase : forall d, exists d', Fanout.step ⟨d, phase⟩ e = some ⟨d', phase'⟩) :
    Stands studio visits msgs phase' prepared.pending
      (studio.proceed stage e) := by
  rcases h with ⟨⟨hinit, hrun, hmessages, hleft⟩, hhere, _, hscheduled⟩
  rcases start_invariant hinit with ⟨metadata, hstart⟩
  rw [← hmessages] at hmsgs
  rcases run_invariant hstart hmsgs hrun with ⟨d, hinv⟩
  rcases hphase d with ⟨d', hf⟩
  rw [← hhere] at hf
  rcases fanout_total hinv hmsgs hprepare hf with
    ⟨next, hnext, _, hthere, hpending, _⟩
  have hattempt : studio.attempt stage.relay (.fanout e) = next := by
    unfold Studio.attempt
    show (stage.relay.fanout e).getD stage.relay = next
    rw [hnext, Option.getD_some]
  have hnone : forall r, RelayEvent.fanout e = .fanout (.leave r) ->
      .leave r ∈ visits := by
    intro r hr
    cases hr
    exact absurd rfl (hleave r)
  have hair := OnTheAir.step (.intro hinit hrun hmessages hleft)
    (e := .fanout e) hnone hnext
  have hsilent : messages [RelayEvent.fanout e] = [] := rfl
  rw [hsilent, List.append_nil, ← hattempt] at hair
  rw [← hattempt] at hthere hpending
  exact Stands.turn ⟨hair, hthere, hpending, hscheduled⟩

/-- A call of `distribute` comes to its end. -/
theorem Stands.distribution {stage : Stage C W R} {ptr : PacketPtr}
    {isIdr : Option Bool} (hmsgs : forall pkt, pkt ∈ msgs -> Receivable pkt)
    (h : Stands studio visits msgs .idle (isIdr.map fun isIdr => (ptr, isIdr))
      stage) :
    Stands studio visits msgs .idle none
      ((Flv.distribution ptr isIdr).foldl studio.proceed stage) := by
  cases isIdr with
  | none => exact h
  | some isIdr =>
      have hdispatched := h.proceed hmsgs (e := .dispatchOld ptr isIdr)
        (fun _ => nofun) (if_pos h.pending_eq) fun d => ⟨_, rfl⟩
      have hcached := hdispatched.proceed hmsgs (e := .cachePacket)
        (fun _ => nofun) rfl fun d => ⟨_, rfl⟩
      have hmerged := hcached.proceed hmsgs (e := .mergeClients)
        (fun _ => nofun) rfl fun d => ⟨_, rfl⟩
      rw [hcached.pending_eq, hdispatched.pending_eq] at hmerged
      exact hmerged

/-- A message comes in and is passed on. -/
theorem Stands.processAvPacket {stage stage' : Stage C W R} {pkt : RtmpPacket}
    (hmsgs : forall other, other ∈ msgs ++ [pkt] -> Receivable other)
    (h : Stands studio visits msgs .idle none stage)
    (hprocess : studio.processAvPacket stage pkt = (.ok ⟨⟩, stage')) :
    Stands studio visits (msgs ++ [pkt]) .idle none stage' := by
  unfold Studio.processAvPacket at hprocess
  dsimp only at hprocess
  split at hprocess
  · cases hprocess
  · rename_i isIdr ingest haccept
    rw [← (Prod.mk.inj hprocess).2]
    apply Stands.distribution hmsgs
    apply Stands.turn
    have hreceive : stage.relay.step studio.regist
        studio.h264DecSeqParameterSet (.message pkt) = some { stage.relay with
          ingest := ingest
          pending := isIdr.map fun isIdr =>
            (stage.relay.ingest.packets.length, isIdr) } := by
      show stage.relay.receive _ _ pkt = _
      simp only [Relay.receive, Feed.receive, h.phase_eq, h.pending_eq, haccept,
        Option.map_some]
    have hnone : forall r, RelayEvent.message pkt = .fanout (.leave r) ->
        .leave r ∈ visits := by
      intro r hr
      cases hr
    exact ⟨h.onTheAir.step hnone hreceive, h.phase_eq, rfl, h.scheduled⟩

end Stands

/-!
## A publication
-/

section Publication

variable {C W R : Type} [DecidableEq R] {studio : Studio C W R}
  {visits : List (Visit R)} {stage stage' : Stage C W R} {pkt : RtmpPacket}

/-- The source is a new one, and its tracks have not been initialized. -/
def OffAir (stage : Stage C W R) : Prop :=
  exists registry maps,
    stage.relay = Relay.start { registry := registry, maps := maps }

/-- No source is there already under the name of the stream. -/
def Studio.FindsNone (studio : Studio C W R) : Prop :=
  forall rest info relay rest',
    studio.takeSource rest info ≠ (.ok (some relay), rest')

omit [DecidableEq R] in
theorem takeSourceOn_offAir (hnew : studio.FindsNone) {info : MediaInfo}
    (htake : studio.takeSourceOn stage info = (.ok ⟨⟩, stage')) :
    OffAir stage' ∧ stage'.schedule = stage.schedule := by
  unfold Studio.takeSourceOn at htake
  split at htake
  · cases htake
    exact ⟨⟨_, _, rfl⟩, rfl⟩
  · rename_i relay rest hfound
    exact absurd hfound (hnew _ _ relay rest)
  · cases htake

theorem OffAir.not_pushed (h : OffAir stage) :
    studio.processAvPacket stage pkt ≠ (.ok ⟨⟩, stage') := by
  intro hprocess
  rcases h with ⟨registry, maps, hrelay⟩
  unfold Studio.processAvPacket at hprocess
  dsimp only at hprocess
  split at hprocess
  · cases hprocess
  · rename_i isIdr ingest haccept
    rcases acceptPacket_ok haccept with ⟨_, haccepted⟩
    apply acceptPacket_dispatcher haccept
    rw [haccepted.dispatcher_eq, hrelay]
    rfl

theorem OffAir.described (h : OffAir stage)
    (hscheduled : forall visit, visit ∈ stage.schedule.flatten -> visit ∈ visits)
    (hprocess : studio.onProcessMetadata stage pkt = (.ok ⟨⟩, stage')) :
    Stands studio visits [] .idle none stage' := by
  rcases h with ⟨registry, maps, hrelay⟩
  unfold Studio.onProcessMetadata at hprocess
  split at hprocess
  · cases hprocess
  · rename_i entries _
    have hingest : (stage.setMetaData
        (entries.foldl Server.emplace stage.metaData)).relay =
          Relay.start {
            registry := registry
            maps := Function.update maps 0
              (some (entries.foldl Server.emplace stage.metaData)) } := by
      unfold Stage.setMetaData
      rw [hrelay]
      rfl
    dsimp only at hprocess
    split at hprocess
    · split at hprocess
      · cases hprocess
      · rename_i u ingest hinit
        rw [← (Prod.mk.inj hprocess).2]
        apply Stands.turn
        rw [hingest] at hinit
        have hnobody : forall r,
            .leave r ∈ fanoutEvents ([] : List (RelayEvent R)) ->
              .leave r ∈ visits := by
          intro r hr
          cases hr
        have hair : OnTheAir studio visits [] (Relay.start ingest) :=
          OnTheAir.intro hinit (run_nil _) rfl hnobody
        rw [hingest]
        exact ⟨hair, rfl, rfl, hscheduled⟩
    · cases hprocess

theorem OffAir.announced (h : OffAir stage)
    (hscheduled : forall visit, visit ∈ stage.schedule.flatten -> visit ∈ visits)
    (hdata : IsData pkt.msgTypeId)
    (hmoves : studio.sources.Moves stage pkt stage') :
    Stands studio visits [] .idle none stage' := by
  cases hmoves with
  | untouched _ hnot _ => exact absurd hdata hnot
  | published hcommand _ _ => exact absurd hcommand hdata.not_command
  | described _ hmetadata => exact h.described hscheduled hmetadata
  | pushed hmedia _ => exact absurd hmedia hdata.not_media

/-- The audio and video messages. -/
def media (pkts : List RtmpPacket) : List RtmpPacket :=
  pkts.filter fun pkt => decide (IsMedia pkt.msgTypeId)

theorem OffAir.moved {pkts : List RtmpPacket} (hnew : studio.FindsNone)
    (hpkts : forall pkt, pkt ∈ pkts -> ¬ IsData pkt.msgTypeId)
    (h : studio.sources.Moved stage pkts stage') (hstage : OffAir stage) :
    OffAir stage' ∧ stage'.schedule = stage.schedule ∧ media pkts = [] := by
  induction h with
  | nil => exact ⟨hstage, rfl, rfl⟩
  | @cons _ _ _ pkt pkts hfirst _ ih =>
      have hnodata := hpkts pkt List.mem_cons_self
      have hlater := ih fun other hother =>
        hpkts other (List.mem_cons_of_mem pkt hother)
      have hskip : ¬ IsMedia pkt.msgTypeId -> media (pkt :: pkts) = media pkts :=
        fun hmedia => List.filter_cons_of_neg (by simpa using hmedia)
      cases hfirst with
      | untouched hmedia _ hworld =>
          subst hworld
          rw [hskip hmedia]
          exact hlater hstage
      | published hcommand info htake =>
          rcases takeSourceOn_offAir hnew htake with ⟨hoff, hschedule⟩
          rw [hskip (by rcases hcommand with h | h <;> rw [h] <;> decide),
            ← hschedule]
          exact hlater hoff
      | described hdata _ => exact absurd hdata hnodata
      | pushed _ hpush => exact absurd hpush hstage.not_pushed

theorem Stands.moved {msgs pkts : List RtmpPacket}
    (hpkts : forall pkt, pkt ∈ pkts ->
      ¬ IsData pkt.msgTypeId ∧ ¬ IsCommand pkt.msgTypeId)
    (hmsgs : forall pkt, pkt ∈ msgs ++ media pkts -> Receivable pkt)
    (h : studio.sources.Moved stage pkts stage')
    (hstage : Stands studio visits msgs .idle none stage) :
    Stands studio visits (msgs ++ media pkts) .idle none stage' := by
  induction h generalizing msgs with
  | nil =>
      rw [media, List.filter_nil, List.append_nil]
      exact hstage
  | @cons _ _ _ pkt pkts hfirst _ ih =>
      have hother := hpkts pkt List.mem_cons_self
      have hlater : forall other, other ∈ pkts ->
          ¬ IsData other.msgTypeId ∧ ¬ IsCommand other.msgTypeId :=
        fun other hmem => hpkts other (List.mem_cons_of_mem pkt hmem)
      cases hfirst with
      | untouched hmedia _ hworld =>
          have hskip : media (pkt :: pkts) = media pkts :=
            List.filter_cons_of_neg (by simpa using hmedia)
          rw [hskip] at hmsgs ⊢
          exact ih hlater hmsgs (hworld ▸ hstage)
      | published hcommand _ _ => exact absurd hcommand hother.2
      | described hdata _ => exact absurd hdata hother.1
      | pushed hmedia hpush =>
          have htake : msgs ++ media (pkt :: pkts) =
              (msgs ++ [pkt]) ++ media pkts := by
            rw [media, List.filter_cons_of_pos (by simpa using hmedia),
              List.append_assoc]
            rfl
          rw [htake] at hmsgs ⊢
          refine ih hlater hmsgs (hstage.processAvPacket ?_ hpush)
          exact fun other hmem => hmsgs other (List.mem_append_left _ hmem)

end Publication

/-!
## What a viewer gets
-/

section Viewing

variable {C W R : Type} [DecidableEq R] {studio : Studio C W R}
  {msgs : List RtmpPacket}

/-- Where a viewer may begin: at the first message that is passed on, at a key
frame, or in the middle of more messages than the cache holds. -/
def Begins (before seen : List RtmpPacket) : Prop :=
  (forall pkt, pkt ∈ before -> pkt.IsConfig) ∨
    (exists pkt pkts, seen = pkt :: pkts ∧ pkt.IsKeyframe) ∨
      PacketDispatcher.kMaxPacketCacheSize <= seen.length

/-- The dispatcher has taken the viewer over from those that have registered. -/
def Taken (relay : Relay W R) (r : R) : Prop :=
  exists d, relay.ingest.source.dispatcher = some d ∧ r ∈ d.oldClients

/-- A viewer was given a part of the messages without a gap.  As long as the viewer
stays, it ends with the latest one, unless the viewer has not been taken over. -/
inductive Given (msgs : List RtmpPacket) (taken stays : Prop)
    (seen : List RtmpPacket) : Prop
  | intro {before after : List RtmpPacket} (hmsgs : msgs = before ++ seen ++ after)
      (hlatest : stays -> ¬ taken ∧ seen = [] ∨ after = [] ∧ Begins before seen)

/-- A viewer has been sent the script tag, the config frames as they were when it
started and what it was given from its start time on. -/
inductive Viewed (msgs : List RtmpPacket) (metaData : Option Metadata)
    (taken stays : Prop) (c : FlvClient) : Prop
  | intro {metadata : Metadata} {script : List Bytes} {body : Bytes}
      {known seen : List RtmpPacket} {order : List (Nat × PacketPtr)}
      (hmetaData : metaData = some metadata)
      (hscript : sendMetadata metadata = .ok script)
      (hknown : known <+: msgs) (horder : ConfigFrames known order)
      (hseen : Given msgs taken stays seen)
      (hsent : c.sent.flatten =
        sendFlvHeader.flatten ++ script.flatten ++ body)
      (hbody : parseTags body = some (tagsAt msgs (order.map Prod.snd) ++
        (seen.map tagOf).filter (wanted c.startPts)))

omit [DecidableEq R] in
theorem tagsAt_eq_map (msgs : List RtmpPacket) (ptrs : List PacketPtr) :
    tagsAt msgs ptrs = (received msgs ptrs).map tagOf := by
  unfold tagsAt received
  rw [List.map_filterMap]

/-- What a reader was given, where the publisher is in none of its calls. -/
theorem OnAir.given_of_idle {es : List (RelayEvent R)}
    {d : PacketDispatcher PacketPtr R} {relay : Relay W R} (h : OnAir es d relay)
    (hpending : relay.pending = none) {r : R} {delivered : List PacketPtr}
    {stays : Prop} (hcut : delivered <+: (d.readers r).read)
    (hall : stays -> delivered = (d.readers r).read) :
    Given (messages es) (Taken relay r) stays
      (received (messages es) delivered) := by
  rcases h.read_split r with ⟨hread, hwaiting⟩ |
    ⟨dropped, cached, later, rest, hair, hrest, hread, hbegins⟩
  · rw [hread, List.prefix_nil] at hcut
    rw [hcut]
    have hnone : messages es = [] ++ [] ++ messages es := rfl
    have huntaken : ¬ Taken relay r := by
      rintro ⟨d', hd', hold⟩
      cases h.dispatcher_eq.symm.trans hd'
      exact hwaiting hold
    exact .intro hnone fun _ => Or.inl ⟨huntaken, rfl⟩
  · rw [hpending, Option.toList_none, List.map_eq_nil_iff] at hrest
    rw [hrest, List.append_nil] at hair
    rcases airing_split (messages es) with ⟨lead, hlead, hconfig⟩
    rw [hair, List.map_append] at hlead
    have hpassed : forall p, p ∈ cached ++ later -> p ∈ airing (messages es) := by
      intro p hp
      rw [hair]
      exact List.mem_append_right dropped hp
    have htook := List.prefix_iff_eq_take.mp hcut
    rw [hread, ← List.map_take] at htook
    have hgot : received (messages es) delivered =
        ((cached ++ later).take delivered.length).map Prod.fst := by
      conv_lhs => rw [htook]
      exact received_airing fun p hp => hpassed p (List.mem_of_mem_take hp)
    rw [hgot]
    have hmsgs : messages es = (lead ++ dropped.map Prod.fst) ++
        ((cached ++ later).take delivered.length).map Prod.fst ++
          ((cached ++ later).drop delivered.length).map Prod.fst := by
      rw [List.append_assoc, ← List.map_append, List.take_append_drop,
        List.append_assoc]
      exact hlead
    refine .intro hmsgs ?_
    intro hstays
    have hlength : delivered.length = (cached ++ later).length := by
      rw [hall hstays, hread, List.length_map]
    right
    rw [hlength, List.take_length, List.drop_length]
    refine ⟨rfl, ?_⟩
    rcases hbegins with hnone | ⟨p, ps, hfirst, hkey⟩ | ⟨hfull, _⟩
    · left
      rw [hnone, List.map_nil, List.append_nil]
      exact hconfig
    · right
      left
      rw [hfirst]
      exact ⟨p.1, (ps ++ later).map Prod.fst, rfl, hkey⟩
    · right
      right
      rw [List.length_map, List.length_append, hfull]
      exact Nat.le_add_right _ _

theorem Stands.viewed {visits : List (Visit R)} {stage : Stage C W R}
    (hmsgs : forall pkt, pkt ∈ msgs -> Receivable pkt)
    (h : Stands studio visits msgs .idle none stage) {r : R} {c : FlvClient}
    (hc : stage.relay.clients r = some c) :
    Viewed msgs stage.relay.ingest.metadata (Taken stage.relay r)
      (.leave r ∉ visits) c := by
  rcases h with ⟨@⟨_, _, _, _, _, es, hinit, hrun, hmessages, hleft⟩, _, hpending,
    _⟩
  subst hmessages
  rcases start_invariant hinit with ⟨metadata, hstart⟩
  rcases run_invariant hstart hmsgs hrun with ⟨d, hinv⟩
  rcases run_onAir hinit hrun with ⟨d', hair⟩
  cases hinv.dispatcher_eq.symm.trans hair.dispatcher_eq
  rcases hinv.served r c hc with ⟨front, order, back, delivered, hes, hconfigs,
    hcut, hheard, _, _, _, script, hscript, hsent⟩
  have hknown : messages front <+: messages es := by
    rw [hes, messages_append]
    exact List.prefix_append _ _
  have hall : Visit.leave r ∉ visits -> delivered = (d.readers r).read := by
    intro hstays
    have hwhole := heard_of_stays (fun hleave => hstays (hleft r hleave))
      hinv.fanout
    cases hheard.symm.trans hwhole
    rfl
  refine .intro hinv.metaData_eq hscript hknown hconfigs
    (hair.given_of_idle hpending hcut hall) hsent ?_
  rw [← tagsAt_eq_map]
  apply parseTags_bytes
  intro tag htag
  rcases List.mem_append.mp htag with hconfig | hpacket
  · exact tagsAt_wellFormed hmsgs hinv.types hconfig
  · exact tagsAt_wellFormed hmsgs hinv.types (List.mem_filter.mp hpacket).1

end Viewing

end Flv
end Streaming
