import Streaming.Flv.Muxer
import Streaming.Rtmp.Feed

/-!
# From RTMP to FLV

A publisher's messages on the one side, FLV clients on the other.  Clients start
and go away on threads of their own, so that their calls may come between the
sections of a `distribute`.
-/

namespace Streaming
namespace Flv

open Foundation Media Rtmp RtmpMediaSource Util

structure Relay (W R : Type) extends Feed W R where
  clients : R -> Option FlvClient := fun _ => none

inductive RelayEvent (R : Type) where
  /-- `process_av_packet`, up to the call of `distribute`. -/
  | message (pkt : RtmpPacket)
  /-- `start_muxing`, up to the call of `regist_reader`.  The map of config
  frames is iterated over in any order. -/
  | startMuxing (r : R) (startPts : Nat) (order : List (Nat × PacketPtr))
  /-- A section of `distribute`, `regist_reader`, or the muxer's destructor,
  which leaves. -/
  | fanout (e : FanoutEvent PacketPtr R)

namespace Relay

section Steps

variable {W R : Type} [DecidableEq R]

def start (ingest : Ingest W R) : Relay W R where
  ingest := ingest

def receive (regist : W -> Except String W)
    (h264DecSeqParameterSet : Bytes -> Bool) (s : Relay W R)
    (pkt : RtmpPacket) : Option (Relay W R) :=
  (s.toFeed.receive regist h264DecSeqParameterSet pkt).map fun feed =>
    { s with toFeed := feed }

def startMuxing (s : Relay W R) (r : R) (startPts : Nat)
    (order : List (Nat × PacketPtr)) : Option (Relay W R) :=
  if s.clients r = none ∧ order.Perm s.ingest.source.configFrameMap then do
    let metadata <- s.ingest.metadata
    let _ <- s.ingest.source.dispatcher
    let frames <- order.mapM fun entry => s.ingest.packets[entry.2]?
    let sent <- (sendOpening metadata frames).toOption
    return { s with
      clients := Function.update s.clients r
        (some { startPts := startPts, sent := sent }) }
  else
    none

/-- What happens around the dispatcher when one of its operations is called. -/
def prepare (s : Relay W R) : FanoutEvent PacketPtr R -> Option (Relay W R)
  | .dispatchOld ptr isIdr =>
      if s.pending = some (ptr, isIdr) then some { s with pending := none }
      else none
  | .regist r => do
      let c <- s.clients r
      if c.joined then
        none
      else
        return { s with
          clients := Function.update s.clients r (some { c with joined := true }) }
  | .leave r => do
      let c <- s.clients r
      return { s with
        clients := Function.update s.clients r
          (some { c with muxerAlive := false }) }
  | _ => some s

/-- The callbacks of one reader.  An exception would leave `distribute`. -/
def serve (packets : List RtmpPacket) (c : FlvClient)
    (ptrs : List PacketPtr) : Option FlvClient :=
  ptrs.foldlM (fun c ptr => do
    let pkt <- packets[ptr]?
    (c.readCb pkt).toOption) c

def served (s : Relay W R) (f : Fanout PacketPtr R)
    (e : FanoutEvent PacketPtr R) (r : R) : Option (Option FlvClient) :=
  match s.clients r with
  | none => some none
  | some c => (serve s.ingest.packets c (f.hands r e)).map some

def fanout (s : Relay W R) (e : FanoutEvent PacketPtr R) :
    Option (Relay W R) := do
  let s <- s.prepare e
  let d <- s.ingest.source.dispatcher
  let f <- Fanout.step ⟨d, s.phase⟩ e
  if forall r, r ∈ d.oldClients ∪ d.newClients ->
      (s.served ⟨d, s.phase⟩ e r).isSome then
    return {
      ingest := { s.ingest with source := { s.ingest.source with
        dispatcher := some f.dispatcher } }
      phase := f.phase
      pending := s.pending
      clients := fun r => (s.served ⟨d, s.phase⟩ e r).join }
  else
    none

def step (regist : W -> Except String W)
    (h264DecSeqParameterSet : Bytes -> Bool) (s : Relay W R) :
    RelayEvent R -> Option (Relay W R)
  | .message pkt => s.receive regist h264DecSeqParameterSet pkt
  | .startMuxing r startPts order => s.startMuxing r startPts order
  | .fanout e => s.fanout e

end Steps

end Relay

/-!
## What a run is about
-/

section History

variable {R : Type}

def RelayEvent.received : RelayEvent R -> Option RtmpPacket
  | message pkt => some pkt
  | _ => none

def RelayEvent.fanoutEvent : RelayEvent R -> Option (FanoutEvent PacketPtr R)
  | fanout e => some e
  | _ => none

def RelayEvent.calls [DecidableEq R] (f : FanoutEvent PacketPtr R)
    (e : RelayEvent R) : Bool :=
  decide (e.fanoutEvent = some f)

/-- The messages as they came in. -/
def messages (es : List (RelayEvent R)) : List RtmpPacket :=
  es.filterMap RelayEvent.received

/-- What the dispatcher went through. -/
def fanoutEvents (es : List (RelayEvent R)) : List (FanoutEvent PacketPtr R) :=
  es.filterMap RelayEvent.fanoutEvent

/-- What happens as long as a client's muxer is there. -/
def stayed [DecidableEq R] (r : R) (es : List (RelayEvent R)) :
    List (RelayEvent R) :=
  es.takeWhile fun e => !e.calls (.leave r)

/-- The packets that the dispatcher calls the callback of a reader with as long
as its muxer is there. -/
def heard [DecidableEq R] (r : R) (es : List (RelayEvent R)) :
    Option (List PacketPtr) :=
  (run Fanout.step (Fanout.start PacketDispatcher.kMaxPacketCacheSize)
    (fanoutEvents (stayed r es))).map fun f => (f.dispatcher.readers r).read

/-- The tags that stand for the messages at some positions. -/
def tagsAt (msgs : List RtmpPacket) (ptrs : List PacketPtr) : List Tag :=
  ptrs.filterMap fun ptr => msgs[ptr]?.map tagOf

theorem messages_append (es fs : List (RelayEvent R)) :
    messages (es ++ fs) = messages es ++ messages fs :=
  List.filterMap_append

theorem fanoutEvents_append (es fs : List (RelayEvent R)) :
    fanoutEvents (es ++ fs) = fanoutEvents es ++ fanoutEvents fs :=
  List.filterMap_append

@[simp] theorem messages_message (es : List (RelayEvent R)) (pkt : RtmpPacket) :
    messages (es ++ [.message pkt]) = messages es ++ [pkt] :=
  messages_append es _

@[simp] theorem fanoutEvents_message (es : List (RelayEvent R))
    (pkt : RtmpPacket) :
    fanoutEvents (es ++ [.message pkt]) = fanoutEvents es :=
  (fanoutEvents_append es _).trans (List.append_nil _)

@[simp] theorem messages_startMuxing (es : List (RelayEvent R)) (r : R)
    (startPts : Nat) (order : List (Nat × PacketPtr)) :
    messages (es ++ [.startMuxing r startPts order]) = messages es :=
  (messages_append es _).trans (List.append_nil _)

@[simp] theorem fanoutEvents_startMuxing (es : List (RelayEvent R)) (r : R)
    (startPts : Nat) (order : List (Nat × PacketPtr)) :
    fanoutEvents (es ++ [.startMuxing r startPts order]) = fanoutEvents es :=
  (fanoutEvents_append es _).trans (List.append_nil _)

@[simp] theorem messages_fanout (es : List (RelayEvent R))
    (e : FanoutEvent PacketPtr R) :
    messages (es ++ [.fanout e]) = messages es :=
  (messages_append es _).trans (List.append_nil _)

@[simp] theorem fanoutEvents_fanout (es : List (RelayEvent R))
    (e : FanoutEvent PacketPtr R) :
    fanoutEvents (es ++ [.fanout e]) = fanoutEvents es ++ [e] :=
  fanoutEvents_append es _

theorem calls_iff [DecidableEq R] {f : FanoutEvent PacketPtr R}
    {e : RelayEvent R} : e.calls f = true <-> e = .fanout f := by
  unfold RelayEvent.calls
  rw [decide_eq_true_iff]
  constructor
  · intro hcall
    cases e with
    | message pkt => cases hcall
    | startMuxing r startPts order => cases hcall
    | fanout e =>
        cases hcall
        rfl
  · intro he
    rw [he]
    rfl

theorem mem_fanoutEvents {f : FanoutEvent PacketPtr R}
    {es : List (RelayEvent R)} : f ∈ fanoutEvents es <-> .fanout f ∈ es := by
  unfold fanoutEvents
  rw [List.mem_filterMap]
  constructor
  · rintro ⟨e, he, hcall⟩
    cases e with
    | message pkt => cases hcall
    | startMuxing r startPts order => cases hcall
    | fanout e =>
        cases hcall
        exact he
  · intro he
    exact ⟨_, he, rfl⟩

/-- Events without a call of the dispatcher. -/
theorem not_mem_fanoutEvents [DecidableEq R] {f : FanoutEvent PacketPtr R}
    {es : List (RelayEvent R)} :
    f ∉ fanoutEvents es <-> forall e, e ∈ es -> (!e.calls f) = true := by
  rw [mem_fanoutEvents]
  constructor
  · intro hnot e he
    rw [Bool.not_eq_true', ← Bool.not_eq_true, calls_iff]
    intro hcall
    exact hnot (hcall ▸ he)
  · intro hnone he
    have hcall := hnone _ he
    rw [calls_iff.mpr rfl] at hcall
    cases hcall

theorem stayed_of_stays [DecidableEq R] {r : R} {es : List (RelayEvent R)}
    (h : .leave r ∉ fanoutEvents es) : stayed r es = es :=
  List.takeWhile_eq_self_iff.mpr (not_mem_fanoutEvents.mp h)

/-- What comes behind the end of a muxer does not matter to its client. -/
theorem stayed_concat_of_left [DecidableEq R] {r : R} {es : List (RelayEvent R)}
    {e : RelayEvent R} (h : .leave r ∈ fanoutEvents es ∨ e = .fanout (.leave r)) :
    stayed r (es ++ [e]) = stayed r es := by
  unfold stayed
  rw [List.takeWhile_append]
  split
  · rename_i hlength
    have hself := (List.takeWhile_prefix _).eq_of_length hlength
    rcases h with hbefore | hnow
    · have hstays := not_mem_fanoutEvents.mpr (List.takeWhile_eq_self_iff.mp hself)
      exact absurd hbefore hstays
    · have hcall := calls_iff.mpr hnow
      rw [hself, List.takeWhile_cons_of_neg (by simp [hcall]), List.append_nil]
  · rfl

theorem heard_of_stays [DecidableEq R] {r : R} {es : List (RelayEvent R)}
    {f : Fanout PacketPtr R} (h : .leave r ∉ fanoutEvents es)
    (hrun : run Fanout.step (Fanout.start PacketDispatcher.kMaxPacketCacheSize)
      (fanoutEvents es) = some f) :
    heard r es = some (f.dispatcher.readers r).read := by
  unfold heard
  rw [stayed_of_stays h, hrun]
  rfl

/-- Messages and starts are nothing to the dispatcher. -/
theorem fanoutEvents_quiet {e : RelayEvent R} (he : e.fanoutEvent = none)
    (es : List (RelayEvent R)) : fanoutEvents (es ++ [e]) = fanoutEvents es := by
  unfold fanoutEvents
  rw [List.filterMap_append, List.filterMap_cons_none he, List.filterMap_nil,
    List.append_nil]

theorem heard_quiet [DecidableEq R] {r : R} {e : RelayEvent R}
    (he : e.fanoutEvent = none) (es : List (RelayEvent R)) :
    heard r (es ++ [e]) = heard r es := by
  by_cases hleft : .leave r ∈ fanoutEvents es
  · unfold heard
    rw [stayed_concat_of_left (Or.inl hleft)]
  · have hevents := fanoutEvents_quiet he es
    have hstays : .leave r ∉ fanoutEvents (es ++ [e]) := by
      rw [hevents]
      exact hleft
    unfold heard
    rw [stayed_of_stays hstays, stayed_of_stays hleft, hevents]

/-- Later messages do not change what is at a position. -/
theorem tagsAt_append {msgs : List RtmpPacket} {ptrs : List PacketPtr}
    (h : forall ptr, ptr ∈ ptrs -> ptr < msgs.length)
    (more : List RtmpPacket) :
    tagsAt (msgs ++ more) ptrs = tagsAt msgs ptrs := by
  unfold tagsAt
  apply List.filterMap_congr
  intro ptr hptr
  rw [List.getElem?_append_left (h ptr hptr)]

theorem tagsAt_wellFormed {msgs : List RtmpPacket} {ptrs : List PacketPtr}
    {tag : Tag} (hreceivable : forall pkt, pkt ∈ msgs -> Receivable pkt)
    (htypes : forall pkt, pkt ∈ msgs ->
      pkt.msgTypeId = msgAudio ∨ pkt.msgTypeId = msgVideo)
    (h : tag ∈ tagsAt msgs ptrs) : tag.WellFormed := by
  rcases List.mem_filterMap.mp h with ⟨ptr, _, hptr⟩
  rcases Option.map_eq_some_iff.mp hptr with ⟨pkt, hpkt, htagOf⟩
  have hmem := List.mem_of_getElem? hpkt
  rw [← htagOf]
  exact tagOf_wellFormed (hreceivable pkt hmem) (htypes pkt hmem)

/-- The reader is served from the packets as they stand; it gets the tags of the
messages as they came in. -/
theorem serve_alive {msgs : List RtmpPacket} {c : FlvClient}
    {ptrs : List PacketPtr}
    (hreceivable : forall pkt, pkt ∈ msgs -> Receivable pkt)
    (htypes : forall pkt, pkt ∈ msgs ->
      pkt.msgTypeId = msgAudio ∨ pkt.msgTypeId = msgVideo)
    (hptrs : forall ptr, ptr ∈ ptrs -> ptr < msgs.length)
    (halive : c.muxerAlive = true) :
    exists pieces,
      Relay.serve (msgs.map RtmpPacket.processed) c ptrs =
          some { c with sent := c.sent ++ pieces } ∧
        pieces.flatten =
          ((tagsAt msgs ptrs).filter (wanted c.startPts)).flatMap
            Tag.bytes := by
  induction ptrs generalizing c with
  | nil =>
      refine ⟨[], ?_, rfl⟩
      rw [List.append_nil]
      rfl
  | cons ptr ptrs ih =>
      have hlt := hptrs ptr List.mem_cons_self
      have hmem : msgs[ptr] ∈ msgs := List.getElem_mem hlt
      rcases readCb_processed (hreceivable _ hmem) (htypes _ hmem) halive with
        ⟨first, hread, hfirst⟩
      rcases ih (c := { c with sent := c.sent ++ first })
        (fun other hother => hptrs other (List.mem_cons_of_mem ptr hother))
        halive with ⟨later, hserve, hlater⟩
      have hpkt : (msgs.map RtmpPacket.processed)[ptr]? =
          some msgs[ptr].processed := by
        rw [List.getElem?_map, List.getElem?_eq_getElem hlt, Option.map_some]
      have htag : tagsAt msgs (ptr :: ptrs) =
          [tagOf msgs[ptr]] ++ tagsAt msgs ptrs := by
        simp [tagsAt, List.getElem?_eq_getElem hlt]
      refine ⟨first ++ later, ?_, ?_⟩
      · rw [Relay.serve, List.foldlM_cons, hpkt]
        show (c.readCb msgs[ptr].processed).toOption.bind _ = _
        rw [hread, ← List.append_assoc]
        exact hserve
      · rw [htag, List.filter_append, List.flatMap_append, ← hfirst, ← hlater,
          List.flatten_append]

theorem serve_dead {packets : List RtmpPacket} {c : FlvClient}
    {ptrs : List PacketPtr} (hptrs : forall ptr, ptr ∈ ptrs ->
      ptr < packets.length) (hdead : c.muxerAlive = false) :
    Relay.serve packets c ptrs = some c := by
  induction ptrs with
  | nil => rfl
  | cons ptr ptrs ih =>
      have hlt := hptrs ptr List.mem_cons_self
      rw [Relay.serve, List.foldlM_cons, List.getElem?_eq_getElem hlt]
      show (c.readCb packets[ptr]).toOption.bind _ = _
      rw [readCb_dead hdead]
      exact ih fun other hother => hptrs other (List.mem_cons_of_mem ptr hother)

end History

/-!
## The invariant
-/

section Invariant

variable {W R : Type} [DecidableEq R]

/-- What a client has been sent, given the messages, the config frames that it
began with and the packets that its callback was called with. -/
structure Relayed (metadata : Metadata) (msgs : List RtmpPacket)
    (order : List (Nat × PacketPtr)) (delivered : List PacketPtr)
    (c : FlvClient) : Prop where
  order_lt : forall entry, entry ∈ order -> entry.2 < msgs.length
  delivered_lt : forall ptr, ptr ∈ delivered -> ptr < msgs.length
  sent_eq : exists script, sendMetadata metadata = .ok script ∧
    c.sent.flatten = sendFlvHeader.flatten ++ script.flatten ++
      (tagsAt msgs (order.map Prod.snd) ++
        (tagsAt msgs delivered).filter (wanted c.startPts)).flatMap Tag.bytes

/-- The history of a client. -/
structure Served (metadata : Metadata) (es : List (RelayEvent R)) (r : R)
    (read : List PacketPtr) (c : FlvClient) : Prop where
  history : exists front order back delivered,
    es = front ++ .startMuxing r c.startPts order :: back ∧
      ConfigFrames (messages front) order ∧
        delivered <+: read ∧ heard r es = some delivered ∧
          (c.muxerAlive = true <-> .leave r ∉ fanoutEvents es) ∧
            Relayed metadata (messages es) order delivered c

structure RelayInvariant (metadata : Metadata) (es : List (RelayEvent R))
    (d : PacketDispatcher PacketPtr R) (s : Relay W R) : Prop where
  types : forall pkt, pkt ∈ messages es ->
    pkt.msgTypeId = msgAudio ∨ pkt.msgTypeId = msgVideo
  packets_eq : s.ingest.packets = (messages es).map RtmpPacket.processed
  metaData_eq : s.ingest.metadata = some metadata
  configFrames : ConfigFrames (messages es) s.ingest.source.configFrameMap
  dispatcher_eq : s.ingest.source.dispatcher = some d
  fanout : run Fanout.step (Fanout.start PacketDispatcher.kMaxPacketCacheSize)
    (fanoutEvents es) = some ⟨d, s.phase⟩
  distributed_lt : forall ptr isIdr,
    (ptr, isIdr) ∈ distributed (fanoutEvents es) -> ptr < (messages es).length
  pending_lt : forall ptr isIdr, s.pending = some (ptr, isIdr) ->
    ptr < (messages es).length
  joined : forall r, .regist r ∈ fanoutEvents es ->
    exists c, s.clients r = some c ∧ c.joined = true
  known : forall r, .leave r ∈ fanoutEvents es ->
    exists c, s.clients r = some c
  served : forall r c, s.clients r = some c ->
    Served metadata es r (d.readers r).read c

theorem Relayed.later {metadata : Metadata} {msgs : List RtmpPacket}
    {order : List (Nat × PacketPtr)} {delivered : List PacketPtr}
    {c : FlvClient} (h : Relayed metadata msgs order delivered c)
    (more : List RtmpPacket) :
    Relayed metadata (msgs ++ more) order delivered c := by
  have hle : msgs.length <= (msgs ++ more).length := by simp
  rcases h with ⟨horder, hdelivered, hsent⟩
  constructor
  · intro entry hentry
    exact Nat.lt_of_lt_of_le (horder entry hentry) hle
  · intro ptr hptr
    exact Nat.lt_of_lt_of_le (hdelivered ptr hptr) hle
  · have hconfigs : forall ptr, ptr ∈ order.map Prod.snd ->
        ptr < msgs.length := by
      intro ptr hptr
      rcases List.mem_map.mp hptr with ⟨entry, hentry, hptr⟩
      rw [← hptr]
      exact horder entry hentry
    rw [tagsAt_append hconfigs, tagsAt_append hdelivered]
    exact hsent

/-- What happens to others. -/
theorem Served.later {metadata : Metadata} {es : List (RelayEvent R)} {r : R}
    {read : List PacketPtr} {c : FlvClient}
    (h : Served metadata es r read c) {e : RelayEvent R}
    (he : e.fanoutEvent = none) :
    Served metadata (es ++ [e]) r read c := by
  rcases h with ⟨front, order, back, delivered, hes, hconfigs, hprefix, hheard,
    halive, hrelayed⟩
  refine ⟨front, order, back ++ [e], delivered, ?_, hconfigs, hprefix,
    (heard_quiet he es).trans hheard, ?_, ?_⟩
  · rw [hes, List.append_assoc]
    rfl
  · rw [fanoutEvents_quiet he]
    exact halive
  · rw [messages_append]
    exact hrelayed.later _

/-!
## A message comes in
-/

omit [DecidableEq R] in
theorem receive_ok {regist : W -> Except String W}
    {h264DecSeqParameterSet : Bytes -> Bool} {s s' : Relay W R}
    {pkt : RtmpPacket}
    (h : s.receive regist h264DecSeqParameterSet pkt = some s') :
    exists isIdr before ingest, s.phase = .idle ∧ s.pending = none ∧
      before = { s.ingest with packets := s.ingest.packets ++ [pkt] } ∧
      Accepted s.ingest.packets.length pkt before ingest isIdr ∧
      PassedOn pkt before ingest isIdr ∧
      s' = { s with
        ingest := ingest
        pending := isIdr.map fun isIdr => (s.ingest.packets.length, isIdr) } := by
  rcases Option.map_eq_some_iff.mp h with ⟨feed, hfeed, hs'⟩
  rcases Feed.receive_ok hfeed with
    ⟨isIdr, before, ingest, hphase, hpending, hbefore, haccepted, hpassed, heq⟩
  subst heq
  exact ⟨isIdr, before, ingest, hphase, hpending, hbefore, haccepted, hpassed,
    hs'.symm⟩

theorem receive_invariant {regist : W -> Except String W}
    {h264DecSeqParameterSet : Bytes -> Bool} {metadata : Metadata}
    {es : List (RelayEvent R)} {d : PacketDispatcher PacketPtr R}
    {s s' : Relay W R} {pkt : RtmpPacket} (h : RelayInvariant metadata es d s)
    (hstep : s.receive regist h264DecSeqParameterSet pkt = some s') :
    RelayInvariant metadata (es ++ [.message pkt]) d s' := by
  have hlength : s.ingest.packets.length = (messages es).length := by
    rw [h.packets_eq, List.length_map]
  rcases receive_ok hstep with
    ⟨isIdr, before, ingest, _, _, hbefore, haccepted, _, hs'⟩
  subst hbefore hs'
  constructor
  · intro other hother
    rw [messages_message, List.mem_append, List.mem_singleton] at hother
    rcases hother with hold | hnew
    · exact h.types other hold
    · rw [hnew]
      exact haccepted.type_eq
  · rw [haccepted.packets_eq, messages_message, List.map_append, h.packets_eq]
    simp
  · unfold Ingest.metadata
    rw [haccepted.metaData_eq, haccepted.maps_eq]
    exact h.metaData_eq
  · rw [messages_message]
    have hconfigs := h.configFrames.concat pkt
    rw [← hlength] at hconfigs
    exact haccepted.configFrameMap_eq ▸ hconfigs
  · exact haccepted.dispatcher_eq.trans h.dispatcher_eq
  · rw [fanoutEvents_message]
    exact h.fanout
  · intro ptr isIdr hmem
    rw [fanoutEvents_message] at hmem
    rw [messages_message, List.length_append]
    exact Nat.lt_add_right 1 (h.distributed_lt ptr isIdr hmem)
  · intro ptr flag hpending
    rcases Option.map_eq_some_iff.mp hpending with ⟨_, _, hptr⟩
    rw [messages_message, List.length_append, ← hlength,
      ← (Prod.mk.inj hptr).1]
    exact Nat.lt_succ_self _
  · intro r hregist
    rw [fanoutEvents_message] at hregist
    exact h.joined r hregist
  · intro r hleave
    rw [fanoutEvents_message] at hleave
    exact h.known r hleave
  · intro r c hc
    exact (h.served r c hc).later rfl

/-!
## A client starts
-/

/-- The config frames that are sent are the tags of their messages. -/
theorem sendConfigFrames {msgs : List RtmpPacket}
    {order : List (Nat × PacketPtr)}
    (hreceivable : forall pkt, pkt ∈ msgs -> Receivable pkt)
    (htypes : forall pkt, pkt ∈ msgs ->
      pkt.msgTypeId = msgAudio ∨ pkt.msgTypeId = msgVideo)
    (horder : forall entry, entry ∈ order -> entry.2 < msgs.length) :
    exists frames pieces,
      order.mapM (fun entry => (msgs.map RtmpPacket.processed)[entry.2]?) =
          some frames ∧
        frames.mapM sendConfigFrame = .ok pieces ∧
          pieces.flatten.flatten =
            (tagsAt msgs (order.map Prod.snd)).flatMap Tag.bytes := by
  induction order with
  | nil => exact ⟨[], [], rfl, rfl, rfl⟩
  | cons entry order ih =>
      have hlt := horder entry List.mem_cons_self
      have hmem : msgs[entry.2] ∈ msgs := List.getElem_mem hlt
      rcases sendConfigFrame_processed (hreceivable _ hmem) (htypes _ hmem) with
        ⟨first, hsend, hfirst⟩
      rcases ih fun other hother =>
        horder other (List.mem_cons_of_mem entry hother) with
        ⟨frames, pieces, hframes, hpieces, hlater⟩
      refine ⟨msgs[entry.2].processed :: frames, first :: pieces, ?_, ?_, ?_⟩
      · rw [List.mapM_cons, hframes, List.getElem?_map,
          List.getElem?_eq_getElem hlt]
        rfl
      · rw [List.mapM_cons, hsend, hpieces]
        rfl
      · rw [List.flatten_cons, List.flatten_append, hfirst, hlater]
        simp [tagsAt, List.getElem?_eq_getElem hlt]

theorem startMuxing_ok {s s' : Relay W R} {r : R} {startPts : Nat}
    {order : List (Nat × PacketPtr)}
    (h : s.startMuxing r startPts order = some s') :
    s.clients r = none ∧ order.Perm s.ingest.source.configFrameMap ∧
      exists metadata frames sent,
        s.ingest.metadata = some metadata ∧
        order.mapM (fun entry => s.ingest.packets[entry.2]?) = some frames ∧
        sendOpening metadata frames = .ok sent ∧
        s' = { s with
          clients := Function.update s.clients r
            (some { startPts := startPts, sent := sent }) } := by
  unfold Relay.startMuxing at h
  split at h
  · rename_i hnew
    rcases Option.bind_eq_some_iff.mp h with ⟨metadata, hmetadata, h⟩
    rcases Option.bind_eq_some_iff.mp h with ⟨_, _, h⟩
    rcases Option.bind_eq_some_iff.mp h with ⟨frames, hframes, h⟩
    rcases Option.bind_eq_some_iff.mp h with ⟨sent, hsent, hend⟩
    cases hend
    refine ⟨hnew.1, hnew.2, metadata, frames, sent, hmetadata, hframes, ?_, rfl⟩
    cases hresult : sendOpening metadata frames with
    | error what =>
        rw [hresult] at hsent
        cases hsent
    | ok result =>
        rw [hresult] at hsent
        cases hsent
        rfl
  · cases h

/-- The opening is the file header, the script tag and the config frames. -/
theorem sendOpening_ok {metadata : Metadata} {frames : List RtmpPacket}
    {pieces : List (List Bytes)} {sent : List Bytes}
    (hframes : frames.mapM sendConfigFrame = .ok pieces)
    (h : sendOpening metadata frames = .ok sent) :
    exists script, sendMetadata metadata = .ok script ∧
      sent = sendFlvHeader ++ script ++ pieces.flatten := by
  unfold sendOpening at h
  rw [hframes] at h
  rcases except_bind_eq_ok h with ⟨script, hscript, hreturn⟩
  cases hreturn
  exact ⟨script, hscript, rfl⟩

theorem startMuxing_invariant {metadata : Metadata} {es : List (RelayEvent R)}
    {d : PacketDispatcher PacketPtr R} {s s' : Relay W R} {r : R}
    {startPts : Nat} {order : List (Nat × PacketPtr)}
    (h : RelayInvariant metadata es d s)
    (hreceivable : forall pkt, pkt ∈ messages es -> Receivable pkt)
    (hstep : s.startMuxing r startPts order = some s') :
    RelayInvariant metadata (es ++ [.startMuxing r startPts order]) d s' := by
  rcases startMuxing_ok hstep with
    ⟨hnone, hperm, metadata', frames, sent, hmetadata, hframes, hsent, hs'⟩
  cases h.metaData_eq.symm.trans hmetadata
  subst hs'
  have hconfigs : ConfigFrames (messages es) order := by
    constructor
    · exact hperm.nodup_iff.mpr h.configFrames.nodup
    · intro msgTypeId ptr
      rw [hperm.mem_iff]
      exact h.configFrames.mem_iff msgTypeId ptr
  have horder : forall entry, entry ∈ order ->
      entry.2 < (messages es).length := by
    intro entry hentry
    rcases (hconfigs.mem_iff entry.1 entry.2).mp hentry with ⟨pkt, hpkt, _⟩
    exact (List.getElem?_eq_some_iff.mp hpkt).1
  rcases sendConfigFrames hreceivable h.types horder with
    ⟨frames', pieces, hframes', hpieces, hbytes⟩
  rw [h.packets_eq] at hframes
  cases hframes'.symm.trans hframes
  rcases sendOpening_ok hpieces hsent with ⟨script, hscript, hsent⟩
  have habsent : .regist r ∉ fanoutEvents es := by
    intro hregist
    rcases h.joined r hregist with ⟨c, hc, _⟩
    cases hc.symm.trans hnone
  have hread : (d.readers r).read = [] :=
    (run_absent (start_absent _ r) habsent h.fanout).read_eq
  have hstays : .leave r ∉ fanoutEvents es := by
    intro hleave
    rcases h.known r hleave with ⟨c, hc⟩
    cases hc.symm.trans hnone
  constructor
  · rw [messages_startMuxing]
    exact h.types
  · rw [messages_startMuxing]
    exact h.packets_eq
  · exact h.metaData_eq
  · rw [messages_startMuxing]
    exact h.configFrames
  · exact h.dispatcher_eq
  · rw [fanoutEvents_startMuxing]
    exact h.fanout
  · rw [fanoutEvents_startMuxing, messages_startMuxing]
    exact h.distributed_lt
  · rw [messages_startMuxing]
    exact h.pending_lt
  · intro other hregist
    rw [fanoutEvents_startMuxing] at hregist
    have hne : other ≠ r := by
      intro heq
      exact habsent (heq ▸ hregist)
    rcases h.joined other hregist with ⟨c, hc, hjoined⟩
    exact ⟨c, (Function.update_of_ne hne _ _).trans hc, hjoined⟩
  · intro other hleave
    rw [fanoutEvents_startMuxing] at hleave
    have hne : other ≠ r := by
      intro heq
      exact hstays (heq ▸ hleave)
    rcases h.known other hleave with ⟨c, hc⟩
    exact ⟨c, (Function.update_of_ne hne _ _).trans hc⟩
  · intro other c hc
    change Function.update s.clients r _ other = some c at hc
    by_cases hother : other = r
    · subst hother
      rw [Function.update_self] at hc
      cases hc
      have hheard := heard_of_stays hstays h.fanout
      rw [hread] at hheard ⊢
      refine ⟨es, order, [], [], rfl, hconfigs, List.nil_prefix,
        (heard_quiet rfl es).trans hheard, iff_of_true rfl ?_, ?_⟩
      · rw [fanoutEvents_startMuxing]
        exact hstays
      rw [messages_startMuxing]
      refine ⟨horder, fun ptr hptr => (List.not_mem_nil hptr).elim,
        script, hscript, ?_⟩
      rw [hsent, List.flatten_append, List.flatten_append, hbytes]
      simp [tagsAt]
    · rw [Function.update_of_ne hother] at hc
      exact (h.served other c hc).later rfl

/-!
## The dispatcher goes on
-/

/-- A client after the call that `prepare` stands for. -/
structure Renewed (e : FanoutEvent PacketPtr R) (r : R) (c c' : FlvClient) :
    Prop where
  startPts_eq : c'.startPts = c.startPts
  sent_eq : c'.sent = c.sent
  alive_iff : c'.muxerAlive = true <-> c.muxerAlive = true ∧ e ≠ .leave r
  joined : c.joined = true -> c'.joined = true

omit [DecidableEq R] in
theorem Renewed.refl {e : FanoutEvent PacketPtr R} {r : R} (he : e ≠ .leave r)
    (c : FlvClient) : Renewed e r c c :=
  ⟨rfl, rfl, (and_iff_left he).symm, id⟩

structure Prepared (e : FanoutEvent PacketPtr R) (s s' : Relay W R) : Prop where
  ingest_eq : s'.ingest = s.ingest
  phase_eq : s'.phase = s.phase
  dispatched : forall ptr isIdr, e = .dispatchOld ptr isIdr ->
    s.pending = some (ptr, isIdr)
  pending : forall p, s'.pending = some p -> s.pending = some p
  kept : forall r c, s.clients r = some c ->
    exists c', s'.clients r = some c' ∧ Renewed e r c c'
  known : forall r c', s'.clients r = some c' ->
    exists c, s.clients r = some c ∧ Renewed e r c c'
  joined : forall r, e = .regist r ->
    exists c', s'.clients r = some c' ∧ c'.joined = true
  left : forall r, e = .leave r -> exists c, s.clients r = some c

theorem update_renewed {e : FanoutEvent PacketPtr R}
    {clients : R -> Option FlvClient} {r : R} {c c' : FlvClient}
    (hc : clients r = some c) (h : Renewed e r c c')
    (hothers : forall other, other ≠ r -> e ≠ .leave other) :
    (forall other c₁, clients other = some c₁ ->
      exists c₂, Function.update clients r (some c') other = some c₂ ∧
        Renewed e other c₁ c₂) ∧
      forall other c₂, Function.update clients r (some c') other = some c₂ ->
        exists c₁, clients other = some c₁ ∧ Renewed e other c₁ c₂ := by
  constructor
  · intro other c₁ hother
    by_cases heq : other = r
    · subst heq
      cases hc.symm.trans hother
      exact ⟨c', Function.update_self _ _ _, h⟩
    · exact ⟨c₁, (Function.update_of_ne heq _ _).trans hother,
        Renewed.refl (hothers other heq) c₁⟩
  · intro other c₂ hother
    by_cases heq : other = r
    · subst heq
      rw [Function.update_self] at hother
      cases hother
      exact ⟨c, hc, h⟩
    · rw [Function.update_of_ne heq] at hother
      exact ⟨c₂, hother, Renewed.refl (hothers other heq) c₂⟩

theorem prepare_ok {e : FanoutEvent PacketPtr R} {s s' : Relay W R}
    (h : s.prepare e = some s') : Prepared e s s' := by
  have hkept : (forall r, e ≠ .leave r) -> forall r c, s.clients r = some c ->
      exists c', s.clients r = some c' ∧ Renewed e r c c' :=
    fun he r c hc => ⟨c, hc, Renewed.refl (he r) c⟩
  have hknown : (forall r, e ≠ .leave r) -> forall r c', s.clients r = some c' ->
      exists c, s.clients r = some c ∧ Renewed e r c c' :=
    fun he r c hc => ⟨c, hc, Renewed.refl (he r) c⟩
  cases e with
  | dispatchOld ptr isIdr =>
      simp only [Relay.prepare] at h
      split at h
      · rename_i hpending
        cases h
        refine ⟨rfl, rfl, ?_, nofun, hkept nofun, hknown nofun, nofun, nofun⟩
        intro other flag he
        cases he
        exact hpending
      · cases h
  | cachePacket =>
      cases h
      exact ⟨rfl, rfl, nofun, fun _ hp => hp, hkept nofun, hknown nofun, nofun,
        nofun⟩
  | mergeClients =>
      cases h
      exact ⟨rfl, rfl, nofun, fun _ hp => hp, hkept nofun, hknown nofun, nofun,
        nofun⟩
  | regist r =>
      rcases Option.bind_eq_some_iff.mp h with ⟨c, hc, h⟩
      split at h
      · cases h
      · cases h
        have hrenewed : Renewed (.regist r) r c { c with joined := true } :=
          ⟨rfl, rfl, (and_iff_left nofun).symm, fun _ => rfl⟩
        rcases update_renewed hc hrenewed (fun _ _ => nofun) with
          ⟨hkept, hknown⟩
        refine ⟨rfl, rfl, nofun, fun _ hp => hp, hkept, hknown, ?_, nofun⟩
        intro other he
        cases he
        exact ⟨_, Function.update_self _ _ _, rfl⟩
  | leave r =>
      rcases Option.bind_eq_some_iff.mp h with ⟨c, hc, h⟩
      cases h
      have hrenewed : Renewed (.leave r) r c { c with muxerAlive := false } := by
        refine ⟨rfl, rfl, ?_, id⟩
        constructor
        · intro hfalse
          cases hfalse
        · rintro ⟨_, hne⟩
          exact absurd rfl hne
      have hothers : forall other, other ≠ r ->
          (.leave r : FanoutEvent PacketPtr R) ≠ .leave other := by
        intro other hne heq
        cases heq
        exact hne rfl
      rcases update_renewed hc hrenewed hothers with ⟨hkept, hknown⟩
      refine ⟨rfl, rfl, nofun, fun _ hp => hp, hkept, hknown, nofun, ?_⟩
      intro other he
      cases he
      exact ⟨c, hc⟩

/-- The packets in the events so far, and in one more that may come next. -/
theorem handed_lt {metadata : Metadata} {es : List (RelayEvent R)}
    {d : PacketDispatcher PacketPtr R} {s s₁ : Relay W R}
    {e : FanoutEvent PacketPtr R} (h : RelayInvariant metadata es d s)
    (hprepared : Prepared e s s₁) :
    forall ptr isIdr, (ptr, isIdr) ∈ distributed (fanoutEvents es ++ [e]) ->
      ptr < (messages es).length := by
  intro ptr isIdr hmem
  rw [distributed_append, List.mem_append] at hmem
  rcases hmem with hold | hnew
  · exact h.distributed_lt ptr isIdr hold
  · cases e with
    | dispatchOld other flag =>
        cases List.mem_singleton.mp hnew
        exact h.pending_lt ptr isIdr (hprepared.dispatched ptr isIdr rfl)
    | cachePacket => cases hnew
    | mergeClients => cases hnew
    | regist other => cases hnew
    | leave other => cases hnew

/-- A client is served by its callback, once for each packet handed to it. -/
theorem served_client {metadata : Metadata} {es : List (RelayEvent R)}
    {e : FanoutEvent PacketPtr R} {r : R} {d d' : PacketDispatcher PacketPtr R}
    {phase phase' : Phase PacketPtr} {hands : List PacketPtr}
    {c c₁ : FlvClient} {packets : List RtmpPacket}
    (hpackets : packets = (messages es).map RtmpPacket.processed)
    (hreceivable : forall pkt, pkt ∈ messages es -> Receivable pkt)
    (htypes : forall pkt, pkt ∈ messages es ->
      pkt.msgTypeId = msgAudio ∨ pkt.msgTypeId = msgVideo)
    (hhands : forall ptr, ptr ∈ hands -> ptr < (messages es).length)
    (hfanout : run Fanout.step (Fanout.start PacketDispatcher.kMaxPacketCacheSize)
      (fanoutEvents es) = some ⟨d, phase⟩)
    (hnext : Fanout.step ⟨d, phase⟩ e = some ⟨d', phase'⟩)
    (hread : (d'.readers r).read = (d.readers r).read ++ hands)
    (h : Served metadata es r (d.readers r).read c) (hrenewed : Renewed e r c c₁) :
    exists c₂, Relay.serve packets c₁ hands = some c₂ ∧
      c₂.joined = c₁.joined ∧
        Served metadata (es ++ [.fanout e]) r (d'.readers r).read c₂ := by
  rcases h with ⟨front, order, back, delivered, hes, hconfigs, hprefix, hheard,
    halive, horder, hdelivered, script, hscript, hsent⟩
  have hes₁ : es ++ [.fanout e] =
      front ++ .startMuxing r c₁.startPts order :: (back ++ [.fanout e]) := by
    rw [hrenewed.startPts_eq, hes, List.append_assoc]
    rfl
  cases hmuxer : c₁.muxerAlive with
  | false =>
      have hleft : .leave r ∈ fanoutEvents es ∨ e = .leave r := by
        have hnot := mt hrenewed.alive_iff.mpr (Bool.eq_false_iff.mp hmuxer)
        rw [halive] at hnot
        tauto
      have hpacketsLt : forall ptr, ptr ∈ hands -> ptr < packets.length := by
        rw [hpackets, List.length_map]
        exact hhands
      refine ⟨c₁, serve_dead hpacketsLt hmuxer, rfl, front, order,
        back ++ [.fanout e], delivered, hes₁, hconfigs, ?_, ?_, ?_, ?_⟩
      · rw [hread]
        exact hprefix.trans (List.prefix_append _ _)
      · unfold heard
        rw [stayed_concat_of_left (hleft.imp_right (congrArg _))]
        exact hheard
      · rw [fanoutEvents_fanout, hmuxer]
        apply iff_of_false Bool.false_ne_true
        rw [not_not, List.mem_append, List.mem_singleton]
        exact hleft.imp_right Eq.symm
      · rw [messages_fanout]
        refine ⟨horder, hdelivered, script, hscript, ?_⟩
        rw [hrenewed.sent_eq, hrenewed.startPts_eq]
        exact hsent
  | true =>
      rcases hrenewed.alive_iff.mp hmuxer with ⟨hmuxerBefore, hne⟩
      have hstays := halive.mp hmuxerBefore
      have hstays₁ : .leave r ∉ fanoutEvents (es ++ [.fanout e]) := by
        rw [fanoutEvents_fanout, List.mem_append, List.mem_singleton, not_or]
        exact ⟨hstays, fun heq => hne heq.symm⟩
      have hall : delivered = (d.readers r).read := by
        have hwhole := heard_of_stays hstays hfanout
        cases hheard.symm.trans hwhole
        rfl
      have hfanout₁ : run Fanout.step
          (Fanout.start PacketDispatcher.kMaxPacketCacheSize)
          (fanoutEvents (es ++ [.fanout e])) = some ⟨d', phase'⟩ := by
        rw [fanoutEvents_fanout]
        exact run_snoc.mpr ⟨⟨d, phase⟩, hfanout, hnext⟩
      subst hpackets
      rcases serve_alive hreceivable htypes hhands hmuxer with
        ⟨pieces, hserve, hbytes⟩
      refine ⟨_, hserve, rfl, front, order, back ++ [.fanout e],
        delivered ++ hands, hes₁, hconfigs, ?_, ?_, ?_, ?_⟩
      · rw [hread, hall]
      · rw [heard_of_stays hstays₁ hfanout₁, hread, hall]
      · exact iff_of_true hmuxer hstays₁
      · rw [messages_fanout]
        refine ⟨horder, ?_, script, hscript, ?_⟩
        · intro ptr hptr
          rcases List.mem_append.mp hptr with hold | hnew
          · exact hdelivered ptr hold
          · exact hhands ptr hnew
        · rw [List.flatten_append, hbytes, hrenewed.sent_eq, hsent,
            hrenewed.startPts_eq]
          simp [tagsAt, List.filterMap_append, List.append_assoc]

/-- Where the invariant holds, no callback throws: the dispatcher's operation
goes through whenever the publisher and the clients get that far. -/
theorem fanout_total {metadata : Metadata} {es : List (RelayEvent R)}
    {d : PacketDispatcher PacketPtr R} {s s₁ : Relay W R}
    {e : FanoutEvent PacketPtr R} {f : Fanout PacketPtr R}
    (h : RelayInvariant metadata es d s)
    (hreceivable : forall pkt, pkt ∈ messages es -> Receivable pkt)
    (hprepare : s.prepare e = some s₁)
    (hf : Fanout.step ⟨d, s.phase⟩ e = some f) :
    exists s', s.fanout e = some s' ∧
      s'.ingest = { s.ingest with source := { s.ingest.source with
        dispatcher := some f.dispatcher } } ∧
      s'.phase = f.phase ∧ s'.pending = s₁.pending ∧
      RelayInvariant metadata (es ++ [.fanout e]) f.dispatcher s' := by
  have hprepared := prepare_ok hprepare
  have hlt := handed_lt h hprepared
  have hhands : forall r ptr, ptr ∈ (Fanout.mk d s.phase).hands r e ->
      ptr < (messages es).length := by
    intro r ptr hptr
    rcases List.mem_map.mp (hands_distributed h.fanout hptr) with
      ⟨p, hp, hfst⟩
    rw [← hfst]
    exact hlt p.1 p.2 hp
  have hclient : forall r c₁, s₁.clients r = some c₁ ->
      exists c₂, s₁.served ⟨d, s.phase⟩ e r = some (some c₂) ∧
        c₂.joined = c₁.joined ∧
          Served metadata (es ++ [.fanout e]) r (f.dispatcher.readers r).read
            c₂ := by
    intro r c₁ hc₁
    rcases hprepared.known r c₁ hc₁ with ⟨c, hc, hrenewed⟩
    have hpackets : s₁.ingest.packets =
        (messages es).map RtmpPacket.processed := by
      rw [hprepared.ingest_eq]
      exact h.packets_eq
    rcases served_client hpackets hreceivable h.types (hhands r) h.fanout hf
      (step_read r hf) (h.served r c hc) hrenewed with
      ⟨c₂, hserve, hjoined, hserved⟩
    refine ⟨c₂, ?_, hjoined, hserved⟩
    simp only [Relay.served, hc₁, hserve, Option.map_some]
  have hstranger : forall r, s₁.clients r = none ->
      s₁.served ⟨d, s.phase⟩ e r = some none := by
    intro r hnone
    simp only [Relay.served, hnone]
  have hall : forall r, r ∈ d.oldClients ∪ d.newClients ->
      (s₁.served ⟨d, s.phase⟩ e r).isSome := by
    intro r _
    cases hc₁ : s₁.clients r with
    | none => rw [hstranger r hc₁, Option.isSome_some]
    | some c₁ =>
        rcases hclient r c₁ hc₁ with ⟨c₂, hc₂, _⟩
        rw [hc₂, Option.isSome_some]
  refine ⟨{
    ingest := { s.ingest with source := { s.ingest.source with
      dispatcher := some f.dispatcher } }
    phase := f.phase
    pending := s₁.pending
    clients := fun r => (s₁.served ⟨d, s.phase⟩ e r).join },
    ?_, rfl, rfl, rfl, ?_⟩
  · unfold Relay.fanout
    rw [hprepare, Option.bind_eq_bind, Option.bind_some, hprepared.ingest_eq,
      h.dispatcher_eq, Option.bind_eq_bind, Option.bind_some,
      hprepared.phase_eq, hf, Option.bind_eq_bind, Option.bind_some,
      if_pos hall]
    rfl
  · constructor
    · rw [messages_fanout]
      exact h.types
    · rw [messages_fanout]
      exact h.packets_eq
    · exact h.metaData_eq
    · rw [messages_fanout]
      exact h.configFrames
    · rfl
    · rw [fanoutEvents_fanout]
      exact run_snoc.mpr ⟨⟨d, s.phase⟩, h.fanout, hf⟩
    · rw [fanoutEvents_fanout, messages_fanout]
      exact hlt
    · intro ptr isIdr hpending
      rw [messages_fanout]
      exact h.pending_lt ptr isIdr (hprepared.pending _ hpending)
    · intro r hregist
      rw [fanoutEvents_fanout, List.mem_append, List.mem_singleton] at hregist
      have hjoined : exists c₁, s₁.clients r = some c₁ ∧ c₁.joined = true := by
        rcases hregist with hold | hnew
        · rcases h.joined r hold with ⟨c, hc, hjoined⟩
          rcases hprepared.kept r c hc with ⟨c₁, hc₁, hrenewed⟩
          exact ⟨c₁, hc₁, hrenewed.joined hjoined⟩
        · exact hprepared.joined r hnew.symm
      rcases hjoined with ⟨c₁, hc₁, hjoined⟩
      rcases hclient r c₁ hc₁ with ⟨c₂, hc₂, hsame, _⟩
      exact ⟨c₂, congrArg Option.join hc₂, hsame.trans hjoined⟩
    · intro r hleave
      rw [fanoutEvents_fanout, List.mem_append, List.mem_singleton] at hleave
      have hclientBefore : exists c, s.clients r = some c := by
        rcases hleave with hold | hnew
        · exact h.known r hold
        · exact hprepared.left r hnew.symm
      rcases hclientBefore with ⟨c, hc⟩
      rcases hprepared.kept r c hc with ⟨c₁, hc₁, _⟩
      rcases hclient r c₁ hc₁ with ⟨c₂, hc₂, _⟩
      exact ⟨c₂, congrArg Option.join hc₂⟩
    · intro r c hc
      change (s₁.served ⟨d, s.phase⟩ e r).join = some c at hc
      cases hc₁ : s₁.clients r with
      | none =>
          rw [hstranger r hc₁] at hc
          cases hc
      | some c₁ =>
          rcases hclient r c₁ hc₁ with ⟨c₂, hc₂, _, hserved⟩
          rw [hc₂] at hc
          cases hc
          exact hserved

theorem fanout_invariant {metadata : Metadata} {es : List (RelayEvent R)}
    {d : PacketDispatcher PacketPtr R} {s s' : Relay W R}
    {e : FanoutEvent PacketPtr R} (h : RelayInvariant metadata es d s)
    (hreceivable : forall pkt, pkt ∈ messages es -> Receivable pkt)
    (hstep : s.fanout e = some s') :
    exists d', RelayInvariant metadata (es ++ [.fanout e]) d' s' := by
  rcases Option.bind_eq_some_iff.mp hstep with ⟨s₁, hprepare, hstep₁⟩
  rcases Option.bind_eq_some_iff.mp hstep₁ with ⟨d₁, hd₁, hstep₂⟩
  rcases Option.bind_eq_some_iff.mp hstep₂ with ⟨f, hf, _⟩
  rw [(prepare_ok hprepare).ingest_eq, h.dispatcher_eq] at hd₁
  cases hd₁
  rw [(prepare_ok hprepare).phase_eq] at hf
  rcases fanout_total h hreceivable hprepare hf with ⟨t, ht, _, _, _, hinv⟩
  cases ht.symm.trans hstep
  exact ⟨f.dispatcher, hinv⟩

/-!
## `process_av_packet` in one go

When nothing comes between its sections, the events are the function.
-/

theorem processAvPacket_run {regist : W -> Except String W}
    {h264DecSeqParameterSet : Bytes -> Bool} {metadata : Metadata}
    {es : List (RelayEvent R)} {d : PacketDispatcher PacketPtr R}
    {s : Relay W R} {pkt : RtmpPacket} {ingest : Ingest W R} {u : PUnit}
    (h : RelayInvariant metadata es d s)
    (hreceivable : forall pkt, pkt ∈ messages es -> Receivable pkt)
    (hpkt : Receivable pkt) (hphase : s.phase = .idle)
    (hpending : s.pending = none)
    (hprocess : processAvPacket (registNew regist) h264DecSeqParameterSet
      s.ingest.packets.length
      { s.ingest with packets := s.ingest.packets ++ [pkt] } = .ok u ingest) :
    exists fs s', run (Relay.step regist h264DecSeqParameterSet) s
        (.message pkt :: fs) = some s' ∧
      s'.ingest = ingest ∧ s'.phase = .idle ∧ s'.pending = none := by
  rcases bind_eq_ok hprocess with ⟨isIdr, accepted, haccept, hdistribute⟩
  have hreceive : s.receive regist h264DecSeqParameterSet pkt = some { s with
      ingest := accepted
      pending := isIdr.map fun isIdr => (s.ingest.packets.length, isIdr) } := by
    simp only [Relay.receive, Feed.receive, hphase, hpending, haccept,
      Option.map_some]
  have hinv := receive_invariant h hreceive
  have hmessages : forall pkt', pkt' ∈ messages (es ++ [.message pkt]) ->
      Receivable pkt' := by
    intro pkt' hmem
    rw [messages_append, List.mem_append] at hmem
    rcases hmem with hold | hnew
    · exact hreceivable pkt' hold
    · rw [List.mem_singleton.mp hnew]
      exact hpkt
  cases isIdr with
  | none =>
      cases hdistribute
      exact ⟨[], _, run_cons.mpr ⟨_, hreceive, rfl⟩, rfl, hphase, rfl⟩
  | some isIdr =>
      change distribute s.ingest.packets.length isIdr accepted = _ at hdistribute
      unfold distribute at hdistribute
      rw [show accepted.source.dispatcher = some d from hinv.dispatcher_eq]
        at hdistribute
      cases hdistribute
      have hnext : forall {es : List (RelayEvent R)} {e}, messages es =
          messages (es ++ [.fanout e]) := by
        intro es e
        exact (messages_fanout es e).symm
      rcases fanout_total hinv hmessages
        (e := .dispatchOld s.ingest.packets.length isIdr)
        (if_pos rfl) (by rw [hphase]; rfl) with
        ⟨s₁, hs₁, hingest₁, hphase₁, hpending₁, hinv₁⟩
      rcases fanout_total hinv₁ (hnext ▸ hmessages) (e := .cachePacket) rfl
        (by rw [hphase₁]; rfl) with
        ⟨s₂, hs₂, hingest₂, hphase₂, hpending₂, hinv₂⟩
      rcases fanout_total hinv₂ (hnext ▸ hnext ▸ hmessages) (e := .mergeClients)
        rfl (by rw [hphase₂]; rfl) with
        ⟨s₃, hs₃, hingest₃, hphase₃, hpending₃, _⟩
      refine ⟨[.fanout (.dispatchOld s.ingest.packets.length isIdr),
        .fanout .cachePacket, .fanout .mergeClients], s₃, ?_, ?_, hphase₃, ?_⟩
      · simp only [run_cons, run_nil]
        exact ⟨_, hreceive, s₁, hs₁, s₂, hs₂, s₃, hs₃, rfl⟩
      · rw [hingest₃, hingest₂, hingest₁]
        rfl
      · rw [hpending₃, hpending₂, hpending₁]

/-!
## Whole runs
-/

theorem start_invariant {metaData : Option MetaDataPtr}
    {maps : MetaDataPtr -> Option Metadata} {registry : W}
    {ingest : Ingest W R} {u : PUnit}
    (h : initTracks metaData { registry := registry, maps := maps } =
      .ok u ingest) :
    exists metadata,
      RelayInvariant metadata [] .create (Relay.start ingest) := by
  rcases initTracks_ok h with ⟨ptr, metadata, demuxer, hmap, hingest⟩
  subst hingest
  refine ⟨metadata, ?_, rfl, hmap, ?_, rfl, rfl, ?_, ?_, ?_, ?_, ?_⟩
  · intro pkt hpkt
    cases hpkt
  · constructor
    · exact List.nodup_nil
    · intro msgTypeId ptr
      constructor
      · intro hmem
        cases hmem
      · rintro ⟨pkt, hpkt, _⟩
        cases hpkt
  · intro ptr isIdr hmem
    cases hmem
  · intro ptr isIdr hpending
    cases hpending
  · intro r hregist
    cases hregist
  · intro r hleave
    cases hleave
  · intro r c hc
    cases hc

theorem run_invariant {regist : W -> Except String W}
    {h264DecSeqParameterSet : Bytes -> Bool} {metadata : Metadata}
    {es : List (RelayEvent R)} {s s' : Relay W R}
    (hstart : RelayInvariant metadata [] .create s)
    (hreceivable : forall pkt, pkt ∈ messages es -> Receivable pkt)
    (h : run (Relay.step regist h264DecSeqParameterSet) s es = some s') :
    exists d, RelayInvariant metadata es d s' := by
  revert hreceivable
  apply run_history
    (I := fun es s' => (forall pkt, pkt ∈ messages es -> Receivable pkt) ->
      exists d, RelayInvariant metadata es d s') _ _ h
  · intro _
    exact ⟨.create, hstart⟩
  · intro es t e t' _ ih he hreceivable
    have hbefore : forall pkt, pkt ∈ messages es -> Receivable pkt := by
      intro pkt hpkt
      apply hreceivable
      rw [messages_append]
      exact List.mem_append_left _ hpkt
    rcases ih hbefore with ⟨d, hinv⟩
    cases e with
    | message pkt => exact ⟨d, receive_invariant hinv he⟩
    | startMuxing r startPts order =>
        exact ⟨d, startMuxing_invariant hinv hbefore he⟩
    | fanout e => exact fanout_invariant hinv hbefore he

/--
Behind the file header and the script tag a client is sent tags, and these are
the config frames at its start, and then the packets that the dispatcher calls
its callback with as long as its muxer is there, those before its start time left
out.
-/
theorem relay_faithful {regist : W -> Except String W}
    {h264DecSeqParameterSet : Bytes -> Bool} {metaData : Option MetaDataPtr}
    {maps : MetaDataPtr -> Option Metadata} {registry : W}
    {ingest : Ingest W R} {u : PUnit} {es : List (RelayEvent R)}
    {s : Relay W R} {r : R} {c : FlvClient}
    (hinit : initTracks metaData { registry := registry, maps := maps } =
      .ok u ingest)
    (hreceivable : forall pkt, pkt ∈ messages es -> Receivable pkt)
    (h : run (Relay.step regist h264DecSeqParameterSet)
      (Relay.start ingest) es = some s)
    (hc : s.clients r = some c) :
    exists d front order back delivered script body metadata,
      run Fanout.step (Fanout.start PacketDispatcher.kMaxPacketCacheSize)
          (fanoutEvents es) = some ⟨d, s.phase⟩ ∧
        es = front ++ .startMuxing r c.startPts order :: back ∧
        ConfigFrames (messages front) order ∧
        heard r es = some delivered ∧
        delivered <+: (d.readers r).read ∧
        (.leave r ∉ fanoutEvents es ->
          c.muxerAlive = true ∧ delivered = (d.readers r).read) ∧
        (forall ptr, ptr ∈ delivered -> ptr < (messages es).length) ∧
        s.ingest.metadata = some metadata ∧
        sendMetadata metadata = .ok script ∧
        c.sent.flatten = sendFlvHeader.flatten ++ script.flatten ++ body ∧
        parseTags body =
          some (tagsAt (messages es) (order.map Prod.snd) ++
            (tagsAt (messages es) delivered).filter (wanted c.startPts)) := by
  rcases start_invariant hinit with ⟨metadata, hstart⟩
  rcases run_invariant hstart hreceivable h with ⟨d, hinv⟩
  rcases hinv.served r c hc with ⟨front, order, back, delivered, hes, hconfigs,
    hprefix, hheard, halive, horder, hdelivered, script, hscript, hsent⟩
  have hall : .leave r ∉ fanoutEvents es ->
      c.muxerAlive = true ∧ delivered = (d.readers r).read := by
    intro hstays
    have hwhole := heard_of_stays hstays hinv.fanout
    cases hheard.symm.trans hwhole
    exact ⟨halive.mpr hstays, rfl⟩
  have hwellFormed : forall tag, tag ∈
      tagsAt (messages es) (order.map Prod.snd) ++
        (tagsAt (messages es) delivered).filter (wanted c.startPts) ->
      tag.WellFormed := by
    intro tag htag
    rcases List.mem_append.mp htag with hconfig | hpacket
    · exact tagsAt_wellFormed hreceivable hinv.types hconfig
    · exact tagsAt_wellFormed hreceivable hinv.types
        (List.mem_filter.mp hpacket).1
  exact ⟨d, front, order, back, delivered, script, _, metadata, hinv.fanout, hes,
    hconfigs, hheard, hprefix, hall, hdelivered, hinv.metaData_eq, hscript, hsent,
    parseTags_bytes hwellFormed⟩

end Invariant

theorem audioPacket_receivable {timeStamp : Nat} {payload : Bytes}
    (hpayload : payload ≠ []) (hlength : payload.length < 2 ^ 24)
    (htime : timeStamp < 2 ^ 32) :
    Receivable (audioPacket timeStamp payload) := by
  have hunread : (audioPacket timeStamp payload).buf.unread = payload :=
    List.take_length
  constructor
  · exact ⟨Nat.zero_le _, Nat.le_refl _, rfl⟩
  · rw [hunread]
    exact hpayload
  · rw [hunread]
    exact hlength
  · exact htime

/-- The events of a message that is passed on. -/
def aired {R : Type} (ptr : PacketPtr) (isIdr : Bool) (pkt : RtmpPacket) :
    List (RelayEvent R) :=
  [.message pkt, .fanout (.dispatchOld ptr isIdr), .fanout .cachePacket,
    .fanout .mergeClients]

/-- A config frame, then a reader that starts at 6, then one packet too early
for it and one with an extended timestamp, and one when it has gone. -/
def audioEvents : List (RelayEvent Nat) :=
  [.message (audioPacket 0 [0xAF, 0, 0x12, 0x10]), .startMuxing 7 6 [(8, 0)],
      .fanout (.regist 7)] ++
    aired 1 false (audioPacket 5 [0xAF, 1, 0x21]) ++
      aired 2 false (audioPacket 40000000 [0xAF, 1, 0x33]) ++
        [.fanout (.leave 7)] ++ aired 3 false (audioPacket 40000005 [0xAF, 1, 0x44])

/-- The source of a publisher with this metadata. -/
def announcedIngest (metadata : Metadata) (demuxer : RtmpDemuxer) :
    Ingest Unit Nat where
  maps := fun _ => some metadata
  registry := ()
  source := {
    demuxer := demuxer
    metaData := some 0
    dispatcher := some .create }

def audioIngest : Ingest Unit Nat :=
  announcedIngest audioMetadata
    { audioRtmpDecoder := some { track := some {} } }

theorem audioIngest_init :
    initTracks (some 0) ({ registry := (), maps := fun _ => some audioMetadata } :
      Ingest Unit Nat) = .ok ⟨⟩ audioIngest :=
  initTracks_of_ok rfl initTracksWithMetadata_announced.1

theorem audioEvents_run :
    exists s c, run (Relay.step (fun u => .ok u) fun _ => true)
        (Relay.start audioIngest) audioEvents = some s ∧
      s.clients 7 = some c ∧ c.startPts = 6 ∧
        s.ingest.metadata = some audioMetadata ∧
          heard 7 audioEvents = some [1, 2] := by
  have hends : ((run (Relay.step (fun u => .ok u) fun _ => true)
      (Relay.start audioIngest) audioEvents).any fun s =>
        (s.clients 7).any fun c => decide (c.startPts = 6 ∧
          s.ingest.metadata = some audioMetadata ∧
            heard 7 audioEvents = some [1, 2])) = true := by
    decide +kernel
  rcases (Option.any_eq_true _ _).mp hends with ⟨s, hrun, hs⟩
  rcases (Option.any_eq_true _ _).mp hs with ⟨c, hc, hfacts⟩
  exact ⟨s, c, hrun, hc, of_decide_eq_true hfacts⟩

theorem audioEvents_start {front back : List (RelayEvent Nat)} {startPts : Nat}
    {order : List (Nat × PacketPtr)}
    (h : audioEvents = front ++ .startMuxing 7 startPts order :: back) :
    front = [.message (audioPacket 0 [0xAF, 0, 0x12, 0x10])] ∧
      order = [(8, 0)] := by
  simp [audioEvents, aired, List.cons_eq_append_iff] at h
  exact ⟨h.1, h.2.1.2⟩

theorem audioEvents_receivable (pkt : RtmpPacket)
    (hpkt : pkt ∈ messages audioEvents) : Receivable pkt := by
  have hmessages : messages audioEvents =
      [audioPacket 0 [0xAF, 0, 0x12, 0x10], audioPacket 5 [0xAF, 1, 0x21],
        audioPacket 40000000 [0xAF, 1, 0x33],
        audioPacket 40000005 [0xAF, 1, 0x44]] := rfl
  rw [hmessages] at hpkt
  simp only [List.mem_cons, List.not_mem_nil, or_false] at hpkt
  rcases hpkt with hpkt | hpkt | hpkt | hpkt <;> rw [hpkt] <;>
    exact audioPacket_receivable (by decide) (by decide) (by decide)

/-- The client is sent the config frame and one of the three packets: the first
one is too early for it, and with the last one it has gone. -/
theorem relay_faithful_audio :
    exists s c script body,
      run (Relay.step (fun u => .ok u) fun _ => true) (Relay.start audioIngest)
          audioEvents = some s ∧
        s.clients 7 = some c ∧ c.startPts = 6 ∧
        heard 7 audioEvents = some [1, 2] ∧
        sendMetadata audioMetadata = .ok script ∧
        c.sent.flatten = sendFlvHeader.flatten ++ script.flatten ++ body ∧
        parseTags body =
          some [⟨msgAudio, 0, [0xAF, 0, 0x12, 0x10]⟩,
            ⟨msgAudio, 40000000, [0xAF, 1, 0x33]⟩] := by
  rcases audioEvents_run with ⟨s, c, hrun, hc, hstartPts, hmetadata, hheard⟩
  rcases relay_faithful audioIngest_init audioEvents_receivable hrun hc with
    ⟨d, front, order, back, delivered, script, body, metadata, _, hes, _, hheard',
      _, _, _, hmetadata', hscript, hsent, hparse⟩
  cases hheard.symm.trans hheard'
  cases hmetadata.symm.trans hmetadata'
  rw [(audioEvents_start hes).2, hstartPts] at hparse
  exact ⟨s, c, script, body, hrun, hc, hstartPts, hheard, hscript, hsent, hparse⟩

end Flv
end Streaming
