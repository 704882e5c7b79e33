import Streaming.Flv.Muxer
import Streaming.Http.FlvHeader
import Streaming.Rtmp.Filing
import Streaming.Rtmp.Playable

/-!
# Responses

A request is answered by `send_response`, and a stream that was found by the FLV
bytes behind it.  The header of a good response goes out before the source, its
metadata and its dispatcher are looked at; what throws then is caught and
answered once more.  The metadata belongs to the publishing connection, and
where that has destroyed it already, following the pointer is no exception that
could be caught.
-/

namespace Streaming
namespace Http

open Foundation Media Rtmp Util

inductive Status where
  | ok
  | badRequest
  | notFound
  | methodNotAllowed
  | unsupportedMediaType
  | internalServerError
  deriving DecidableEq, Repr

/-- The strings passed to `send`. -/
inductive Sent where
  /-- Status line and header fields. -/
  | header (status : Status) (isClose : Bool) (contentType : Bytes)
      (contentLength : Option Nat)
  | body (bytes : Bytes)
  | flv (bytes : Bytes)
  deriving DecidableEq

structure Reply where
  sent : List Sent := []
  /-- The source that the muxer has registered a reader with. -/
  reader : Option SourcePtr := none
  deriving DecidableEq

abbrev Handling := EStateM (Fault BadPointer) Reply

/-- A hash map may be iterated over in any order. -/
structure IterationOrder where
  order : List (Nat × PacketPtr) -> List (Nat × PacketPtr)
  perm : forall entries, (order entries).Perm entries

def k404Body : Bytes :=
  "<html><head><title>404 Not Found</title></head><body bgcolor=\"white\"><center><h1>您访问的资源不存在！</h1></center><hr><center>Not Found!</center></body></html>".toUTF8.toList

def kTextPlain : Bytes := "text/plain".toUTF8.toList
def kTextHtml : Bytes := "text/html".toUTF8.toList
def kVideoFlv : Bytes := "video/x-flv".toUTF8.toList

def sendResponse (status : Status) (isClose : Bool) (httpBody : Bytes := [])
    (contentType : Bytes := kTextPlain) : Handling PUnit :=
  modify fun r => { r with
    sent := r.sent ++
      .header status isClose contentType
        (if httpBody = [] then none else some httpBody.length) ::
      if httpBody = [] then [] else [.body httpBody] }

namespace FlvMuxer

def send (pieces : List Bytes) : Handling PUnit :=
  modify fun r => { r with sent := r.sent ++ pieces.map Sent.flv }

def sendOrThrow : Except String (List Bytes) -> Handling PUnit
  | .ok pieces => send pieces
  | .error what => throw (.exception what)

section Source

variable {R : Type}

/-- Call a function of a source that changes nothing. -/
def ask {value : Type} (w : Server R) (s : SourcePtr)
    (call : RtmpMediaSource.Call Registry R value) : Handling value :=
  match call (w.ingest s) with
  | .ok a _ => pure a
  | .error e _ => throw e

/-- `loop_config_frame`, with the packets that the map points to. -/
def loopConfigFrame (w : Server R) (s : SourcePtr) (iteration : IterationOrder) :
    Handling PUnit :=
  ((iteration.order (w.sources s).data.configFrameMap).filterMap fun entry =>
    w.packets[entry.2]?).forM fun pkt => sendOrThrow (Flv.sendConfigFrame pkt)

def startMuxing (w : Server R) (iteration : IterationOrder) :
    Option SourcePtr -> Handling PUnit
  | none => throw (.exception "flv cannot mux with invalid sources")
  | some s => do
      send Flv.sendFlvHeader
      let metaData <- ask w s RtmpMediaSource.getMetadata
      let metadata <- ask w s (RtmpMediaSource.followMetadata metaData)
      sendOrThrow (Flv.sendMetadata metadata)
      loopConfigFrame w s iteration
      let _ <- ask w s RtmpMediaSource.getDispatcher
      modify fun r => { r with reader := some s }

end Source

end FlvMuxer

/-- What `media_source::find` is called with. -/
def HttpFlvHeader.key (header : HttpFlvHeader) : StreamKey :=
  ⟨kRtmpSchema, header.vhost, header.app, header.streamId⟩

section Handlers

variable {R : Type}

def startFlvMuxing (w : Server R) (iteration : IterationOrder)
    (header : HttpFlvHeader) : Handling PUnit :=
  match w.registry.find w.alive header.key with
  | .error what => throw (.exception what)
  | .ok (_, false) => sendResponse .notFound true k404Body kTextHtml
  | .ok (mediaSrc, true) => do
      sendResponse .ok false [] kVideoFlv
      FlvMuxer.startMuxing w iteration mediaSrc

def onHttpGet (w : Server R) (iteration : IterationOrder)
    (header : HttpFlvHeader) : Handling PUnit :=
  if header.isFlv then startFlvMuxing w iteration header
  else sendResponse .unsupportedMediaType true

def onSearchHttpHandler (w : Server R) (iteration : IterationOrder)
    (data : Bytes) : Handling PUnit :=
  if data = [] then
    throw (.exception "http parser received invalid packet")
  else
    match HttpFlvHeader.build data with
    | .error _ => sendResponse .badRequest true
    | .ok header =>
        match header.method with
        | .get =>
            catching (onHttpGet w iteration header) fun _ =>
              sendResponse .internalServerError true
        | _ => sendResponse .methodNotAllowed true

/-- The handler returns, and this is all that it has made the session send. -/
def Replies (w : Server R) (iteration : IterationOrder) (data : Bytes)
    (r : Reply) : Prop :=
  onSearchHttpHandler w iteration data {} = .ok ⟨⟩ r

end Handlers

/-!
## One response
-/

def Sent.isHeader : Sent -> Bool
  | header .. => true
  | _ => false

def Sent.isFlv : Sent -> Bool
  | flv _ => true
  | _ => false

/-- There is one status line, in front, and without a reader it is that of an
error, with no FLV behind it. -/
def OneResponse (r : Reply) : Prop :=
  exists status isClose contentType contentLength rest,
    r.sent = .header status isClose contentType contentLength :: rest ∧
      (forall piece, piece ∈ rest -> piece.isHeader = false) ∧
        (r.reader = none -> status ≠ .ok ∧
          forall piece, piece ∈ rest -> piece.isFlv = false)

/-- The handler returns, with one response. -/
def AnswersOnce {R : Type} (w : Server R) (iteration : IterationOrder)
    (data : Bytes) : Prop :=
  exists r, Replies w iteration data r ∧ OneResponse r

/-- The entry of a key points to a source that is gone, or to one that has
outlived the metadata of the connection that gave it: another connection, or the
handler of another client, still holds the source. -/
def Orphaned {R : Type} (w : Server R) (k : StreamKey) : Prop :=
  exists s, w.registry.entry k = some s ∧
    (w.alive s = true ->
      exists c, (w.sources s).data.metaData = some c ∧
        (w.publishers c).metaDataAlive = false)

/-- A well-formed request for a key with such an entry. -/
def FindsOrphan {R : Type} (w : Server R) (data : Bytes) : Prop :=
  exists header, HttpFlvHeader.build data = .ok header ∧
    header.method = .get ∧ header.key.Complete ∧ Orphaned w header.key

theorem oneResponse_error {status : Status} (hstatus : status ≠ .ok)
    (isClose : Bool) (httpBody contentType : Bytes) :
    exists r, sendResponse status isClose httpBody contentType {} = .ok ⟨⟩ r ∧
      OneResponse r := by
  refine ⟨_, rfl, status, isClose, contentType, _, _, rfl, ?_, ?_⟩
  · intro piece hpiece
    split at hpiece
    · cases hpiece
    · rw [List.mem_singleton.mp hpiece]
      rfl
  · intro _
    refine ⟨hstatus, ?_⟩
    intro piece hpiece
    split at hpiece
    · cases hpiece
    · rw [List.mem_singleton.mp hpiece]
      rfl

/-!
## What the muxer sends
-/

namespace FlvMuxer

/-- The program returns, and has sent nothing but FLV bytes. -/
def SendsFlv (m : Handling PUnit) : Prop :=
  forall r, exists pieces : List Bytes,
    m r = .ok ⟨⟩ { r with sent := r.sent ++ pieces.map Sent.flv }

theorem sendsFlv_pure : SendsFlv (pure ⟨⟩) := by
  intro r
  refine ⟨[], ?_⟩
  rw [List.map_nil, List.append_nil]
  rfl

theorem sendsFlv_send (pieces : List Bytes) : SendsFlv (send pieces) :=
  fun _ => ⟨pieces, rfl⟩

theorem SendsFlv.bind {m : Handling PUnit} {f : PUnit -> Handling PUnit}
    (hm : SendsFlv m) (hf : SendsFlv (f ⟨⟩)) : SendsFlv (m >>= f) := by
  intro r
  rcases hm r with ⟨first, hfirst⟩
  rcases hf { r with sent := r.sent ++ first.map Sent.flv } with ⟨last, hlast⟩
  refine ⟨first ++ last, ?_⟩
  change EStateM.bind m f r = _
  unfold EStateM.bind
  rw [hfirst]
  simp only [hlast, List.map_append, List.append_assoc]

theorem sendsFlv_of_ok {result : Except String (List Bytes)}
    (h : exists pieces, result = .ok pieces) : SendsFlv (sendOrThrow result) := by
  rcases h with ⟨pieces, hresult⟩
  rw [hresult]
  exact sendsFlv_send pieces

theorem writeFlv_ok (t : Nat) (data : Bytes) {size : Nat} (timeStamp : Nat)
    (h : 0 < size) :
    exists pieces, Flv.writeFlv t data size timeStamp = .ok pieces := by
  unfold Flv.writeFlv
  rw [if_neg (Nat.ne_of_gt h)]
  exact ⟨_, rfl⟩

theorem sendMetadata_ok (metadata : Metadata) :
    exists pieces, Flv.sendMetadata metadata = .ok pieces :=
  writeFlv_ok _ _ _ (List.length_pos_iff.mpr
    (AmfEncoder.writeMetadata_ne_nil _ metadata))

theorem sendConfigFrame_ok {pkt : RtmpPacket} (h : 0 < pkt.buf.unreadLength) :
    exists pieces, Flv.sendConfigFrame pkt = .ok pieces := by
  unfold Flv.sendConfigFrame
  split
  · exact ⟨[], rfl⟩
  · exact writeFlv_ok _ _ _ h

theorem sendsFlv_forM {frames : List RtmpPacket}
    (h : forall pkt, pkt ∈ frames -> 0 < pkt.buf.unreadLength) :
    SendsFlv (frames.forM fun pkt => sendOrThrow (Flv.sendConfigFrame pkt)) := by
  induction frames with
  | nil => exact sendsFlv_pure
  | cons pkt frames ih =>
      apply SendsFlv.bind (f := fun _ => frames.forM fun pkt =>
        sendOrThrow (Flv.sendConfigFrame pkt))
      · exact sendsFlv_of_ok (sendConfigFrame_ok (h pkt List.mem_cons_self))
      · exact ih fun pkt' hmem => h pkt' (List.mem_cons_of_mem pkt hmem)

section Source

variable {R : Type}

theorem loopConfigFrame_sendsFlv {w : Server R} (hw : w.Playable)
    (s : SourcePtr) (iteration : IterationOrder) :
    SendsFlv (loopConfigFrame w s iteration) := by
  apply sendsFlv_forM
  intro pkt hpkt
  rcases List.mem_filterMap.mp hpkt with ⟨entry, hentry, hfound⟩
  rcases hw.frames s entry ((iteration.perm _).mem_iff.mp hentry) with
    ⟨found, hfound', hunread⟩
  cases hfound'.symm.trans hfound
  exact hunread

theorem ask_of_ok {value : Type} {w : Server R} {s : SourcePtr}
    {call : RtmpMediaSource.Call Registry R value} {a : value}
    (h : call (w.ingest s) = .ok a (w.ingest s)) : ask w s call = pure a := by
  unfold ask
  rw [h]

theorem ask_getMetadata {w : Server R} {s : SourcePtr} {c : MetaDataPtr}
    (h : (w.sources s).data.metaData = some c) :
    ask w s RtmpMediaSource.getMetadata = pure c := by
  apply ask_of_ok
  unfold RtmpMediaSource.getMetadata
  rw [show (w.ingest s).source.metaData = some c from h]

/-- Nothing fails behind the check of the pointer while the metadata is there. -/
theorem startMuxing_ok {w : Server R} (hw : w.Playable) {s : SourcePtr}
    (hs : (w.sources s).data.dispatcher.isSome = true) {c : MetaDataPtr}
    (hc : (w.sources s).data.metaData = some c)
    (hthere : (w.publishers c).metaDataAlive = true)
    (iteration : IterationOrder) (r : Reply) :
    exists pieces : List Bytes,
      startMuxing w iteration (some s) r = .ok ⟨⟩
        { sent := r.sent ++ pieces.map Sent.flv, reader := some s } := by
  rcases Option.isSome_iff_exists.mp hs with ⟨dispatcher, hdispatcher⟩
  have haskMetadata : ask w s (RtmpMediaSource.followMetadata c) =
      pure (w.publishers c).metaData := by
    apply ask_of_ok
    have hmap : (w.ingest s).maps c = some (w.publishers c).metaData :=
      if_pos hthere
    unfold RtmpMediaSource.followMetadata
    rw [hmap]
    rfl
  have haskDispatcher :
      ask w s RtmpMediaSource.getDispatcher = pure dispatcher := by
    apply ask_of_ok
    unfold RtmpMediaSource.getDispatcher
    rw [show (w.ingest s).source.dispatcher = some dispatcher from hdispatcher]
  have hsends : SendsFlv (do
      send Flv.sendFlvHeader
      sendOrThrow (Flv.sendMetadata (w.publishers c).metaData)
      loopConfigFrame w s iteration) := by
    apply SendsFlv.bind (sendsFlv_send _)
    apply SendsFlv.bind (sendsFlv_of_ok (sendMetadata_ok _))
    exact loopConfigFrame_sendsFlv hw s iteration
  rcases hsends r with ⟨pieces, hpieces⟩
  refine ⟨pieces, ?_⟩
  have hprogram : startMuxing w iteration (some s) = (do
      (do
        send Flv.sendFlvHeader
        sendOrThrow (Flv.sendMetadata (w.publishers c).metaData)
        loopConfigFrame w s iteration)
      modify fun r => { r with reader := some s }) := by
    unfold startMuxing
    simp only [ask_getMetadata hc, haskMetadata, haskDispatcher, pure_bind,
      bind_assoc]
  rw [hprogram]
  change EStateM.bind _ _ r = _
  unfold EStateM.bind
  rw [hpieces]
  rfl

/-- The metadata has gone: the pointer is followed behind the FLV header. -/
theorem startMuxing_undefined {w : Server R} {s : SourcePtr} {c : MetaDataPtr}
    (hc : (w.sources s).data.metaData = some c)
    (hgone : (w.publishers c).metaDataAlive = false)
    (iteration : IterationOrder) (r : Reply) :
    exists t, startMuxing w iteration (some s) r =
      .error (.undefined .metaData) t := by
  have hmap : (w.ingest s).maps c = none :=
    if_neg (Bool.eq_false_iff.mp hgone)
  have hask : ask w s (RtmpMediaSource.followMetadata c) =
      throw (.undefined .metaData) := by
    unfold ask RtmpMediaSource.followMetadata
    rw [hmap]
    rfl
  unfold startMuxing
  simp only [ask_getMetadata hc, hask, pure_bind]
  exact ⟨_, rfl⟩

end Source

end FlvMuxer

/-!
## When there is one response
-/

section Handlers

variable {R : Type}

theorem HttpFlvHeader.build_isFlv {data : Bytes} {header : HttpFlvHeader}
    (h : build data = .ok header) : header.isFlv = true := by
  unfold build at h
  split at h
  · cases h
  · unfold extractStreamingInfo at h
    split at h
    · cases h
    · split at h
      · cases h
      · rcases except_bind_eq_ok h with ⟨_, _, h⟩
        rcases except_bind_eq_ok h with ⟨_, _, h⟩
        rcases except_bind_eq_ok h with ⟨_, _, h⟩
        rcases except_bind_eq_ok h with ⟨_, _, h⟩
        rcases except_bind_eq_ok h with ⟨_, _, h⟩
        cases h
        rfl

/-- `start_flv_muxing`, and what answers its exceptions. -/
def handled (w : Server R) (iteration : IterationOrder)
    (header : HttpFlvHeader) : Handling PUnit :=
  catching (startFlvMuxing w iteration header) fun _ =>
    sendResponse .internalServerError true

/-- The handler of a GET request returns, with one response. -/
def HandledOnce (w : Server R) (iteration : IterationOrder)
    (header : HttpFlvHeader) : Prop :=
  exists r, handled w iteration header {} = .ok ⟨⟩ r ∧ OneResponse r

/-- The lookup throws, and the exception is answered. -/
theorem handled_of_error {w : Server R} (iteration : IterationOrder)
    {header : HttpFlvHeader} {what : String}
    (hfind : w.registry.find w.alive header.key = .error what) :
    HandledOnce w iteration header := by
  have hresult : startFlvMuxing w iteration header {} =
      .error (.exception what) {} := by
    unfold startFlvMuxing
    rw [hfind]
    rfl
  unfold HandledOnce handled catching
  rw [hresult]
  exact oneResponse_error (by decide) true [] kTextPlain

theorem handled_of_missing {w : Server R} (iteration : IterationOrder)
    {header : HttpFlvHeader} {mediaSrc : Option SourcePtr}
    (hfind : w.registry.find w.alive header.key = .ok (mediaSrc, false)) :
    HandledOnce w iteration header := by
  have hresult : startFlvMuxing w iteration header =
      sendResponse .notFound true k404Body kTextHtml := by
    unfold startFlvMuxing
    rw [hfind]
  unfold HandledOnce handled catching
  rw [hresult]
  exact oneResponse_error (by decide) true k404Body kTextHtml

/-- The good response is out before the source is looked at. -/
theorem startFlvMuxing_of_found {w : Server R} (iteration : IterationOrder)
    {header : HttpFlvHeader} {mediaSrc : Option SourcePtr}
    (hfind : w.registry.find w.alive header.key = .ok (mediaSrc, true)) :
    startFlvMuxing w iteration header {} =
      FlvMuxer.startMuxing w iteration mediaSrc
        { sent := [.header .ok false kVideoFlv none] } := by
  unfold startFlvMuxing
  rw [hfind]
  rfl

/-- The source is gone behind a good response. -/
theorem handled_of_expired {w : Server R} (iteration : IterationOrder)
    {header : HttpFlvHeader}
    (hfind : w.registry.find w.alive header.key = .ok (none, true)) :
    ¬ HandledOnce w iteration header := by
  unfold HandledOnce handled catching
  rw [startFlvMuxing_of_found iteration hfind]
  rintro ⟨r, hr, _, _, _, _, rest, hsent, hheaders, _⟩
  -- the second response is what `catch` sends
  cases hr
  cases hsent
  cases hheaders _ List.mem_cons_self

/-- The source has outlived its metadata: no exception, and no response that
could be relied on. -/
theorem handled_of_dangling {w : Server R} (iteration : IterationOrder)
    {header : HttpFlvHeader} {s : SourcePtr} {c : MetaDataPtr}
    (hfind : w.registry.find w.alive header.key = .ok (some s, true))
    (hc : (w.sources s).data.metaData = some c)
    (hgone : (w.publishers c).metaDataAlive = false) :
    ¬ HandledOnce w iteration header := by
  rcases FlvMuxer.startMuxing_undefined hc hgone iteration
      { sent := [.header .ok false kVideoFlv none] } with ⟨t, hundefined⟩
  unfold HandledOnce handled catching
  rw [startFlvMuxing_of_found iteration hfind, hundefined]
  rintro ⟨r, hr, _⟩
  cases hr

theorem handled_of_alive {w : Server R} (hw : w.Playable)
    (iteration : IterationOrder) {header : HttpFlvHeader} {s : SourcePtr}
    (hentry : w.registry.entry header.key = some s)
    (hfind : w.registry.find w.alive header.key = .ok (some s, true))
    {c : MetaDataPtr} (hc : (w.sources s).data.metaData = some c)
    (hthere : (w.publishers c).metaDataAlive = true) :
    HandledOnce w iteration header := by
  rcases FlvMuxer.startMuxing_ok hw (hw.entry header.key s hentry).2 hc hthere
      iteration { sent := [.header .ok false kVideoFlv none] } with
    ⟨pieces, hpieces⟩
  unfold HandledOnce handled catching
  rw [startFlvMuxing_of_found iteration hfind, hpieces]
  refine ⟨_, rfl, .ok, false, kVideoFlv, none, pieces.map Sent.flv, rfl, ?_, ?_⟩
  · intro piece hpiece
    rcases List.mem_map.mp hpiece with ⟨bytes, _, hbytes⟩
    rw [← hbytes]
    rfl
  · intro hnone
    cases hnone

/-- A source that is there is answered for unless its metadata has gone. -/
theorem handled_found_iff {w : Server R} (hw : w.Playable)
    (iteration : IterationOrder) {header : HttpFlvHeader} {s : SourcePtr}
    (hcomplete : header.key.Complete)
    (hentry : w.registry.entry header.key = some s)
    (hfind : w.registry.find w.alive header.key = .ok (some s, true))
    (halive : w.alive s = true) :
    HandledOnce w iteration header <->
      ¬ (header.key.Complete ∧ Orphaned w header.key) := by
  rcases Option.isSome_iff_exists.mp
      (hw.metaData s (hw.entry header.key s hentry).2) with ⟨c, hc⟩
  cases hthere : (w.publishers c).metaDataAlive with
  | true =>
      constructor
      · rintro _ ⟨_, s', hs', horphan⟩
        cases hentry.symm.trans hs'
        rcases horphan halive with ⟨c', hc', hgone⟩
        cases hc.symm.trans hc'
        cases hthere.symm.trans hgone
      · intro _
        exact handled_of_alive hw iteration hentry hfind hc hthere
  | false =>
      constructor
      · intro hone
        exact absurd hone (handled_of_dangling iteration hfind hc hthere)
      · intro hnot
        exact absurd ⟨hcomplete, s, hentry, fun _ => ⟨c, hc, hthere⟩⟩ hnot

theorem handled_iff {w : Server R} (hw : w.Playable)
    (iteration : IterationOrder) (header : HttpFlvHeader) :
    HandledOnce w iteration header <->
      ¬ (header.key.Complete ∧ Orphaned w header.key) := by
  cases hfind : w.registry.find w.alive header.key with
  | error what =>
      constructor
      · rintro _ ⟨⟨hschema, hvhost, happ, hstreamId⟩, s, hentry, _⟩
        unfold Registry.find at hfind
        rw [if_neg (by simp [hschema, hvhost, happ, hstreamId]), hentry]
          at hfind
        cases hfind
      · intro _
        exact handled_of_error iteration hfind
  | ok found =>
      rcases found with ⟨mediaSrc, isFound⟩
      have hcomplete := Registry.find_complete hfind
      rcases Registry.find_ok hfind with ⟨hisFound, hmediaSrc⟩
      cases hentry : w.registry.entry header.key with
      | none =>
          rw [hentry] at hisFound
          cases hisFound
          constructor
          · rintro _ ⟨_, s, hs, _⟩
            cases hentry.symm.trans hs
          · intro _
            exact handled_of_missing iteration hfind
      | some s =>
          rw [hentry, Option.filter_some] at hmediaSrc
          rw [hentry] at hisFound
          cases hisFound
          cases halive : w.alive s with
          | false =>
              rw [halive] at hmediaSrc
              cases hmediaSrc
              constructor
              · intro hone
                exact absurd hone (handled_of_expired iteration hfind)
              · intro hnot
                refine absurd ⟨hcomplete, s, hentry, ?_⟩ hnot
                intro htrue
                cases halive.symm.trans htrue
          | true =>
              rw [halive] at hmediaSrc
              cases hmediaSrc
              exact handled_found_iff hw iteration hcomplete hentry hfind halive

/-- One request, one response, save where the entry that is found has been left
behind by its source, or its source by the metadata. -/
theorem oneResponse_iff [DecidableEq R] {h264DecSeqParameterSet : Bytes -> Bool}
    {es : List ServerEvent} {w : Server R}
    (hrun : run (Server.step h264DecSeqParameterSet) {} es = some w)
    (iteration : IterationOrder) {data : Bytes} (hdata : data ≠ []) :
    AnswersOnce w iteration data <-> ¬ FindsOrphan w data := by
  have hw : w.Shared ∧ w.Playable :=
    run_keeps Server.step_playable
      ⟨Server.start_shared, Server.start_playable⟩ hrun
  unfold AnswersOnce Replies onSearchHttpHandler
  rw [if_neg hdata]
  cases hbuild : HttpFlvHeader.build data with
  | error what =>
      constructor
      · rintro _ ⟨header, hheader, _⟩
        cases hbuild.symm.trans hheader
      · intro _
        exact oneResponse_error (by decide) true [] kTextPlain
  | ok header =>
      have horphan : FindsOrphan w data <-> header.method = .get ∧
          header.key.Complete ∧ Orphaned w header.key := by
        constructor
        · rintro ⟨found, hfound, hmethod, horphan⟩
          cases hbuild.symm.trans hfound
          exact ⟨hmethod, horphan⟩
        · rintro ⟨hmethod, horphan⟩
          exact ⟨header, hbuild, hmethod, horphan⟩
      rw [horphan]
      cases hmethod : header.method with
      | get =>
          have hget : onHttpGet w iteration header =
              startFlvMuxing w iteration header := by
            unfold onHttpGet
            rw [if_pos (HttpFlvHeader.build_isFlv hbuild)]
          simp only [hmethod, hget, true_and]
          exact handled_iff hw.2 iteration header
      | post =>
          simp only [hmethod, reduceCtorEq, false_and, not_false_eq_true,
            iff_true]
          exact oneResponse_error (by decide) true [] kTextPlain
      | invalid =>
          simp only [hmethod, reduceCtorEq, false_and, not_false_eq_true,
            iff_true]
          exact oneResponse_error (by decide) true [] kTextPlain

end Handlers

/-- `GET /a/live.flv?vhost=v&token=t HTTP/1.1` and an empty line -/
def liveRequest : Bytes :=
  ascii ['G', 'E', 'T', ' ', '/', 'a', '/', 'l', 'i', 'v', 'e', '.', 'f', 'l',
    'v', '?', 'v', 'h', 'o', 's', 't', '=', 'v', '&', 't', 'o', 'k', 'e', 'n',
    '=', 't', ' ', 'H', 'T', 'T', 'P', '/', '1', '.', '1'] ++
      [13, 10, 13, 10]

def inOrder : IterationOrder where
  order := id
  perm := List.Perm.refl

theorem oneResponse_iff_live :
    exists w : Server Nat,
      run (Server.step fun _ => true) {} Server.liveEvents = some w ∧
        (AnswersOnce w inOrder liveRequest <-> ¬ FindsOrphan w liveRequest) := by
  have hends : (run (Server.step (R := Nat) fun _ => true) {}
      Server.liveEvents).isSome := by
    decide +kernel
  rcases Option.isSome_iff_exists.mp hends with ⟨w, hrun⟩
  exact ⟨w, hrun, oneResponse_iff hrun inOrder (by decide)⟩

/-- The publisher goes while the handler of a client points to the source. -/
def outlivedEvents : List ServerEvent :=
  Server.liveEvents ++ [.pull Server.liveKey, .close 0, .destruct 0, .destruct 0,
    .destruct 0]

/-- Two status lines, where the publisher has begun another stream, and a good
one over a stream that nobody reads, where the metadata has gone. -/
theorem not_oneResponse :
    (exists w : Server Nat,
      run (Server.step fun _ => true) {} Server.renamingEvents = some w ∧
        ¬ AnswersOnce w inOrder liveRequest) ∧
      exists w : Server Nat,
        run (Server.step fun _ => true) {} outlivedEvents = some w ∧
          ¬ AnswersOnce w inOrder liveRequest := by
  constructor
  · have hends : ((run (Server.step (R := Nat) fun _ => true) {}
        Server.renamingEvents).any fun w => decide
          ((resultState (onSearchHttpHandler w inOrder liveRequest
            {})).sent.countP Sent.isHeader = 2)) = true := by
      decide +kernel
    rcases (Option.any_eq_true _ _).mp hends with ⟨w, hrun, htwice⟩
    refine ⟨w, hrun, ?_⟩
    rintro ⟨r, hr, status, isClose, contentType, contentLength, rest, hsent,
      hrest, _⟩
    have hnone : rest.countP Sent.isHeader = 0 := by
      rw [List.countP_eq_zero]
      intro piece hpiece
      rw [hrest piece hpiece]
      decide
    have hcount := of_decide_eq_true htwice
    rw [hr] at hcount
    change r.sent.countP Sent.isHeader = 2 at hcount
    rw [hsent, List.countP_cons, hnone] at hcount
    cases hcount
  · have hends : ((run (Server.step (R := Nat) fun _ => true) {}
        outlivedEvents).any fun w =>
          let r := resultState (onSearchHttpHandler w inOrder liveRequest {})
          decide (r.reader = none) &&
            decide (r.sent.head? = some (.header .ok false kVideoFlv none))) =
              true := by
      decide +kernel
    rcases (Option.any_eq_true _ _).mp hends with ⟨w, hrun, hw⟩
    simp only [Bool.and_eq_true, decide_eq_true_eq] at hw
    refine ⟨w, hrun, ?_⟩
    rintro ⟨r, hr, status, isClose, contentType, contentLength, rest, hsent, _,
      hreader⟩
    rw [hr] at hw
    change r.reader = none ∧ r.sent.head? = _ at hw
    rw [hsent] at hw
    cases hw.2
    exact (hreader hw.1).1 rfl

end Http
end Streaming
