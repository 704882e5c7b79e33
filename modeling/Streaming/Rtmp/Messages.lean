import Streaming.Rtmp.AmfDecoder
import Streaming.Rtmp.Exclusivity
import Streaming.Rtmp.Playable

/-!
# The messages of a client

What `handle_chunk` and the handlers that it calls make of a message, and which
pointers they follow: `media_info_`, `rtmp_source_`, and what a call of the
source follows, its dispatcher, decoders and tracks.  A connection may send
messages in any order and with any contents.
-/

namespace Streaming
namespace Rtmp

open AmfDecoder Foundation Media Network Util

/-!
## Reading a message
-/

inductive Command where
  | connect
  | createStream
  | publish
  deriving DecidableEq

/-- The table that maps names to handlers. -/
def cmdFuncs (method : Bytes) : Option Command :=
  if method = ascii ['c', 'o', 'n', 'n', 'e', 'c', 't'] then
    some .connect
  else if method = ascii
      ['c', 'r', 'e', 'a', 't', 'e', 'S', 't', 'r', 'e', 'a', 'm'] then
    some .createStream
  else if method = ascii ['p', 'u', 'b', 'l', 'i', 's', 'h'] then
    some .publish
  else
    none

/-- What a message asks for, as far as it has been read before a pointer is
used. -/
inductive Request where
  /-- An unknown command, or a message that is only logged. -/
  | ignored
  | connect (params : List (Bytes × Bytes))
  | createStream
  /-- `media_info_->` is evaluated before its argument, the name of the stream. -/
  | publish (stream : Except String Bytes)
  /-- The entries of the object, up to what was thrown. -/
  | metadata (entries : Metadata) (thrown : Option String)
  | av

/-- A value, or the exception that reading it throws. -/
def attempt {value : Type} (m : Load value) : Load (Except String value) :=
  fun b =>
    match m b with
    | .ok a b => .ok (.ok a) b
    | .error what b => .ok (.error what) b

/-- `on_process_cmd` and the handlers it calls, up to their uses of pointers. -/
def onProcessCmd : Load Request := do
  match cmdFuncs (<- loadString) with
  | none => return .ignored
  | some command =>
      let _ <- loadDouble
      match command with
      | .connect => return .connect (<- loadObject)
      | .createStream => return .createStream
      | .publish =>
          expect amfNull "publish cmd expects NULL"
          return .publish (<- attempt loadString)

/-- A value of another type is not read: the variable keeps the one before. -/
def loadMetaValue (value : Any) : Load Any := do
  let valueType <- peekFront
  if valueType = amfNumber then
    return some (.double (<- loadDouble))
  else if valueType = amfBoolean then
    return some (.bool (<- loadBool))
  else if valueType = amfString then
    return some (.string (<- loadString))
  else
    return value

/-- `on_process_metadata`, up to the check of `rtmp_source_`. -/
def onProcessMetadata : LoadEntries Any PUnit := do
  if (<- onFst loadString) = ascii
      ['@', 's', 'e', 't', 'D', 'a', 't', 'a', 'F', 'r', 'a', 'm', 'e'] then
    if (<- onFst loadString) = ascii
        ['o', 'n', 'M', 'e', 't', 'a', 'D', 'a', 't', 'a'] then
      onFst (FlatBuffer.consumeOrFail 5)
      loadAllEntries loadMetaValue none
      onFst (expect amfObjectEnd "expected an object end")

/-- The `switch` of `handle_chunk`. -/
def requestOf (pkt : RtmpPacket) : Except String Request :=
  if pkt.msgTypeId = msgSetChunk then
    if pkt.buf.unreadLength < 4 then .error "MSG_SET_CHUNK not enough data"
    else .ok .ignored
  else if pkt.msgTypeId = msgAck then
    if pkt.buf.unreadLength < 4 then .error "MSG_ACK not enough data"
    else .ok .ignored
  else if pkt.msgTypeId = msgCmd ∨ pkt.msgTypeId = msgCmd3 then
    pkt.inspect onProcessCmd
  else if pkt.msgTypeId = msgData ∨ pkt.msgTypeId = msgData3 then
    match onProcessMetadata (pkt.buf, []) with
    | .ok _ (_, entries) => .ok (.metadata entries none)
    | .error what (_, entries) => .ok (.metadata entries (some what))
  else if pkt.msgTypeId = msgAudio ∨ pkt.msgTypeId = msgVideo then
    .ok .av
  else
    .ok .ignored

theorem reads_loadMetaValue (value : Any) : Reads 0 (loadMetaValue value) := by
  unfold loadMetaValue
  refine reads_peekFront.bind (j := 0) fun valueType => ?_
  split_ifs
  · exact (reads_loadDouble.bind fun x => reads_pure _).mono (Nat.zero_le _)
  · exact (reads_loadBool.bind fun b => reads_pure _).mono (Nat.zero_le _)
  · exact (reads_loadString.bind fun s => reads_pure _).mono (Nat.zero_le _)
  · exact reads_pure value

/-!
## Following the pointers
-/

inductive MessageEvent where
  /-- A connection has received a message. -/
  | message (c : Nat) (pkt : RtmpPacket)
  /-- The handler of a message goes on, or something else happens. -/
  | other (e : ServerEvent)

/-- The events that messages stand for. -/
def ServerEvent.isMessage : ServerEvent -> Bool
  | connect _ _ _ => true
  | publish _ _ => true
  | metadata _ _ => true
  | av _ _ => true
  | malformed _ => true
  | _ => false

namespace Server

section Messages

variable {R : Type}

/-- `params[key].as_string()`.  A string becomes an AMF value through `c_str()`,
and a key that is missing gives a null value. -/
def asString (params : List (Bytes × Bytes)) (key : List Char) :
    EStateM String MediaInfo Bytes := fun info =>
  match params.lookup (ascii key) with
  | some value => .ok (value.takeWhile (· ≠ 0)) info
  | none => .error "AMF not a string" info

def onAmfConnect (w : Server R) (c : Nat) (params : List (Bytes × Bytes)) :
    Server R :=
  let create := fun info =>
    { w.setPublisher c { w.publishers c with mediaInfo := some w.infoCount } with
      infos := Function.update w.infos w.infoCount info
      infoCount := w.infoCount + 1 }
  match (do
      MediaInfo.setApp (<- asString params ['a', 'p', 'p'])
      MediaInfo.setTcUrl (<- asString params ['t', 'c', 'U', 'r', 'l']))
        (MediaInfo.create kRtmpSchema) with
  | .ok _ info => create info
  | .error _ info => (create info).fail c

def onAmfPublish (w : Server R) (c : Nat) (stream : Except String Bytes) :
    Option (Except BadPointer (Server R)) :=
  match (w.publishers c).mediaInfo, stream with
  | none, _ => some (.error .mediaInfo)
  | some _, .error _ =>
      some (.ok ((w.setPublisher c
        { w.publishers c with answer := none }).fail c))
  | some _, .ok stream => (w.publish c stream).map .ok

/-- The pointer that a call of a source follows although nothing is there. -/
def badPointer (w : Server R) (s : SourcePtr)
    (call : RtmpMediaSource.Call Registry R PUnit) : Option BadPointer :=
  match call (w.ingest s) with
  | .error (.undefined p) _ => some p
  | _ => none

/-- The end of `on_process_metadata`, which loads the tracks. -/
def loadTracks (w : Server R) (c : Nat) (entries : Metadata) :
    Option (Except BadPointer (Server R)) :=
  let kept := w.setPublisher c { w.publishers c with
    metaData := entries.foldl emplace (w.publishers c).metaData }
  match (w.publishers c).rtmpSource.bind fun s =>
      kept.badPointer s (RtmpMediaSource.initTracks (some c)) with
  | some p => some (.error p)
  | none => (w.processMetadata c entries).map .ok

/-- What is done about a request, or the pointer that would have to be there. -/
def answerRequest (w : Server R) (c : Nat) (pkt : RtmpPacket) :
    Request -> Option (Except BadPointer (Server R))
  | .ignored => some (.ok w)
  | .connect params => some (.ok (w.onAmfConnect c params))
  | .createStream => some (.ok w)
  | .publish stream => w.onAmfPublish c stream
  | .metadata entries none => w.loadTracks c entries
  | .metadata entries (some _) =>
      some (.ok ((w.setPublisher c { w.publishers c with
        metaData := entries.foldl emplace (w.publishers c).metaData }).fail c))
  | .av => (w.checkAv c pkt).map .ok

/-- No handler of the connection is running. -/
def Waiting (w : Server R) (c : Nat) : Prop :=
  c < w.accepted ∧ (w.publishers c).stage = .idle

instance (w : Server R) (c : Nat) : Decidable (w.Waiting c) :=
  inferInstanceAs (Decidable (_ ∧ _))

def handleChunk (w : Server R) (c : Nat) (pkt : RtmpPacket) :
    Option (Except BadPointer (Server R)) :=
  if w.Waiting c then
    match requestOf pkt with
    | .error _ => some (.ok (w.fail c))
    | .ok request => w.answerRequest c pkt request
  else
    none

/-- The pointer that a handler follows when it goes on, although nothing is
there. -/
def nullPointer [DecidableEq R] (h264DecSeqParameterSet : Bytes -> Bool)
    (w : Server R) : ServerEvent -> Option BadPointer
  | .publishNext c =>
      if (w.publishers c).stage.publishing = true ∧
          (w.publishers c).mediaInfo = none then
        some .mediaInfo
      else
        none
  | .process c =>
      match (w.publishers c).stage, (w.publishers c).rtmpSource with
      | .pushing _, none => some .rtmpSource
      | .pushing pkt, some s =>
          let pushed := { w.setPublisher c
            { w.publishers c with stage := .idle } with
              packets := w.packets ++ [pkt] }
          pushed.badPointer s (RtmpMediaSource.processAvPacket
            (w.registSource s) h264DecSeqParameterSet w.packets.length)
      | _, _ => none
  | _ => none

/-- What happens next: a new state, or a pointer is followed to nothing. -/
def follow [DecidableEq R] (h264DecSeqParameterSet : Bytes -> Bool)
    (w : Server R) : MessageEvent -> Option (Except BadPointer (Server R))
  | .message c pkt => w.handleChunk c pkt
  | .other e =>
      if e.isMessage then
        none
      else
        match w.nullPointer h264DecSeqParameterSet e with
        | some p => some (.error p)
        | none => (w.step h264DecSeqParameterSet e).map .ok

def messageStep [DecidableEq R] (h264DecSeqParameterSet : Bytes -> Bool)
    (w : Server R) (e : MessageEvent) : Option (Server R) :=
  (w.follow h264DecSeqParameterSet e).bind Except.toOption

/-!
## What other commands leave alone
-/

/-- As long as a connection is not stopped it keeps its media information and its
map, and does not begin to publish without the former. -/
def Steady (w w' : Server R) : Prop :=
  forall d, (w'.publishers d).stage ≠ .stopped ->
    (w.publishers d).stage ≠ .stopped ∧
      (w'.publishers d).mediaInfo = (w.publishers d).mediaInfo ∧
      (w'.publishers d).metaDataAlive = (w.publishers d).metaDataAlive ∧
      ((w'.publishers d).stage.publishing = true ->
        (w.publishers d).stage.publishing = true ∨
          (w.publishers d).mediaInfo ≠ none)

theorem steady_refl (w : Server R) : w.Steady w := by
  intro d hd
  exact ⟨hd, rfl, rfl, Or.inl⟩

theorem steady_setPublisher (w : Server R) (c : Nat) {p : Publisher}
    (hstage : p.stage ≠ .stopped -> (w.publishers c).stage ≠ .stopped)
    (hkept : p.stage ≠ .stopped ->
      p.mediaInfo = (w.publishers c).mediaInfo ∧
        p.metaDataAlive = (w.publishers c).metaDataAlive)
    (hpublishing : p.stage.publishing = true ->
      (w.publishers c).stage.publishing = true ∨
        (w.publishers c).mediaInfo ≠ none) :
    w.Steady (w.setPublisher c p) := by
  intro d
  by_cases hd : d = c
  · subst hd
    rw [setPublisher_self]
    intro hp
    exact ⟨hstage hp, (hkept hp).1, (hkept hp).2, hpublishing⟩
  · rw [w.setPublisher_ne hd]
    exact w.steady_refl d

theorem Steady.trans {w w' w'' : Server R} (h : w.Steady w')
    (h' : w'.Steady w'') : w.Steady w'' := by
  intro d hd
  rcases h' d hd with ⟨hstage', hinfo', hmap', hpublishing'⟩
  rcases h d hstage' with ⟨hstage, hinfo, hmap, hpublishing⟩
  refine ⟨hstage, hinfo'.trans hinfo, hmap'.trans hmap, ?_⟩
  intro hp
  rcases hpublishing' hp with hbefore | hsome
  · exact hpublishing hbefore
  · exact Or.inr (hinfo ▸ hsome)

theorem Steady.of_publishers {w w' w'' : Server R} (h : w.Steady w')
    (hsame : w''.publishers = w'.publishers) : w.Steady w'' := by
  unfold Steady
  rw [hsame]
  exact h

theorem Steady.dropPointer {w w' : Server R} (h : w.Steady w')
    (r : Option SourcePtr) : w.Steady (w'.dropPointer r) :=
  h.of_publishers (w'.dropPointer_publishers r)

theorem steady_fail (w : Server R) (c : Nat) : w.Steady (w.fail c) := by
  apply Steady.dropPointer
  exact w.steady_setPublisher c (fun h => absurd rfl h)
    (fun h => absurd rfl h) nofun

theorem steady_badName (w : Server R) (c : Nat) : w.Steady (w.badName c) := by
  have hanswer : w.Steady (w.setPublisher c
      { w.publishers c with answer := some .badName }) :=
    w.steady_setPublisher c id (fun _ => ⟨rfl, rfl⟩) Or.inl
  exact hanswer.trans (steady_fail _ c)

theorem steady_dropOwnership (w : Server R) (c : Nat) :
    w.Steady (w.dropOwnership c) := by
  intro d
  by_cases hd : d = c
  · subst hd
    rw [w.dropOwnership_self]
    exact w.steady_refl d
  · rw [w.dropOwnership_ne hd]
    exact w.steady_refl d

theorem steady_callSource (w : Server R) (c : Nat) (s : SourcePtr)
    (call : RtmpMediaSource.Call Registry R PUnit) :
    w.Steady (w.callSource c s call) := by
  unfold callSource
  split
  · exact w.steady_refl.of_publishers rfl
  · exact (w.steady_refl.of_publishers rfl).trans (steady_fail _ c)

/-- Within `on_amf_publish` the media information is kept. -/
theorem steady_advance {w : Server R} {c : Nat} {p : Publisher}
    (hstage : (w.publishers c).stage.publishing = true)
    (hinfo : p.mediaInfo = (w.publishers c).mediaInfo)
    (hmap : p.metaDataAlive = (w.publishers c).metaDataAlive) :
    w.Steady (w.setPublisher c p) := by
  apply w.steady_setPublisher c
  · intro _ hstopped
    rw [hstopped] at hstage
    cases hstage
  · exact fun _ => ⟨hinfo, hmap⟩
  · exact fun _ => Or.inl hstage

theorem steady_takeOwnership {w : Server R} {c : Nat}
    (hstage : (w.publishers c).stage.publishing = true) (s : SourcePtr) :
    w.Steady (w.takeOwnership c s) := by
  have hset : w.Steady (w.setPublisher c { w.publishers c with
      srcOwnership := some s
      stage := .won s }) := steady_advance hstage rfl rfl
  exact hset.of_publishers rfl

theorem steady_publishNext {w w' : Server R} {c : Nat}
    (h : w.publishNext c = some w') : w.Steady w' := by
  rcases publishNext_cases h with ⟨i, _, hadvance⟩
  cases hadvance with
  | find hstage =>
      unfold findSource
      split
      · exact w.steady_fail c
      · exact steady_advance (by rw [hstage]; rfl) rfl rfl
  | create hstage =>
      unfold createSource
      split
      · have hdropped : w.Steady ((w.newSource i).dropOwnership c) :=
          steady_dropOwnership (w.newSource i) c
        apply hdropped.trans
        apply steady_takeOwnership
        rw [dropOwnership_self]
        show (w.publishers c).stage.publishing = true
        rw [hstage]
        rfl
      · exact w.steady_badName c
  | reconnect s hstage =>
      apply (w.steady_dropOwnership c).trans
      apply steady_advance
      · rw [dropOwnership_self]
        show (w.publishers c).stage.publishing = true
        rw [hstage]
        rfl
      · rfl
      · rfl
  | getOwnership s hstage =>
      unfold getOwnership
      split
      · exact w.steady_badName c
      · exact steady_takeOwnership (by rw [hstage]; rfl) s
  | start s hstage =>
      apply Steady.dropPointer
      exact steady_advance (by rw [hstage]; rfl) rfl rfl

/-- A connect command apart, every event leaves that alone. -/
theorem step_steady [DecidableEq R] {h264DecSeqParameterSet : Bytes -> Bool}
    {w w' : Server R} {e : ServerEvent}
    (hstep : w.step h264DecSeqParameterSet e = some w')
    (he : forall c app tcUrl, e ≠ .connect c app tcUrl) : w.Steady w' := by
  have h := (step_cases hstep).2
  cases e with
  | accept =>
      cases h
      exact w.steady_refl
  | connect c app tcUrl => exact absurd rfl (he c app tcUrl)
  | publish c stream =>
      rcases publish_cases h with ⟨i, hidle, hi, ⟨_, hw'⟩ | ⟨info, _, hw'⟩⟩
      · rw [hw']
        have hanswer : w.Steady (w.setPublisher c
            { w.publishers c with answer := none }) :=
          w.steady_setPublisher c id (fun _ => ⟨rfl, rfl⟩) Or.inl
        exact hanswer.trans (steady_fail _ c)
      · have hparsed : w.Steady (w.setPublisher c { w.publishers c with
            answer := none
            stage := .parsed }) := by
          apply w.steady_setPublisher c
          · rw [hidle]
            nofun
          · exact fun _ => ⟨rfl, rfl⟩
          · rw [hi]
            exact fun _ => Or.inr nofun
        rw [hw']
        exact hparsed.of_publishers rfl
  | publishNext c => exact steady_publishNext h
  | metadata c entries =>
      rcases processMetadata_cases h with ⟨_, metaData, kept, _, hkept, hw'⟩
      have hkeep : w.Steady kept := by
        rw [hkept]
        exact w.steady_setPublisher c id (fun _ => ⟨rfl, rfl⟩) Or.inl
      rcases hw' with ⟨_, hw'⟩ | ⟨s, _, hw'⟩
      · rw [hw']
        exact hkeep.trans (steady_fail _ c)
      · rw [hw']
        exact hkeep.trans (steady_callSource _ c s _)
  | av c pkt =>
      rcases checkAv_cases h with ⟨hidle, hw' | ⟨_, hw'⟩⟩
      · rw [hw']
        exact w.steady_fail c
      · rw [hw']
        apply w.steady_setPublisher c
        · rw [hidle]
          nofun
        · exact fun _ => ⟨rfl, rfl⟩
        · nofun
  | process c =>
      rcases processAv_cases h with ⟨pkt, s, pushed, hpushing, _, hpushed, hw'⟩
      have hidle : w.Steady (w.setPublisher c
          { w.publishers c with stage := .idle }) := by
        apply w.steady_setPublisher c
        · rw [hpushing]
          nofun
        · exact fun _ => ⟨rfl, rfl⟩
        · nofun
      rw [hw', hpushed]
      exact Steady.trans (hidle.of_publishers rfl) (steady_callSource _ c s _)
  | malformed c =>
      rcases Option.ite_none_right_eq_some.mp h with ⟨_, hw'⟩
      cases hw'
      exact w.steady_fail c
  | close c =>
      cases h
      exact w.steady_setPublisher c id (fun _ => ⟨rfl, rfl⟩) Or.inl
  | destruct c =>
      have hstop : forall p : Publisher, p.stage = .stopped ->
          w.Steady (w.setPublisher c p) := by
        intro p hp
        apply w.steady_setPublisher c
        · exact fun hne => absurd hp hne
        · exact fun hne => absurd hp hne
        · rw [hp]
          nofun
      rcases destruct_cases h with
        ⟨_, _, _, hw' | ⟨_, s, hw'⟩ | ⟨_, hw'⟩ | hw'⟩
      · rw [hw']
        exact (hstop _ rfl).trans (steady_dropOwnership _ c)
      · rw [hw']
        exact (hstop _ rfl).dropPointer _
      · rw [hw']
        exact hstop _ rfl
      · rw [hw']
        exact hstop _ rfl
  | pull k =>
      cases h
      rcases w.pull_cases k with hsame | ⟨s, _, hpulled⟩
      · rw [hsame]
        exact w.steady_refl
      · rw [hpulled]
        exact w.steady_refl
  | letGo i =>
      cases h
      have hpulling : w.Steady { w with pulling := w.pulling.eraseIdx i } :=
        w.steady_refl
      exact hpulling.dropPointer _

/-!
## What a message does
-/

/-- The setters throw on an empty string, as `as_string` does without one. -/
theorem onAmfConnect_eq {w : Server R} {c : Nat}
    (hidle : (w.publishers c).stage = .idle)
    (params : List (Bytes × Bytes)) :
    exists app tcUrl, w.connect c app tcUrl = some (w.onAmfConnect c params) := by
  let read := fun key : List Char =>
    ((params.lookup (ascii key)).map (List.takeWhile (· ≠ 0))).getD []
  refine ⟨read ['a', 'p', 'p'], read ['t', 'c', 'U', 'r', 'l'], ?_⟩
  unfold connect onAmfConnect
  rw [hidle]
  simp only [bind, EStateM.bind, asString, read]
  cases params.lookup (ascii ['a', 'p', 'p']) with
  | none => rfl
  | some app =>
      dsimp only [Option.map_some, Option.getD_some]
      cases MediaInfo.setApp (app.takeWhile (· ≠ 0))
          (MediaInfo.create kRtmpSchema) with
      | error what info => rfl
      | ok _ info =>
          dsimp only
          cases params.lookup (ascii ['t', 'c', 'U', 'r', 'l']) with
          | none => rfl
          | some tcUrl =>
              dsimp only [Option.map_some, Option.getD_some]
              cases MediaInfo.setTcUrl (tcUrl.takeWhile (· ≠ 0)) info with
              | ok _ _ => rfl
              | error _ _ => rfl

theorem onAmfConnect_self {w : Server R} {c : Nat}
    (hidle : (w.publishers c).stage = .idle) (params : List (Bytes × Bytes)) :
    ((w.onAmfConnect c params).publishers c).mediaInfo ≠ none ∧
      ((w.onAmfConnect c params).publishers c).stage.publishing = false := by
  unfold onAmfConnect
  dsimp only
  split
  · rw [setPublisher_self, hidle]
    exact ⟨nofun, rfl⟩
  · unfold fail
    rw [dropPointer_publishers, setPublisher_self]
    dsimp only
    rw [setPublisher_self]
    exact ⟨nofun, rfl⟩

theorem onAmfConnect_map (w : Server R) (c : Nat)
    (params : List (Bytes × Bytes)) :
    ((w.onAmfConnect c params).publishers c).metaDataAlive =
      (w.publishers c).metaDataAlive := by
  unfold onAmfConnect
  dsimp only
  split
  · rw [setPublisher_self]
  · unfold fail
    rw [dropPointer_publishers, setPublisher_self]
    dsimp only
    rw [setPublisher_self]

theorem onAmfConnect_ne (w : Server R) {c d : Nat} (hd : d ≠ c)
    (params : List (Bytes × Bytes)) :
    (w.onAmfConnect c params).publishers d = w.publishers d := by
  unfold onAmfConnect
  dsimp only
  split
  · exact w.setPublisher_ne hd _
  · unfold fail
    rw [dropPointer_publishers, setPublisher_ne _ hd]
    exact w.setPublisher_ne hd _

/-- What handling a message can come to. -/
inductive Handled [DecidableEq R] (h264DecSeqParameterSet : Bytes -> Bool)
    (w : Server R) (c : Nat) : Except String Request -> Server R -> Prop where
  | connected (params : List (Bytes × Bytes)) :
      Handled h264DecSeqParameterSet w c (.ok (.connect params))
        (w.onAmfConnect c params)
  | ignored {request : Except String Request}
      (hother : forall params, request ≠ .ok (.connect params)) :
      Handled h264DecSeqParameterSet w c request w
  | stopped {request : Except String Request}
      (hother : forall params, request ≠ .ok (.connect params))
      (metaData : Metadata) (answer : Option Answer) :
      Handled h264DecSeqParameterSet w c request
        ((w.setPublisher c { w.publishers c with
          metaData := metaData
          answer := answer }).fail c)
  | stepped {request : Except String Request}
      (hother : forall params, request ≠ .ok (.connect params))
      {e : ServerEvent} {w' : Server R}
      (he : forall d app tcUrl, e ≠ .connect d app tcUrl)
      (h : w.step h264DecSeqParameterSet e = some w') :
      Handled h264DecSeqParameterSet w c request w'

theorem map_ok_eq_some {r : Option (Server R)} {w' : Server R}
    (h : (r.map .ok : Option (Except BadPointer (Server R))) =
      some (.ok w')) : r = some w' := by
  rcases Option.map_eq_some_iff.mp h with ⟨w'', hr, hw''⟩
  cases hw''
  exact hr

theorem map_ok_ne_error {r : Option (Server R)} {p : BadPointer} :
    (r.map .ok : Option (Except BadPointer (Server R))) ≠
      some (.error p) := by
  intro h
  rcases Option.map_eq_some_iff.mp h with ⟨w', _, hw'⟩
  cases hw'

/-- Behind the handler of metadata is a step, or a pointer to nothing. -/
theorem loadTracks_cases {w : Server R} {c : Nat} {entries : Metadata}
    {result : Except BadPointer (Server R)}
    (h : w.loadTracks c entries = some result) :
    (exists w', result = .ok w' ∧ w.processMetadata c entries = some w') ∨
      exists p s, result = .error p ∧ (w.publishers c).rtmpSource = some s ∧
        (w.setPublisher c { w.publishers c with
          metaData := entries.foldl emplace (w.publishers c).metaData
          }).badPointer s (RtmpMediaSource.initTracks (some c)) = some p := by
  unfold loadTracks at h
  dsimp only at h
  split at h
  · rename_i p hfollowed
    cases h
    rcases Option.bind_eq_some_iff.mp hfollowed with ⟨s, hsource, hp⟩
    exact Or.inr ⟨p, s, rfl, hsource, hp⟩
  · rcases Option.map_eq_some_iff.mp h with ⟨w', hstep, hw'⟩
    exact Or.inl ⟨w', hw'.symm, hstep⟩

theorem badPointer_eq_some {w : Server R} {s : SourcePtr}
    {call : RtmpMediaSource.Call Registry R PUnit} {p : BadPointer} :
    w.badPointer s call = some p <->
      exists g, call (w.ingest s) = .error (.undefined p) g := by
  unfold badPointer
  constructor
  · intro h
    split at h
    · rename_i q g hresult
      cases h
      exact ⟨g, hresult⟩
    · cases h
  · rintro ⟨g, hresult⟩
    rw [hresult]

theorem handleChunk_handled [DecidableEq R]
    (h264DecSeqParameterSet : Bytes -> Bool) {w w' : Server R} {c : Nat}
    {pkt : RtmpPacket} (h : w.handleChunk c pkt = some (.ok w')) :
    w.Waiting c ∧
      Handled h264DecSeqParameterSet w c (requestOf pkt) w' := by
  unfold handleChunk at h
  split at h
  · rename_i hwaiting
    refine ⟨hwaiting, ?_⟩
    split at h
    · rename_i what hrequest
      cases h
      rw [hrequest]
      exact .stepped (e := .malformed c) (by nofun) nofun
        (step_of_handle hwaiting.1 rfl (if_pos hwaiting.2))
    · rename_i request hrequest
      rw [hrequest]
      cases request with
      | ignored =>
          cases h
          exact .ignored (by nofun)
      | connect params =>
          cases h
          exact .connected params
      | createStream =>
          cases h
          exact .ignored (by nofun)
      | publish stream =>
          change w.onAmfPublish c stream = some (.ok w') at h
          unfold onAmfPublish at h
          split at h
          · cases h
          · cases h
            exact .stopped (by nofun) (w.publishers c).metaData none
          · rename_i stream _
            exact .stepped (e := .publish c stream) (by nofun) nofun
              (step_of_handle hwaiting.1 rfl (map_ok_eq_some h))
      | metadata entries thrown =>
          cases thrown with
          | none =>
              rcases loadTracks_cases h with ⟨_, hw', hstep⟩ | ⟨_, _, hw', _⟩
              · cases hw'
                exact .stepped (e := .metadata c entries) (by nofun) nofun
                  (step_of_handle hwaiting.1 rfl hstep)
              · cases hw'
          | some what =>
              cases h
              exact .stopped (by nofun) _ (w.publishers c).answer
      | av =>
          exact .stepped (e := .av c pkt) (by nofun) nofun
            (step_of_handle hwaiting.1 rfl (map_ok_eq_some h))
  · cases h

/-!
## Which pointers are there
-/

/-- A connect command of the connection has come, and its object was read. -/
def Connected (es : List MessageEvent) (c : Nat) : Prop :=
  exists pkt params, .message c pkt ∈ es ∧
    requestOf pkt = .ok (.connect params)

structure Introduced (es : List MessageEvent) (w : Server R) : Prop where
  shared : w.Shared
  playable : w.Playable
  map : forall c, (w.publishers c).stage ≠ .stopped ->
    (w.publishers c).metaDataAlive = true
  connected : forall c, (w.publishers c).stage ≠ .stopped ->
    ((w.publishers c).mediaInfo ≠ none <-> Connected es c)
  publishing : forall c, (w.publishers c).stage.publishing = true ->
    (w.publishers c).mediaInfo ≠ none

theorem start_introduced : Introduced [] ({} : Server R) where
  shared := start_shared
  playable := start_playable
  map := fun _ _ => rfl
  connected := by
    intro c _
    constructor
    · intro h
      exact absurd rfl h
    · rintro ⟨pkt, params, hmem, _⟩
      cases hmem
  publishing := nofun

theorem publishing_ne_stopped {stage : Stage} (h : stage.publishing = true) :
    stage ≠ .stopped := by
  intro hstopped
  rw [hstopped] at h
  cases h

/-- An event that is no connect command. -/
theorem Introduced.steady {es : List MessageEvent} {e : MessageEvent}
    {w w' : Server R} (h : Introduced es w) (hsteady : w.Steady w')
    (hkept : w'.Shared ∧ w'.Playable)
    (he : forall c pkt params, e = .message c pkt ->
      requestOf pkt ≠ .ok (.connect params)) : Introduced (es ++ [e]) w' where
  shared := hkept.1
  playable := hkept.2
  map := by
    intro c hc
    rcases hsteady c hc with ⟨hstage, _, hmap, _⟩
    exact hmap.trans (h.map c hstage)
  connected := by
    intro c hc
    rcases hsteady c hc with ⟨hstage, hinfo, _⟩
    rw [hinfo, h.connected c hstage]
    constructor
    · rintro ⟨pkt, params, hmem, hrequest⟩
      exact ⟨pkt, params, List.mem_append_left _ hmem, hrequest⟩
    · rintro ⟨pkt, params, hmem, hrequest⟩
      rcases List.mem_append.mp hmem with hold | hnew
      · exact ⟨pkt, params, hold, hrequest⟩
      · exact absurd hrequest
          (he c pkt params (List.mem_singleton.mp hnew).symm)
  publishing := by
    intro c hc
    rcases hsteady c (publishing_ne_stopped hc) with
      ⟨_, hinfo, _, hpublishing⟩
    rw [hinfo]
    rcases hpublishing hc with hbefore | hsome
    · exact h.publishing c hbefore
    · exact hsome

theorem Introduced.connect [DecidableEq R] {es : List MessageEvent}
    {w : Server R} {c : Nat} {pkt : RtmpPacket} (h : Introduced es w)
    (hwaiting : w.Waiting c) {params : List (Bytes × Bytes)}
    (hrequest : requestOf pkt = .ok (.connect params)) :
    Introduced (es ++ [.message c pkt]) (w.onAmfConnect c params) := by
  rcases onAmfConnect_eq hwaiting.2 params with ⟨app, tcUrl, hconnect⟩
  rcases onAmfConnect_self hwaiting.2 params with ⟨hinfo, hpublishing⟩
  have hstep : w.step (fun _ => true) (.connect c app tcUrl) =
      some (w.onAmfConnect c params) :=
    step_of_handle hwaiting.1 rfl hconnect
  have hkept : (w.onAmfConnect c params).Shared ∧
      (w.onAmfConnect c params).Playable :=
    step_playable ⟨h.shared, h.playable⟩ hstep
  refine ⟨hkept.1, hkept.2, ?_, ?_, ?_⟩
  · intro d hd
    by_cases hdc : d = c
    · subst hdc
      rw [onAmfConnect_map]
      exact h.map d (by rw [hwaiting.2]; nofun)
    · rw [w.onAmfConnect_ne hdc] at hd ⊢
      exact h.map d hd
  · intro d hd
    by_cases hdc : d = c
    · subst hdc
      refine iff_of_true hinfo ⟨pkt, params, ?_, hrequest⟩
      exact List.mem_append_right _ (List.mem_singleton_self _)
    · rw [w.onAmfConnect_ne hdc] at hd ⊢
      rw [h.connected d hd]
      constructor
      · rintro ⟨pkt', params', hmem, hrequest'⟩
        exact ⟨pkt', params', List.mem_append_left _ hmem, hrequest'⟩
      · rintro ⟨pkt', params', hmem, hrequest'⟩
        rcases List.mem_append.mp hmem with hold | hnew
        · exact ⟨pkt', params', hold, hrequest'⟩
        · cases List.mem_singleton.mp hnew
          exact absurd rfl hdc
  · intro d hd
    by_cases hdc : d = c
    · subst hdc
      exact hinfo
    · rw [w.onAmfConnect_ne hdc] at hd ⊢
      exact h.publishing d hd

theorem handleChunk_introduced [DecidableEq R]
    (h264DecSeqParameterSet : Bytes -> Bool) {es : List MessageEvent}
    {w w' : Server R} {c : Nat} {pkt : RtmpPacket} (hw : Introduced es w)
    (h : w.handleChunk c pkt = some (.ok w')) :
    Introduced (es ++ [.message c pkt]) w' := by
  rcases handleChunk_handled h264DecSeqParameterSet h with ⟨hwaiting, hhandled⟩
  generalize hrequest : requestOf pkt = request at hhandled
  have hevent : (forall params, request ≠ .ok (.connect params)) ->
      forall d pkt' params, MessageEvent.message c pkt = .message d pkt' ->
        requestOf pkt' ≠ .ok (.connect params) := by
    intro hother d pkt' params hsame
    cases hsame
    rw [hrequest]
    exact hother params
  cases hhandled with
  | connected params =>
      exact hw.connect hwaiting hrequest
  | ignored hother =>
      exact hw.steady w.steady_refl ⟨hw.shared, hw.playable⟩ (hevent hother)
  | stopped hother metaData answer =>
      have htoken := (hw.shared.token c).settled (by rw [hwaiting.2]; nofun)
      have hkept : w.Steady (w.setPublisher c { w.publishers c with
          metaData := metaData
          answer := answer }) :=
        w.steady_setPublisher c id (fun _ => ⟨rfl, rfl⟩) Or.inl
      have hshared : (w.setPublisher c { w.publishers c with
          metaData := metaData
          answer := answer }).Shared :=
        hw.shared.setPublisher hwaiting.1 (hw.shared.token c) rfl
          fun s hs => hw.shared.holds c s hs
      apply hw.steady (hkept.trans (steady_fail _ c)) _ (hevent hother)
      constructor
      · apply hshared.fail hwaiting.1
        rw [setPublisher_self]
        exact htoken
      · apply hw.playable.undisturbed
        exact (w.undisturbed_setPublisher c _).trans (undisturbed_fail _ c)
  | stepped hother he hstep =>
      exact hw.steady (step_steady hstep he)
        (step_playable ⟨hw.shared, hw.playable⟩ hstep) (hevent hother)

theorem messageStep_introduced [DecidableEq R]
    {h264DecSeqParameterSet : Bytes -> Bool} {es : List MessageEvent}
    {w w' : Server R} {e : MessageEvent} (hw : Introduced es w)
    (h : w.messageStep h264DecSeqParameterSet e = some w') :
    Introduced (es ++ [e]) w' := by
  rcases Option.bind_eq_some_iff.mp h with ⟨result, hfollow, hresult⟩
  cases result with
  | error p => cases hresult
  | ok w'' =>
      cases hresult
      cases e with
      | message c pkt =>
          exact handleChunk_introduced h264DecSeqParameterSet hw hfollow
      | other e =>
          simp only [follow] at hfollow
          split at hfollow
          · cases hfollow
          · rename_i hmessage
            split at hfollow
            · cases hfollow
            · have hstep := map_ok_eq_some hfollow
              have hother : forall c app tcUrl, e ≠ .connect c app tcUrl := by
                intro c app tcUrl he
                subst he
                exact hmessage rfl
              exact hw.steady (step_steady hstep hother)
                (step_playable ⟨hw.shared, hw.playable⟩ hstep) (by nofun)

/-- Whatever a packet holds, its call of the source follows nothing bad. -/
theorem Playable.process_eq_none [DecidableEq R] {w : Server R}
    (hw : w.Playable) (h264DecSeqParameterSet : Bytes -> Bool) (s : SourcePtr)
    (regist : Registry -> Except String (Option Registry)) (ptr : PacketPtr) :
    w.badPointer s (RtmpMediaSource.processAvPacket regist
      h264DecSeqParameterSet ptr) = none := by
  have htracked : RtmpMediaSource.Tracked (w.ingest s) := hw.tracked s
  apply Option.eq_none_iff_forall_not_mem.mpr
  intro p hp
  rcases badPointer_eq_some.mp hp with ⟨g, hundefined⟩
  exact (RtmpMediaSource.processAvPacket_safe regist h264DecSeqParameterSet
    ptr).not_undefined htracked hundefined

/-- Nor does the call that makes the tracks, with the connection's own map. -/
theorem Playable.init_eq_none {w : Server R} (hw : w.Playable) {c : Nat}
    (hmap : (w.publishers c).metaDataAlive = true) (s : SourcePtr) :
    w.badPointer s (RtmpMediaSource.initTracks (some c)) = none := by
  have htracked : RtmpMediaSource.Tracked (w.ingest s) := hw.tracked s
  have hthere : ((w.ingest s).maps c).isSome = true := by
    show (w.maps c).isSome = true
    unfold maps
    rw [if_pos hmap]
    rfl
  apply Option.eq_none_iff_forall_not_mem.mpr
  intro p hp
  rcases badPointer_eq_some.mp hp with ⟨g, hundefined⟩
  exact (RtmpMediaSource.initTracks_safe c).not_undefined
    ⟨htracked, hthere⟩ hundefined

/-- Within the handlers, the pointers are there. -/
theorem Introduced.nullPointer_eq_none [DecidableEq R]
    {es : List MessageEvent} {w : Server R} (hw : Introduced es w)
    (h264DecSeqParameterSet : Bytes -> Bool) (e : ServerEvent) :
    w.nullPointer h264DecSeqParameterSet e = none := by
  unfold nullPointer
  split
  · rename_i c
    apply if_neg
    rintro ⟨hpublishing, hnone⟩
    exact hw.publishing c hpublishing hnone
  · rename_i c
    split
    · rename_i pkt hstage hnone
      have htoken := hw.shared.token c
      unfold Publisher.TokenOk at htoken
      rw [hstage] at htoken
      exact absurd (htoken.2.trans hnone) htoken.1
    · rename_i pkt s _ _
      have hpushed : Playable { w.setPublisher c
          { w.publishers c with stage := .idle } with
            packets := w.packets ++ [pkt] } :=
        (hw.playable.undisturbed
          (w.undisturbed_setPublisher c _)).withPacket pkt
      exact hpushed.process_eq_none h264DecSeqParameterSet s _ _
    · rfl
  · rfl

/-- The handler of metadata follows nothing bad. -/
theorem Introduced.loadTracks_ne_error {es : List MessageEvent} {w : Server R}
    (hw : Introduced es w) {c : Nat} (hwaiting : w.Waiting c)
    (entries : Metadata) (p : BadPointer) :
    w.loadTracks c entries ≠ some (.error p) := by
  intro h
  have hmap := hw.map c (by rw [hwaiting.2]; nofun)
  rcases loadTracks_cases h with ⟨_, hok, _⟩ | ⟨q, s, _, _, hbad⟩
  · cases hok
  · have hkept := hw.playable.undisturbed (w.undisturbed_setPublisher c
      { w.publishers c with
        metaData := entries.foldl emplace (w.publishers c).metaData })
    rw [hkept.init_eq_none (by rw [setPublisher_self]; exact hmap) s] at hbad
    cases hbad

/-- Only a publish command meets a null pointer. -/
theorem Introduced.handleChunk_error {es : List MessageEvent} {w : Server R}
    (hw : Introduced es w) {c : Nat} {pkt : RtmpPacket} :
    (exists p, w.handleChunk c pkt = some (.error p)) <->
      w.Waiting c ∧ (w.publishers c).mediaInfo = none ∧
        exists stream, requestOf pkt = .ok (.publish stream) := by
  constructor
  · rintro ⟨p, h⟩
    unfold handleChunk at h
    split at h
    · rename_i hwaiting
      split at h
      · cases h
      · rename_i request hrequest
        cases request with
        | ignored => cases h
        | connect params => cases h
        | createStream => cases h
        | publish stream =>
            refine ⟨hwaiting, ?_, stream, hrequest⟩
            change w.onAmfPublish c stream = some (.error p) at h
            unfold onAmfPublish at h
            split at h
            · assumption
            · cases h
            · exact absurd h map_ok_ne_error
        | metadata entries thrown =>
            cases thrown with
            | none => exact absurd h (hw.loadTracks_ne_error hwaiting entries p)
            | some what => cases h
        | av => exact absurd h map_ok_ne_error
    · cases h
  · rintro ⟨hwaiting, hnone, stream, hrequest⟩
    refine ⟨.mediaInfo, ?_⟩
    unfold handleChunk
    rw [if_pos hwaiting, hrequest]
    show w.onAmfPublish c stream = _
    unfold onAmfPublish
    rw [hnone]

/-!
## Runs
-/

/-- No handler follows a null pointer, whatever has happened before. -/
def NullFree (R : Type) [DecidableEq R]
    (h264DecSeqParameterSet : Bytes -> Bool) (es : List MessageEvent) : Prop :=
  forall front e back (w : Server R), es = front ++ e :: back ->
    run (messageStep h264DecSeqParameterSet) {} front = some w ->
      forall p, w.follow h264DecSeqParameterSet e ≠ some (.error p)

/-- Every publish command that a connection handles comes after a connect
command of the same connection. -/
def ConnectsFirst (R : Type) [DecidableEq R]
    (h264DecSeqParameterSet : Bytes -> Bool) (es : List MessageEvent) : Prop :=
  forall front c pkt back (w : Server R) stream,
    es = front ++ .message c pkt :: back ->
      run (messageStep h264DecSeqParameterSet) {} front = some w ->
        w.Waiting c -> requestOf pkt = .ok (.publish stream) ->
          Connected front c

/--
Commands, metadata, audio and video may come in any order and with any contents:
a null pointer is followed only where a publish command comes before every
connect command of its connection.
-/
theorem nullFree_iff [DecidableEq R] (h264DecSeqParameterSet : Bytes -> Bool)
    (es : List MessageEvent) :
    NullFree R h264DecSeqParameterSet es <->
      ConnectsFirst R h264DecSeqParameterSet es := by
  have hintroduced : forall {front : List MessageEvent} {w : Server R},
      run (messageStep h264DecSeqParameterSet) {} front = some w ->
        Introduced front w := by
    intro front w h
    exact run_history start_introduced
      (fun _ hw he => messageStep_introduced hw he) h
  constructor
  · intro h front c pkt back w stream hes hrun hwaiting hrequest
    have hw := hintroduced hrun
    rw [← hw.connected c (by rw [hwaiting.2]; nofun)]
    intro hnone
    rcases hw.handleChunk_error.mpr ⟨hwaiting, hnone, stream, hrequest⟩ with
      ⟨p, herror⟩
    exact h front (.message c pkt) back w hes hrun p herror
  · intro h front e back w hes hrun p herror
    have hw := hintroduced hrun
    cases e with
    | message c pkt =>
        rcases hw.handleChunk_error.mp ⟨p, herror⟩ with
          ⟨hwaiting, hnone, stream, hrequest⟩
        have hbefore := h front c pkt back w stream hes hrun hwaiting hrequest
        rw [← hw.connected c (by rw [hwaiting.2]; nofun)] at hbefore
        exact hbefore hnone
    | other e =>
        simp only [follow] at herror
        split at herror
        · cases herror
        · rw [hw.nullPointer_eq_none h264DecSeqParameterSet e] at herror
          exact absurd herror map_ok_ne_error

/-- `publish`, 0.0, null and the name of a stream. -/
def publishMessage : RtmpPacket :=
  { audioPacket 0 ([2, 0, 7] ++ ascii ['p', 'u', 'b', 'l', 'i', 's', 'h'] ++
      [0, 0, 0, 0, 0, 0, 0, 0, 0] ++ [5] ++ [2, 0, 12] ++ liveStream) with
    msgTypeId := msgCmd }

/-- A connection publishes without having connected. -/
theorem not_nullFree : ¬ NullFree Nat (fun _ => true)
    [.other .accept, .message 0 publishMessage] := by
  intro h
  have hrun : run (messageStep fun _ => true) ({} : Server Nat)
      [.other .accept] = some { accepted := 1 } := rfl
  apply h [.other .accept] (.message 0 publishMessage) [] _ rfl hrun .mediaInfo
  rfl

end Messages

end Server

end Rtmp
end Streaming
