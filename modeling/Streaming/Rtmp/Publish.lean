import Streaming.Foundation.Run
import Streaming.Media.Registry
import Streaming.Rtmp.MediaSource

/-!
# Publishing

The connections, media sources and registry of a server.  Connections are served
by several threads, each of them by one thread at a time, so that the functions
of one connection may come between the steps of another's.  The steps are those
in which something shared is read or changed: the registry, the ownership of a
source, the pointers that keep it alive.
-/

namespace Streaming
namespace Rtmp

open Foundation Media Util

/-!
## Connections and sources
-/

/-- An `rtmp_media_source` with what others know of it. -/
structure SharedSource (R : Type) where
  /-- `media_info_`, which the source shares with the connection. -/
  info : Nat := 0
  alive : Bool := false
  /-- `owned_` -/
  owned : Bool := false
  data : RtmpMediaSource R := {}

/-- How far the handler of a connection has come.  Within `on_amf_publish`, the
stages are named after what has been done last. -/
inductive Stage where
  | idle
  | parsed
  | found (mediaPtr : Option SourcePtr)
  | dropped (mediaPtr : SourcePtr)
  | won (rtmpSrc : SourcePtr)
  /-- In `process_av_packet`, behind the check of source and ownership. -/
  | pushing (pkt : RtmpPacket)
  /-- The handler has thrown, or the connection is being destroyed. -/
  | stopped
  deriving DecidableEq

/-- The source that a local variable of the handler points to. -/
def Stage.pointer : Stage -> Option SourcePtr
  | found mediaPtr => mediaPtr
  | dropped mediaPtr => some mediaPtr
  | won rtmpSrc => some rtmpSrc
  | _ => none

inductive Answer where
  /-- `NetStream.Publish.Start`, for the key that was published. -/
  | start (k : StreamKey)
  /-- `NetStream.Publish.BadName` -/
  | badName
  deriving DecidableEq

/-- The part of an `rtmp_protocol` that has to do with publishing. -/
structure Publisher where
  mediaInfo : Option Nat := none
  rtmpSource : Option SourcePtr := none
  /-- `src_ownership_`, by the source that the token is of. -/
  srcOwnership : Option SourcePtr := none
  metaData : Metadata := []
  /-- `meta_data_` has not been destroyed. -/
  metaDataAlive : Bool := true
  stage : Stage := .idle
  /-- What the latest publish command was answered. -/
  answer : Option Answer := none
  isOpen : Bool := true

def Publisher.Holds (p : Publisher) (s : SourcePtr) : Prop :=
  p.rtmpSource = some s ∨ p.stage.pointer = some s

instance (p : Publisher) (s : SourcePtr) : Decidable (p.Holds s) :=
  inferInstanceAs (Decidable (_ ∨ _))

structure Server (R : Type) where
  publishers : Nat -> Publisher := fun _ => {}
  /-- The connections that have been accepted are those below. -/
  accepted : Nat := 0
  infos : Nat -> MediaInfo := fun _ => {}
  infoCount : Nat := 0
  sources : SourcePtr -> SharedSource R := fun _ => {}
  sourceCount : Nat := 0
  registry : Registry := .empty
  packets : List RtmpPacket := []
  /-- Sources that the handlers of pulling clients point to. -/
  pulling : List SourcePtr := []

namespace Server

section Steps

variable {R : Type}

def alive (w : Server R) (s : SourcePtr) : Bool := (w.sources s).alive

def isRegistered (w : Server R) (s : SourcePtr) : Bool :=
  (w.sources s).data.isRegistered

/-- The key that the media information of a source has by now. -/
def keyOf (w : Server R) (s : SourcePtr) : StreamKey :=
  (w.infos (w.sources s).info).key

def setPublisher (w : Server R) (c : Nat) (p : Publisher) : Server R :=
  { w with publishers := Function.update w.publishers c p }

def setSource (w : Server R) (s : SourcePtr) (source : SharedSource R) :
    Server R :=
  { w with sources := Function.update w.sources s source }

/-!
## Pointers
-/

/-- Whether a shared pointer to the source is left. -/
def held (w : Server R) (s : SourcePtr) : Bool :=
  decide (s ∈ w.pulling) ||
    (List.range w.accepted).any fun c => decide ((w.publishers c).Holds s)

/-- The destructor, which calls `unregist`. -/
def destroy (w : Server R) (s : SourcePtr) : Server R :=
  { w.setSource s { w.sources s with
      alive := false
      data := { (w.sources s).data with isRegistered := false } } with
    registry := w.registry.eraseMediaSource w.alive s (w.keyOf s) }

/-- A pointer has gone away; with the last one, so does the source. -/
def dropPointer (w : Server R) : Option SourcePtr -> Server R
  | none => w
  | some s => if w.held s then w else w.destroy s

/-- `src_ownership_.reset()`, which runs the deleter of a token. -/
def dropOwnership (w : Server R) (c : Nat) : Server R :=
  let w' := w.setPublisher c { w.publishers c with srcOwnership := none }
  match (w.publishers c).srcOwnership with
  | none => w'
  | some s =>
      if w.alive s then w'.setSource s { w.sources s with owned := false }
      else w'

/-- The handler throws: its local variables go, the session is shut down. -/
def fail (w : Server R) (c : Nat) : Server R :=
  (w.setPublisher c { w.publishers c with stage := .stopped, isOpen := false }).dropPointer
    (w.publishers c).stage.pointer

/-!
## `on_amf_connect`
-/

def connect (w : Server R) (c : Nat) (app tcUrl : Bytes) : Option (Server R) :=
  let create := fun info =>
    { w.setPublisher c { w.publishers c with mediaInfo := some w.infoCount } with
      infos := Function.update w.infos w.infoCount info
      infoCount := w.infoCount + 1 }
  match (w.publishers c).stage with
  | .idle =>
      match (do MediaInfo.setApp app; MediaInfo.setTcUrl tcUrl)
          (MediaInfo.create kRtmpSchema) with
      | .ok _ info => some (create info)
      | .error _ info => some ((create info).fail c)
  | _ => none

/-!
## `on_amf_publish`
-/

/-- The call of `parse_stream`.  Before a connect command, `media_info_` is null
and the process dies. -/
def publish (w : Server R) (c : Nat) (stream : Bytes) : Option (Server R) :=
  let p := { w.publishers c with answer := none }
  match (w.publishers c).stage, (w.publishers c).mediaInfo with
  | .idle, some i =>
      match MediaInfo.parseStream stream (w.infos i) with
      | .error _ => some ((w.setPublisher c p).fail c)
      | .ok info =>
          some { w.setPublisher c { p with stage := .parsed } with
            infos := Function.update w.infos i info }
  | _, _ => none

/-- The exception is answered before it goes on to the session. -/
def badName (w : Server R) (c : Nat) : Server R :=
  (w.setPublisher c { w.publishers c with answer := some .badName }).fail c

/-- The lookup, which is not inside the `try`. -/
def findSource (w : Server R) (c i : Nat) : Server R :=
  match w.registry.find w.alive (w.infos i).key with
  | .error _ => w.fail c
  | .ok (mediaPtr, _) =>
      w.setPublisher c { w.publishers c with stage := .found mediaPtr }

def newSource (w : Server R) (i : Nat) : Server R :=
  { w.setSource w.sourceCount { info := i, alive := true } with
    sourceCount := w.sourceCount + 1 }

/-- `src_ownership_ = …->get_ownership()`, when the source is not owned and the
connection has no token. -/
def takeOwnership (w : Server R) (c : Nat) (s : SourcePtr) : Server R :=
  (w.setSource s { w.sources s with owned := true }).setPublisher c
    { w.publishers c with srcOwnership := some s, stage := .won s }

/-- A source is created; its token takes the place of the one before. -/
def createSource (w : Server R) (c i : Nat) : Server R :=
  if (w.infos i).schema = kRtmpSchema ∧ (w.infos i).isComplete = true then
    ((w.newSource i).dropOwnership c).takeOwnership c w.sourceCount
  else
    w.badName c

/-- Drop the connection's own token, which may be of the same source. -/
def reconnect (w : Server R) (c : Nat) (mediaPtr : SourcePtr) : Server R :=
  let w := w.dropOwnership c
  w.setPublisher c { w.publishers c with stage := .dropped mediaPtr }

def getOwnership (w : Server R) (c : Nat) (mediaPtr : SourcePtr) : Server R :=
  if (w.sources mediaPtr).owned then w.badName c
  else w.takeOwnership c mediaPtr

/-- Assign `rtmp_source_` and answer. -/
def startPublish (w : Server R) (c i : Nat) (rtmpSrc : SourcePtr) : Server R :=
  (w.setPublisher c { w.publishers c with
    rtmpSource := some rtmpSrc
    stage := .idle
    answer := some (.start (w.infos i).key) }).dropPointer
      (w.publishers c).rtmpSource

/-- The next step of `on_amf_publish`. -/
def publishNext (w : Server R) (c : Nat) : Option (Server R) :=
  match (w.publishers c).stage, (w.publishers c).mediaInfo with
  | .parsed, some i => some (w.findSource c i)
  | .found none, some i => some (w.createSource c i)
  | .found (some mediaPtr), some _ => some (w.reconnect c mediaPtr)
  | .dropped mediaPtr, some _ => some (w.getOwnership c mediaPtr)
  | .won rtmpSrc, some i => some (w.startPublish c i rtmpSrc)
  | _, _ => none

/-!
## Metadata, audio and video
-/

/-- `emplace`, which leaves an entry that is there already. -/
def emplace (metaData : Metadata) (entry : Bytes × Any) : Metadata :=
  if (metaData.lookup entry.1).isSome then metaData else metaData ++ [entry]

/-- The `meta_data_` of a connection, as long as it is there. -/
def maps (w : Server R) (c : MetaDataPtr) : Option Metadata :=
  if (w.publishers c).metaDataAlive then some (w.publishers c).metaData
  else none

def ingest (w : Server R) (s : SourcePtr) : Ingest Registry R where
  packets := w.packets
  maps := w.maps
  registry := w.registry
  source := (w.sources s).data

def restore (w : Server R) (s : SourcePtr) (g : Ingest Registry R) : Server R :=
  { w.setSource s { w.sources s with data := g.source } with
    packets := g.packets
    registry := g.registry }

/-- Call a function of a source.  The handler lets exceptions through. -/
def callSource (w : Server R) (c : Nat) (s : SourcePtr)
    (call : RtmpMediaSource.Call Registry R PUnit) : Server R :=
  match call (w.ingest s) with
  | .ok _ g => w.restore s g
  | .error _ g => (w.restore s g).fail c

/-- `on_process_metadata`, with the entries of the object that was decoded. -/
def processMetadata (w : Server R) (c : Nat) (entries : Metadata) :
    Option (Server R) :=
  let metaData := entries.foldl emplace (w.publishers c).metaData
  let w' := w.setPublisher c { w.publishers c with metaData := metaData }
  match (w.publishers c).stage, (w.publishers c).rtmpSource with
  | .idle, none => some (w'.fail c)
  | .idle, some s =>
      some (w'.callSource c s (RtmpMediaSource.initTracks (some c)))
  | _, _ => none

/-- The check in `handle_chunk`. -/
def checkAv (w : Server R) (c : Nat) (pkt : RtmpPacket) : Option (Server R) :=
  match (w.publishers c).stage with
  | .idle =>
      if (w.publishers c).rtmpSource = none ∨
          (w.publishers c).srcOwnership = none then
        some (w.fail c)
      else
        some (w.setPublisher c { w.publishers c with stage := .pushing pkt })
  | _ => none

def registSource (w : Server R) (s : SourcePtr) (registry : Registry) :
    Except String (Option Registry) :=
  registry.regist w.alive s (w.keyOf s)

def processAv [DecidableEq R] (h264DecSeqParameterSet : Bytes -> Bool)
    (w : Server R) (c : Nat) : Option (Server R) :=
  match (w.publishers c).stage, (w.publishers c).rtmpSource with
  | .pushing pkt, some s =>
      let w' := { w.setPublisher c { w.publishers c with stage := .idle } with
        packets := w.packets ++ [pkt] }
      some (w'.callSource c s (RtmpMediaSource.processAvPacket
        (w.registSource s) h264DecSeqParameterSet w.packets.length))
  | _, _ => none

/-!
## The end of a connection, and pulling clients
-/

/-- The destructor of the session, one member after the other, the last one that
was declared first. -/
def destruct (w : Server R) (c : Nat) : Option (Server R) :=
  let p : Publisher := { w.publishers c with stage := .stopped }
  if w.accepted <= c ∨ p.isOpen = true ∨
      ((w.publishers c).stage ≠ .idle ∧ (w.publishers c).stage ≠ .stopped) then
    none
  else
    match p.metaDataAlive, p.srcOwnership, p.rtmpSource with
    | true, _, _ => some (w.setPublisher c { p with metaDataAlive := false })
    | false, some _, _ => some ((w.setPublisher c p).dropOwnership c)
    | false, none, some s =>
        some ((w.setPublisher c { p with rtmpSource := none }).dropPointer
          (some s))
    | false, none, none => some (w.setPublisher c { p with mediaInfo := none })

/-- A client looks a source up, and points to it while its handler runs. -/
def pull (w : Server R) (k : StreamKey) : Server R :=
  match w.registry.find w.alive k with
  | .ok (some s, _) => { w with pulling := s :: w.pulling }
  | _ => w

def letGo (w : Server R) (i : Nat) : Server R :=
  { w with pulling := w.pulling.eraseIdx i }.dropPointer w.pulling[i]?

end Steps

end Server

inductive ServerEvent where
  | accept
  | connect (c : Nat) (app tcUrl : Bytes)
  | publish (c : Nat) (stream : Bytes)
  | publishNext (c : Nat)
  | metadata (c : Nat) (entries : Metadata)
  /-- An audio or video message. -/
  | av (c : Nat) (pkt : RtmpPacket)
  | process (c : Nat)
  /-- A message whose handler throws for another reason. -/
  | malformed (c : Nat)
  /-- The socket is closed. -/
  | close (c : Nat)
  | destruct (c : Nat)
  | pull (k : StreamKey)
  | letGo (i : Nat)

namespace Server

/-- The connection that an event happens on. -/
def connection : ServerEvent -> Option Nat
  | .connect c _ _ => some c
  | .publish c _ => some c
  | .publishNext c => some c
  | .metadata c _ => some c
  | .av c _ => some c
  | .process c => some c
  | .malformed c => some c
  | .close c => some c
  | .destruct c => some c
  | _ => none

def handle {R : Type} [DecidableEq R] (h264DecSeqParameterSet : Bytes -> Bool)
    (w : Server R) : ServerEvent -> Option (Server R)
  | .accept => some { w with accepted := w.accepted + 1 }
  | .connect c app tcUrl => w.connect c app tcUrl
  | .publish c stream => w.publish c stream
  | .publishNext c => w.publishNext c
  | .metadata c entries => w.processMetadata c entries
  | .av c pkt => w.checkAv c pkt
  | .process c => w.processAv h264DecSeqParameterSet c
  | .malformed c =>
      if (w.publishers c).stage = .idle then some (w.fail c) else none
  | .close c =>
      some (w.setPublisher c { w.publishers c with isOpen := false })
  | .destruct c => w.destruct c
  | .pull k => some (w.pull k)
  | .letGo i => some (w.letGo i)

/-- A connection has to be accepted before anything else happens on it. -/
def step {R : Type} [DecidableEq R] (h264DecSeqParameterSet : Bytes -> Bool)
    (w : Server R) (e : ServerEvent) : Option (Server R) :=
  if (connection e).all fun c => decide (c < w.accepted) then
    w.handle h264DecSeqParameterSet e
  else
    none

/-- `live?vhost=v` -/
def liveStream : Bytes :=
  ascii ['l', 'i', 'v', 'e', '?', 'v', 'h', 'o', 's', 't', '=', 'v']

/-- `next?vhost=v` -/
def nextStream : Bytes :=
  ascii ['n', 'e', 'x', 't', '?', 'v', 'h', 'o', 's', 't', '=', 'v']

/-- A connection publishes and sends what it takes to be registered. -/
def liveEvents : List ServerEvent :=
  [.accept, .connect 0 [97] [116], .publish 0 liveStream, .publishNext 0,
    .publishNext 0, .publishNext 0, .metadata 0 audioMetadata,
    .av 0 (audioPacket 0 [0xAF, 0, 0x12, 0x10]), .process 0,
    .av 0 (audioPacket 5 [0xAF, 1, 0x21]), .process 0]

end Server

end Rtmp
end Streaming
