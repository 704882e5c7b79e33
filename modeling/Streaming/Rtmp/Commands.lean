import Streaming.Rtmp.AmfObjects
import Streaming.Rtmp.Messages
import Streaming.Rtmp.Writing

/-!
# The commands of a client and what is sent for them

`on_process_cmd` and the handlers that it calls.  The way in which a message is
sent is a parameter: a connection writes chunks, and a log keeps what has been
said.  What the handlers need of the media sources is a parameter too.
-/

namespace Streaming
namespace Rtmp

open AmfDecoder AmfEncoder Foundation Media Network Util

def text (s : String) : Bytes :=
  s.toUTF8.toList

/-!
## The messages
-/

namespace AmfValue

/-- An object with these entries `set` one after the other. -/
def ofEntries (entries : List (Bytes × AmfValue)) : AmfValue :=
  object (entries.foldl (fun value entry => emplace entry.1 entry.2 value) [])

def version : AmfValue :=
  ofEntries [(text "fmsVer", string (text "FMS/3,0,1,123")),
    -- 31.0
    (text "capabilities", number 0x403F000000000000)]

def connectStatus : AmfValue :=
  ofEntries [(text "level", string (text "status")),
    (text "code", string (text "NetConnection.Connect.Success")),
    (text "description", string (text "Connection succeeded"))]

def publishStatus (level code : String) (description : Bytes) : AmfValue :=
  ofEntries [(text "level", string (text level)),
    (text "code", string (text code)), (text "description", string description),
    (text "clientid", string (text "0"))]

end AmfValue

def connectResult (transactionId : UInt64) : Bytes :=
  AmfValue.connectStatus.write (AmfValue.version.write
    (writeDouble (writeString [] (text "_result")) transactionId))

def bwDone : Bytes :=
  writeNull (writeDouble (writeString [] (text "onBWDone")) 0)

def createStreamResult (transactionId : UInt64) : Bytes :=
  writeDouble (writeNull
    (writeDouble (writeString [] (text "_result")) transactionId)) 0

def onStatus (transactionId : UInt64) (status : AmfValue) : Bytes :=
  status.write (writeNull
    (writeDouble (writeString [] (text "onStatus")) transactionId))

def publishStart (transactionId : UInt64) : Bytes :=
  onStatus transactionId (AmfValue.publishStatus "status"
    "NetStream.Publish.Start" (text "Start publishing"))

/-- `ex.what()` is a C string. -/
def publishBadName (transactionId : UInt64) (what : Bytes) : Bytes :=
  onStatus transactionId (AmfValue.publishStatus "error"
    "NetStream.Publish.BadName" (cStr what))

/-!
## The handlers
-/

/-- The members that the handlers of commands use, and those behind them. -/
structure ClientState (W : Type) where
  transactionId : UInt64 := 0
  mediaInfo : Option MediaInfo := none
  world : W

/-- The rest of the server.  None of it sends anything on the connection. -/
structure Sources (W : Type) where
  canPush : W -> Bool
  /-- What `find` gives for complete information, and the `try` block of
  `on_amf_publish`. -/
  takeSource : W -> MediaInfo -> Except Bytes PUnit × W
  onProcessMetadata : W -> RtmpPacket -> Except (Fault BadPointer) PUnit × W
  processAvPacket : W -> RtmpPacket -> Except (Fault BadPointer) PUnit × W

section Handlers

variable {W S : Type} (sources : Sources W) (send : Bytes -> S -> Exit S)

/-- `send_rtmp` for a command. -/
def reply (payload : Bytes) (p : S × ClientState W) : Exit (S × ClientState W) :=
  match send payload p.1 with
  | .done s => .done (s, p.2)
  | .threw what s => .threw what (s, p.2)
  | .crashed => .crashed

def onAmfConnect (dec : FlatBuffer) (p : S × ClientState W) :
    Exit (S × ClientState W) :=
  match loadObject dec with
  | .error what _ => .threw what p
  | .ok params _ =>
      match (do
          MediaInfo.setApp (<- Server.asString params ['a', 'p', 'p'])
          MediaInfo.setTcUrl
            (<- Server.asString params ['t', 'c', 'U', 'r', 'l']))
            (MediaInfo.create kRtmpSchema) with
      | .error what info => .threw what (p.1, { p.2 with mediaInfo := some info })
      | .ok _ info =>
          (reply send (connectResult p.2.transactionId)
            (p.1, { p.2 with mediaInfo := some info })).bind (reply send bwDone)

def onAmfCreateStream (p : S × ClientState W) : Exit (S × ClientState W) :=
  reply send (createStreamResult p.2.transactionId) p

/-- Without media information a null pointer is followed.  The exception that is
thrown behind the answer is a copy that has lost its text. -/
def onAmfPublish (dec : FlatBuffer) (p : S × ClientState W) :
    Exit (S × ClientState W) :=
  match expect amfNull "publish cmd expects NULL" dec with
  | .error what _ => .threw what p
  | .ok _ dec =>
      match p.2.mediaInfo with
      | none => .crashed
      | some info =>
          match loadString dec with
          | .error what _ => .threw what p
          | .ok stream _ =>
              match info.parseStream stream with
              | .error what => .threw what p
              | .ok info =>
                  if info.isComplete then
                    match sources.takeSource p.2.world info with
                    | (.ok _, world) =>
                        reply send (publishStart p.2.transactionId)
                          (p.1, { p.2 with mediaInfo := some info, world })
                    | (.error what, world) =>
                        (reply send (publishBadName p.2.transactionId what)
                          (p.1, { p.2 with mediaInfo := some info, world })).bind
                            (.threw "std::exception")
                  else
                    -- `find` is called in front of the `try` block.
                    .threw "cannot find media source with empty params"
                      (p.1, { p.2 with mediaInfo := some info })

def onCommand (command : Command) (dec : FlatBuffer) (p : S × ClientState W) :
    Exit (S × ClientState W) :=
  match command with
  | .connect => onAmfConnect send dec p
  | .createStream => onAmfCreateStream send p
  | .publish => onAmfPublish sources send dec p

/-- `on_process_cmd` -/
def processCmd (p : S × ClientState W) (pkt : RtmpPacket) :
    Exit (S × ClientState W) :=
  match loadString pkt.buf with
  | .error what _ => .threw what p
  | .ok method dec =>
      match cmdFuncs method with
      | none => .done p
      | some command =>
          match loadDouble dec with
          | .error what _ => .threw what p
          | .ok transactionId dec =>
              onCommand sources send command dec
                (p.1, { p.2 with transactionId := UInt64.ofNat transactionId })

/-- A handler that sends nothing. -/
def silent (handler : W -> RtmpPacket -> Except (Fault BadPointer) PUnit × W)
    (p : S × ClientState W) (pkt : RtmpPacket) : Exit (S × ClientState W) :=
  match handler p.2.world pkt with
  | (.ok _, world) => .done (p.1, { p.2 with world })
  | (.error (.exception what), world) => .threw what (p.1, { p.2 with world })
  | (.error (.undefined _), _) => .crashed

end Handlers

/-- `send_rtmp` of a command on the connection. -/
def SendSide.sendCommand (depth : Nat) (payload : Bytes) (side : SendSide) :
    Exit SendSide :=
  side.sendRtmp depth msgCmd side.msgStreamId payload 0 chunkClientRequestBefore

/-- A connection with these handlers. -/
def Sources.env {W : Type} (sources : Sources W) (fresh : Nat -> HeaderFields)
    (stackDepth : Nat) (handshakeS1 : Bytes) : Env (ClientState W) where
  canPush := fun app => sources.canPush app.world
  onProcessCmd := processCmd sources (SendSide.sendCommand stackDepth)
  onProcessMetadata := silent sources.onProcessMetadata
  processAvPacket := silent sources.processAvPacket
  fresh := fresh
  stackDepth := stackDepth
  handshakeS1 := handshakeS1

end Rtmp
end Streaming
