import Streaming.Foundation.Resumable
import Streaming.Rtmp.Send

/-!
# The RTMP parser

`rtmp_protocol` reads the handshake and then splits the byte stream into
chunks, collects the chunks of each message and hands complete messages to
`handle_chunk`.  What lies behind `handle_chunk` is a parameter here.
-/

namespace Streaming
namespace Rtmp

open Foundation Util Network

def kC1HandshakeSize : Nat := 1536

/-- The two packets of one chunk stream in `chunked_data_map_`. -/
structure Slot where
  now : Option RtmpPacket := none
  last : Option RtmpPacket := none
  deriving DecidableEq, Repr

/-- The member function that `next_step_func_` points to. -/
inductive NextStep where
  | handleC0C1
  | handleC2
  | splitRtmp
  deriving DecidableEq, Repr

/-- The members of `rtmp_protocol`; `app` stands for those only handlers use. -/
structure RtmpProtocol (σ : Type) where
  nextStep : NextStep := .handleC0C1
  chunkStreamId : Nat := 0
  chunkSizeIn : Nat := kDefaultChunkLength
  chunkedDataMap : Nat -> Slot := fun _ => {}
  bytesRecv : Nat := 0
  bytesRecvLast : Nat := 0
  side : SendSide := {}
  app : σ

/-- What `handle_chunk` calls for commands, data messages and media. -/
structure Handlers (σ : Type) where
  /-- Both `rtmp_source_` and `src_ownership_` are set. -/
  canPush : σ -> Bool
  onProcessCmd : SendSide × σ -> RtmpPacket -> Exit (SendSide × σ)
  onProcessMetadata : SendSide × σ -> RtmpPacket -> Exit (SendSide × σ)
  processAvPacket : SendSide × σ -> RtmpPacket -> Exit (SendSide × σ)

/-- What a connection takes from its surroundings. -/
structure Env (σ : Type) extends Handlers σ where
  /-- The uninitialised fields of the first packet on a chunk stream.  For the
  packets behind it, they are all overwritten by `restore_context`. -/
  fresh : Nat -> HeaderFields
  /-- How deep acknowledgements may nest before the stack is used up. -/
  stackDepth : Nat
  /-- The `rtmp_handshake` object that is sent as S1. -/
  handshakeS1 : Bytes

/-- Surroundings whose handlers accept everything and do nothing. -/
def Env.accepting : Env Unit where
  canPush := fun _ => true
  onProcessCmd := fun p _ => .done p
  onProcessMetadata := fun p _ => .done p
  processAvPacket := fun p _ => .done p
  fresh := fun _ => {
    chunkStreamId := 0, msgStreamId := 0, msgLength := 0, msgTypeId := 0,
    tsDelta := 0, timeStamp := 0 }
  stackDepth := 1
  handshakeS1 := []

section Protocol

variable {σ : Type}

namespace RtmpProtocol

def setSlot (st : RtmpProtocol σ) (id : Nat) (slot : Slot) : RtmpProtocol σ :=
  { st with chunkedDataMap := Function.update st.chunkedDataMap id slot }

/-- Store what a handler left of the members it may change. -/
def setApp (st : RtmpProtocol σ) (p : SendSide × σ) : RtmpProtocol σ :=
  { st with side := p.1, app := p.2 }

/-- Run a handler on the members it may change. -/
def handle (st : RtmpProtocol σ)
    (handler : SendSide × σ -> RtmpPacket -> Exit (SendSide × σ))
    (pkt : RtmpPacket) : Exit (RtmpProtocol σ) :=
  match handler (st.side, st.app) pkt with
  | .done p => .done (st.setApp p)
  | .threw what p => .threw what (st.setApp p)
  | .crashed => .crashed

end RtmpProtocol

/-- After the packet has been split, pass it here to be processed. -/
def handleChunk (env : Env σ) (st : RtmpProtocol σ) (pkt : RtmpPacket) :
    Exit (RtmpProtocol σ) :=
  if pkt.msgTypeId = msgSetChunk then
    if pkt.buf.unreadLength < 4 then .threw "MSG_SET_CHUNK not enough data" st
    else .done { st with chunkSizeIn := loadBe32 pkt.buf.data }
  else if pkt.msgTypeId = msgAck then
    if pkt.buf.unreadLength < 4 then .threw "MSG_ACK not enough data" st
    else .done st
  else if pkt.msgTypeId = msgCmd ∨ pkt.msgTypeId = msgCmd3 then
    st.handle env.onProcessCmd pkt
  else if pkt.msgTypeId = msgData ∨ pkt.msgTypeId = msgData3 then
    st.handle env.onProcessMetadata pkt
  else if pkt.msgTypeId = msgAudio ∨ pkt.msgTypeId = msgVideo then
    if env.canPush st.app then st.handle env.processAvPacket pkt
    else
      .threw
        "cannot push rtmp Audio/Video, must publish the media info first!" st
  else
    .done st

/-!
## One chunk
-/

/-- Header lengths by `fmt`, the first byte of the basic header included. -/
def kHeaderLength (fmt : Nat) : Nat :=
  [12, 8, 4, 1].getD fmt 1

/-- The chunk stream id, and how many bytes it takes beyond the first. -/
inductive BasicHeader where
  | short (chunkStreamId : Nat)
  | complete (chunkStreamId offset : Nat)

def basicHeader (data : Bytes) : BasicHeader :=
  let id := byteAt data 0 &&& 0x3F
  if id = 0 then
    if data.length < 2 then .short id
    else .complete (64 + byteAt data 1) 1
  else if id = 1 then
    if data.length < 3 then .short id
    else .complete (64 + byteAt data 1 + (byteAt data 2 <<< 8)) 2
  else
    .complete id 0

/-- The packet in progress on a chunk stream, created if there is none. -/
def nowPacket (env : Env σ) (id : Nat) (slot : Slot) : RtmpPacket :=
  match slot.now with
  | some pkt => pkt
  | none =>
      match slot.last with
      | some last =>
          { (RtmpPacket.create (env.fresh id)).restoreContext last with
            isAbsStamp := false }
      | none => { RtmpPacket.create (env.fresh id) with isAbsStamp := false }

/-- Overwrite the fields that a header of this length carries. -/
def applyHeader (headerLength : Nat) (header : Bytes) (pkt : RtmpPacket) :
    RtmpPacket :=
  match headerLength with
  | 12 =>
      { pkt with
        isAbsStamp := true
        tsDelta := loadBe24 (header.drop 1)
        msgLength := loadBe24 (header.drop 4)
        msgTypeId := byteAt header 7
        msgStreamId := loadLe32 (header.drop 8) }
  | 8 =>
      { pkt with
        tsDelta := loadBe24 (header.drop 1)
        msgLength := loadBe24 (header.drop 4)
        msgTypeId := byteAt header 7 }
  | 4 => { pkt with tsDelta := loadBe24 (header.drop 1) }
  | _ => pkt

/-- The timestamp and where the header ends, if all of it is there. -/
def extendedTimestamp (tsDelta : Nat) (data : Bytes) (headerEnd : Nat) :
    Option (Nat × Nat) :=
  if tsDelta = 0xFFFFFF then
    if data.length < headerEnd + 4 then none
    else some (loadBe32 (data.drop headerEnd), headerEnd + 4)
  else
    some (tsDelta, headerEnd)

/-- `msg_length - buf->unread_length()`, which is a `size_t`. -/
def remainMsgLen (pkt : RtmpPacket) : Nat :=
  (pkt.msgLength + 2 ^ 64 - pkt.buf.unreadLength % 2 ^ 64) % 2 ^ 64

/-- Check if the received bytes meet the threshold for an acknowledgement. -/
def acknowledgeReceived (env : Env σ) (st : RtmpProtocol σ) :
    Exit (RtmpProtocol σ) :=
  let received := counterDiff st.bytesRecv st.bytesRecvLast
  if st.side.windowsSize > 0 ∧ received >= st.side.windowsSize then
    match st.side.sendAcknowledgement env.stackDepth received with
    | .done side => .done { st with side := side, bytesRecvLast := st.bytesRecv }
    | .threw what side => .threw what { st with side := side }
    | .crashed => .crashed
  else
    .done st

/-- The packet with the message's timestamp, absolute or a delta. -/
def stampPacket (pkt : RtmpPacket) (timeStamp : Nat) : RtmpPacket :=
  { pkt with
    timeStamp :=
      (timeStamp + if pkt.isAbsStamp then 0 else pkt.timeStamp) % 2 ^ 32 }

/-- Hand a packet to `handle_chunk`. -/
def deliver (env : Env σ) (st : RtmpProtocol σ) (pkt : RtmpPacket)
    (consumed : Nat) : Attempt (RtmpProtocol σ) RtmpPacket :=
  match handleChunk env st pkt with
  | .done st => .done st [pkt] consumed
  | .threw _ st => .failed st [pkt]
  | .crashed => .failed st [pkt]

/-- Keep a complete packet as the context of the next message. -/
def keepContext (st : RtmpProtocol σ) (id : Nat) (pkt : RtmpPacket) :
    RtmpProtocol σ :=
  ({ st with
    side := { st.side with msgStreamId := pkt.msgStreamId } } :
      RtmpProtocol σ).setSlot id { now := none, last := some pkt }

/-- If the message is complete, keep the context and hand the packet over. -/
def finishChunk (env : Env σ) (st : RtmpProtocol σ) (id : Nat)
    (pkt : RtmpPacket) (timeStamp consumed : Nat) :
    Attempt (RtmpProtocol σ) RtmpPacket :=
  if pkt.msgLength = pkt.buf.unreadLength then
    let pkt := stampPacket pkt timeStamp
    let st := keepContext st id pkt
    if pkt.msgLength ≠ 0 then deliver env st pkt consumed
    else .done st [] consumed
  else
    .done st [] consumed

/-- Write a chunk's payload and count its header and the bytes received. -/
def storePayload (pkt : RtmpPacket) (headerEnd : Nat) (payload : Bytes) :
    RtmpPacket :=
  let pkt := if payload ≠ [] then { pkt with buf := pkt.buf.write payload } else pkt
  (pkt.setPktHeaderLength headerEnd).size

/-- The state once a chunk's bytes are in the packet in progress. -/
def recordChunk (st : RtmpProtocol σ) (id : Nat) (pkt : RtmpPacket) :
    RtmpProtocol σ :=
  let st := st.setSlot id { st.chunkedDataMap id with now := some pkt }
  { st with bytesRecv := (st.bytesRecv + pkt.pktHeaderLength % 2 ^ 32) % 2 ^ 64 }

/-- Take a chunk's payload into the packet in progress. -/
def takeChunk (env : Env σ) (st : RtmpProtocol σ) (id : Nat)
    (pkt : RtmpPacket) (timeStamp headerEnd : Nat) (payload : Bytes) :
    Attempt (RtmpProtocol σ) RtmpPacket :=
  let pkt := storePayload pkt headerEnd payload
  match acknowledgeReceived env (recordChunk st id pkt) with
  | .done st => finishChunk env st id pkt timeStamp (headerEnd + payload.length)
  | .threw _ st => .failed st []
  | .crashed => .failed st []

/-- Create the packet in progress if needed and read the message header. -/
def openChunk (env : Env σ) (st : RtmpProtocol σ) (id headerLength : Nat)
    (header : Bytes) : RtmpProtocol σ × RtmpPacket :=
  let st := { st with chunkStreamId := id }
  let slot := st.chunkedDataMap id
  let pkt := applyHeader headerLength header
    { nowPacket env id slot with chunkStreamId := id }
  (st.setSlot id { slot with now := some pkt }, pkt)

/-- Read the extended timestamp and the payload that follow the header. -/
def readBody (env : Env σ) (st : RtmpProtocol σ) (id : Nat) (pkt : RtmpPacket)
    (headerEnd : Nat) (data : Bytes) : Attempt (RtmpProtocol σ) RtmpPacket :=
  match extendedTimestamp pkt.tsDelta data headerEnd with
  | none => .needMore st
  | some (timeStamp, headerEnd) =>
      let more := min st.chunkSizeIn (remainMsgLen pkt)
      if data.length < headerEnd + more then .needMore st
      else
        takeChunk env st id pkt timeStamp headerEnd
          ((data.drop headerEnd).take more)

/-- One turn of the loop in `split_rtmp`, on a buffer that is not empty. -/
def splitOnce (env : Env σ) (st : RtmpProtocol σ) (data : Bytes) :
    Attempt (RtmpProtocol σ) RtmpPacket :=
  let headerLength := kHeaderLength (byteAt data 0 >>> 6)
  match basicHeader data with
  | .short id => .needMore { st with chunkStreamId := id }
  | .complete id offset =>
      if data.length < offset + headerLength then
        .needMore { st with chunkStreamId := id }
      else
        let (st, pkt) := openChunk env st id headerLength (data.drop offset)
        readBody env st id pkt (headerLength + offset) data

/-- `split_rtmp`; the pointer it returns is where the rest begins. -/
def splitRtmp (env : Env σ) (st : RtmpProtocol σ) (data : Bytes) :
    Outcome UInt8 (RtmpProtocol σ) RtmpPacket :=
  drain (splitOnce env) st data

/-!
## The handshake
-/

def handleC0C1 (env : Env σ) (st : RtmpProtocol σ) (data : Bytes) :
    Outcome UInt8 (RtmpProtocol σ) RtmpPacket :=
  if data.length < 1 + kC1HandshakeSize then .waiting st [] data
  else if byteAt data 0 ≠ 3 then .failed st []
  else
    let side := ((st.side.send [0x03]).send env.handshakeS1).send
      ((data.drop 1).take kC1HandshakeSize)
    .waiting { st with side := side, nextStep := .handleC2 } []
      (data.drop (1 + kC1HandshakeSize))

/-- The three protocol control messages that follow C2. -/
def sendCommands (env : Env σ) (side : SendSide) : Exit SendSide :=
  (side.setChunkSize env.stackDepth (4 * 1024)).bind fun side =>
    (side.sendAcknowledgement env.stackDepth (100 * 1024)).bind fun side =>
      side.setPeerBandwidth env.stackDepth (100 * 1024)

def handleC2 (env : Env σ) (st : RtmpProtocol σ) (data : Bytes) :
    Outcome UInt8 (RtmpProtocol σ) RtmpPacket :=
  if data.length < kC1HandshakeSize then .waiting st [] data
  else
    match sendCommands env st.side with
    | .done side =>
        splitRtmp env { st with side := side, nextStep := .splitRtmp }
          (data.drop kC1HandshakeSize)
    | .threw _ side =>
        .failed { st with side := side, nextStep := .splitRtmp } []
    | .crashed => .failed { st with nextStep := .splitRtmp } []

/-- The call through `next_step_func_` in `on_parse_rtmp`. -/
def nextStepFunc (env : Env σ) (st : RtmpProtocol σ) (data : Bytes) :
    Outcome UInt8 (RtmpProtocol σ) RtmpPacket :=
  match st.nextStep with
  | .handleC0C1 => handleC0C1 env st data
  | .handleC2 => handleC2 env st data
  | .splitRtmp => splitRtmp env st data

end Protocol

end Rtmp
end Streaming
