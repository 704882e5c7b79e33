import Streaming.Foundation.Exit
import Streaming.Rtmp.Packet

/-!
# Sending RTMP messages

The sending half of `rtmp_protocol`.  The strings passed to `send` are kept in
order; `socket_sender` writes them synchronously.
-/

namespace Streaming
namespace Rtmp

open Foundation Util

/-- `CHUNK_NETWORK` and `CHUNK_CLIENT_REQUEST_BEFORE`. -/
def chunkNetwork : Nat := 2
def chunkClientRequestBefore : Nat := 3

/-- The members of `rtmp_protocol` that sending reads and writes. -/
structure SendSide where
  msgStreamId : Nat := 0
  chunkSizeOut : Nat := kDefaultChunkLength
  bytesSent : Nat := 0
  bytesSentLast : Nat := 0
  windowsSize : Nat := 0
  sent : List Bytes := []
  deriving DecidableEq, Repr

/-- Difference of two `uint64_t` counters. -/
def counterDiff (a b : Nat) : Nat :=
  (a + 2 ^ 64 - b % 2 ^ 64) % 2 ^ 64

namespace SendSide

def send (s : SendSide) (bytes : Bytes) : SendSide :=
  { s with sent := s.sent ++ [bytes] }

/-- The packed `rtmp_header` with `fmt` 0. -/
def rtmpHeader (msgTypeId msgStreamId dataSize timeStamp chunkStreamId : Nat) :
    Bytes :=
  UInt8.ofNat chunkStreamId ::
    (setBe24 (if timeStamp >= 0xFFFFFF then 0xFFFFFF else timeStamp) ++
      setBe24 dataSize ++ [UInt8.ofNat msgTypeId] ++ setLe32 msgStreamId)

/--
The loop over the message body.  It sends a one-byte header before every chunk
but the first and the extended timestamp, if there is one, before every chunk.
A chunk size of 0 makes no progress, and the loop then never ends.
-/
def sendChunks (chunkSizeOut : Nat) (headerPkt : Bytes) (extended : Bytes) :
    Nat -> Bytes -> Bytes -> Option (List Bytes)
  | _, _, [] => some []
  | 0, _, _ :: _ => none
  | fuel + 1, header, rest =>
      (sendChunks chunkSizeOut headerPkt extended fuel headerPkt
        (rest.drop chunkSizeOut)).map fun later =>
          (if header = [] then [] else [header]) ++
            (if extended = [] then [] else [extended]) ++
              rest.take chunkSizeOut :: later

/--
`send_rtmp`.  An acknowledgement is sent from inside the call that crossed the
window; the first argument bounds how deep these calls may nest.
-/
def sendRtmp : Nat -> SendSide -> Nat -> Nat -> Bytes -> Nat -> Nat ->
    Exit SendSide
  | 0, _, _, _, _, _, _ => .crashed
  | depth + 1, s, msgTypeId, msgStreamId, data, timeStamp, chunkStreamId =>
      if chunkStreamId < 2 ∨ chunkStreamId > 63 then
        .threw "only support type 1 chunk header" s
      else
        let header :=
          rtmpHeader msgTypeId msgStreamId data.length timeStamp chunkStreamId
        let headerPkt := [UInt8.ofNat (chunkStreamId ||| (3 <<< 6))]
        let extended := if timeStamp >= 0xFFFFFF then setBe32 timeStamp else []
        match sendChunks s.chunkSizeOut headerPkt extended data.length [] data with
        | none => .crashed
        | some chunks =>
            let totalSize := (header :: chunks).flatten.length
            let s := { s with
              sent := s.sent ++ header :: chunks
              bytesSent := (s.bytesSent + totalSize % 2 ^ 32) % 2 ^ 64 }
            if s.windowsSize > 0 ∧
                counterDiff s.bytesSent s.bytesSentLast >= s.windowsSize then
              (sendRtmp depth s msgAck s.msgStreamId
                (setBe32 (counterDiff s.bytesSent s.bytesSentLast)) 0
                  chunkNetwork).bind fun s =>
                    .done { s with bytesSentLast := s.bytesSent }
            else
              .done s

def sendAcknowledgement (depth : Nat) (s : SendSide) (size : Nat) :
    Exit SendSide :=
  sendRtmp depth s msgAck s.msgStreamId (setBe32 size) 0 chunkNetwork

def setChunkSize (depth : Nat) (s : SendSide) (size : Nat) : Exit SendSide :=
  (sendRtmp depth s msgSetChunk s.msgStreamId (setBe32 size) 0
    chunkNetwork).bind fun s => .done { s with chunkSizeOut := size }

def setPeerBandwidth (depth : Nat) (s : SendSide) (size : Nat) : Exit SendSide :=
  sendRtmp depth s msgSetPeerBw s.msgStreamId (setBe32 size ++ [0x02]) 0
    chunkNetwork

end SendSide

end Rtmp
end Streaming
