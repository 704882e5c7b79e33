import Streaming.Network.FlatBuffer

/-!
# RTMP packets

A packet collects the chunks of one RTMP message and keeps the header fields
that later messages on the same chunk stream may inherit.
-/

namespace Streaming
namespace Rtmp

open Util Network

def kDefaultChunkLength : Nat := 128

/-!
## Message types
-/

def msgSetChunk : Nat := 1
def msgAck : Nat := 3
def msgSetPeerBw : Nat := 6
def msgAudio : Nat := 8
def msgVideo : Nat := 9
def msgData : Nat := 18
def msgData3 : Nat := 15
def msgCmd : Nat := 20
def msgCmd3 : Nat := 17

/-- The header fields that `rtmp_packet()` leaves uninitialised. -/
structure HeaderFields where
  chunkStreamId : Nat
  msgStreamId : Nat
  msgLength : Nat
  msgTypeId : Nat
  tsDelta : Nat
  timeStamp : Nat
  deriving DecidableEq, Repr

structure RtmpPacket extends HeaderFields where
  isAbsStamp : Bool
  buf : FlatBuffer
  pktHeaderLength : Nat
  deriving DecidableEq, Repr

namespace RtmpPacket

def create (fields : HeaderFields) : RtmpPacket where
  toHeaderFields := fields
  isAbsStamp := false
  buf := FlatBuffer.create
  pktHeaderLength := 0

/-- Restore everything except the buffer. -/
def restoreContext (p other : RtmpPacket) : RtmpPacket :=
  { p with
    toHeaderFields := other.toHeaderFields
    isAbsStamp := other.isAbsStamp }

def setPktHeaderLength (p : RtmpPacket) (headerLen : Nat) : RtmpPacket :=
  if headerLen ≠ 0 then
    { p with pktHeaderLength := p.pktHeaderLength + headerLen }
  else
    p

/-- `size()`, which adds the unread length to the counter it returns. -/
def size (p : RtmpPacket) : RtmpPacket :=
  { p with pktHeaderLength := p.pktHeaderLength + p.buf.unreadLength }

def isVideoPkt (p : RtmpPacket) : Bool :=
  p.msgTypeId == msgVideo

def isAudioPkt (p : RtmpPacket) : Bool :=
  p.msgTypeId == msgAudio

/-- The result of a `const` member function of the packet's buffer. -/
def inspect {α : Type} (p : RtmpPacket) (m : EStateM String FlatBuffer α) :
    Except String α :=
  match m p.buf with
  | .ok a _ => .ok a
  | .error what _ => .error what

/-!
## FLV tag headers

The first payload byte of an audio or video message is an FLV tag header.
-/

/-- `rtmp_av_frame_type::key_frame`. -/
def keyFrame : Nat := 1

/-- The frame type in the upper four bits, the `IsExHeader` bit taken out. -/
def frameType (flvTagHeader : Nat) : Nat :=
  if (flvTagHeader >>> 4) &&& 0b1000 ≠ 0 then
    (flvTagHeader >>> 4) &&& 0b0111
  else
    flvTagHeader >>> 4

def isVideoKeyframe (p : RtmpPacket) : Except String Bool :=
  if p.msgTypeId ≠ msgVideo then
    .ok false
  else do
    let flvTagHeader <- p.inspect FlatBuffer.peekUint8
    return frameType flvTagHeader == keyFrame

/-- `rtmp_flv_codec_id::non_av` is -1. -/
def getAvCodecId (p : RtmpPacket) : Except String Int := do
  let flvTagHeader <- p.inspect FlatBuffer.peekUint8
  if p.msgTypeId = msgVideo then
    return (flvTagHeader &&& 0x0F : Nat)
  else if p.msgTypeId = msgAudio then
    return (flvTagHeader >>> 4 : Nat)
  else
    return -1

def isConfigFrame (p : RtmpPacket) : Except String Bool :=
  if p.msgTypeId = msgVideo then do
    let isKey <- p.isVideoKeyframe
    if !isKey then
      return false
    let flvTagHeader <- p.inspect FlatBuffer.peekUint8
    if (flvTagHeader >>> 4) &&& 0b1000 ≠ 0 then
      -- `PacketTypeSequenceStart`
      return flvTagHeader &&& 0b00001111 == 0
    let codecId <- p.getAvCodecId
    if codecId = -1 then
      return false
    -- h264 and h265
    if codecId = 7 ∨ codecId = 12 then
      p.inspect (FlatBuffer.requireLengthOrFail 2)
      return byteAt p.buf.data 1 == 0
    return false
  else if p.msgTypeId = msgAudio then do
    p.inspect (FlatBuffer.requireLengthOrFail 2)
    let codecId <- p.getAvCodecId
    return codecId == 10 && byteAt p.buf.data 1 == 0
  else
    .ok false

end RtmpPacket

end Rtmp
end Streaming
