import Streaming.Flv.Tag
import Streaming.Media.Fanout
import Streaming.Rtmp.MediaSource

/-!
# The FLV muxer

`start_muxing` sends the file header, the metadata and the config frames to a
client, and registers a reader whose callback sends every packet as a tag.  The
strings passed to `send` are copied when it is called.
-/

namespace Streaming
namespace Flv

open Foundation Media Rtmp Util

/-- `tag_type`. -/
def scriptData : Nat := 18
def audioData : Nat := 8
def videoData : Nat := 9

/-- The header of the file, with the audio and the video bit set. -/
def prepareFlvHeader : Bytes :=
  ascii ['F', 'L', 'V'] ++ [1, 0b101] ++ setBe32 9

/-- What `start_muxing` sends first. -/
def sendFlvHeader : List Bytes :=
  [prepareFlvHeader, [0, 0, 0, 0]]

/-- `encoder << "onMetaData" << metadata`. -/
def encodeMetadata (metadata : Metadata) : Bytes :=
  AmfEncoder.writeMetadata (AmfEncoder.writeString []
    (ascii ['o', 'n', 'M', 'e', 't', 'a', 'D', 'a', 't', 'a'])) metadata

/-- The script tag with the metadata. -/
def sendMetadata (metadata : Metadata) : Except String (List Bytes) :=
  writeFlv scriptData (encodeMetadata metadata) (encodeMetadata metadata).length 0

/-- The body of the loop over the config frames. -/
def sendConfigFrame (pkt : RtmpPacket) : Except String (List Bytes) :=
  if !pkt.isAudioPkt && !pkt.isVideoPkt then
    .ok []
  else
    writeFlv (if pkt.isAudioPkt then audioData else videoData) pkt.buf.data
      pkt.buf.unreadLength pkt.timeStamp

/-- All that is sent before the reader is registered. -/
def sendOpening (metadata : Metadata) (configFrames : List RtmpPacket) :
    Except String (List Bytes) := do
  let script <- sendMetadata metadata
  let frames <- configFrames.mapM sendConfigFrame
  return sendFlvHeader ++ script ++ frames.flatten

/-- One client: its muxer, its sender and the callback of its reader. -/
structure FlvClient where
  startPts : Nat
  /-- The strings passed to the sender. -/
  sent : List Bytes := []
  /-- `regist_reader` has been called. -/
  joined : Bool := false
  muxerAlive : Bool := true
  deriving DecidableEq, Repr

/-- The callback that `start_muxing` sets. -/
def FlvClient.readCb (c : FlvClient) (pkt : RtmpPacket) :
    Except String FlvClient := do
  if c.startPts > 0 ∧ pkt.timeStamp < c.startPts then
    return c
  else if !c.muxerAlive then
    return c
  else
    let pieces <- writeFlv pkt.msgTypeId pkt.buf.data pkt.buf.unreadLength
      pkt.timeStamp
    return { c with sent := c.sent ++ pieces }

/-!
## Packets as tags
-/

/-- The tag that stands for a message. -/
def tagOf (pkt : RtmpPacket) : Tag where
  typeId := pkt.msgTypeId
  timestamp := pkt.timeStamp
  payload := pkt.buf.unread

/-- An audio or video message as it can come in. -/
structure Receivable (pkt : RtmpPacket) : Prop where
  valid : pkt.buf.Valid
  payload_ne_nil : pkt.buf.unread ≠ []
  payload_lt : pkt.buf.unread.length < 2 ^ 24
  timeStamp_lt : pkt.timeStamp < 2 ^ 32

/-- The packets that a reader started with `startPts` is sent. -/
def wanted (startPts : Nat) (tag : Tag) : Bool :=
  startPts == 0 || startPts <= tag.timestamp

theorem tagOf_wellFormed {pkt : RtmpPacket} (h : Receivable pkt)
    (htype : pkt.msgTypeId = msgAudio ∨ pkt.msgTypeId = msgVideo) :
    (tagOf pkt).WellFormed := by
  constructor
  · show pkt.msgTypeId < 2 ^ 8
    rcases htype with htype | htype <;> rw [htype] <;> decide
  · exact h.timeStamp_lt
  · exact h.payload_ne_nil
  · exact h.payload_lt

/-- `write_flv` for a packet as it stands after demuxing writes the tag of the
message that came in. -/
theorem writeFlv_processed {pkt : RtmpPacket} (h : Receivable pkt)
    (htype : pkt.msgTypeId = msgAudio ∨ pkt.msgTypeId = msgVideo) :
    exists pieces,
      writeFlv pkt.processed.msgTypeId pkt.processed.buf.data
          pkt.processed.buf.unreadLength pkt.processed.timeStamp = .ok pieces ∧
        pieces.flatten = (tagOf pkt).bytes := by
  have hwrite := writeFlv_tag (tagOf_wellFormed h htype)
    (pkt.buf.data.drop pkt.buf.unreadLength)
  have hdata : (tagOf pkt).payload ++ pkt.buf.data.drop pkt.buf.unreadLength =
      pkt.buf.data := List.take_append_drop _ _
  have hlength : (tagOf pkt).payload.length = pkt.buf.unreadLength :=
    h.valid.unread_length
  rw [hdata, hlength] at hwrite
  exact hwrite

theorem sendConfigFrame_processed {pkt : RtmpPacket} (h : Receivable pkt)
    (htype : pkt.msgTypeId = msgAudio ∨ pkt.msgTypeId = msgVideo) :
    exists pieces, sendConfigFrame pkt.processed = .ok pieces ∧
      pieces.flatten = (tagOf pkt).bytes := by
  have hwrite := writeFlv_processed h htype
  have hsend : sendConfigFrame pkt.processed =
      writeFlv pkt.processed.msgTypeId pkt.processed.buf.data
        pkt.processed.buf.unreadLength pkt.processed.timeStamp := by
    have hkept : pkt.processed.msgTypeId = pkt.msgTypeId := rfl
    unfold sendConfigFrame RtmpPacket.isAudioPkt RtmpPacket.isVideoPkt
    rcases htype with htype | htype <;> rw [hkept, htype] <;> rfl
  rw [hsend]
  exact hwrite

theorem readCb_processed {c : FlvClient} {pkt : RtmpPacket}
    (h : Receivable pkt)
    (htype : pkt.msgTypeId = msgAudio ∨ pkt.msgTypeId = msgVideo)
    (halive : c.muxerAlive = true) :
    exists pieces,
      c.readCb pkt.processed = .ok { c with sent := c.sent ++ pieces } ∧
        pieces.flatten =
          ([tagOf pkt].filter (wanted c.startPts)).flatMap Tag.bytes := by
  unfold FlvClient.readCb
  split
  · rename_i hearly
    have hnot : wanted c.startPts (tagOf pkt) = false := by
      simp only [wanted, Bool.or_eq_false_iff, beq_eq_false_iff_ne,
        decide_eq_false_iff_not, Nat.not_le]
      exact ⟨Nat.ne_of_gt hearly.1, hearly.2⟩
    refine ⟨[], ?_, ?_⟩
    · rw [List.append_nil]
      rfl
    · rw [List.filter_cons_of_neg (by simp [hnot])]
      rfl
  · rename_i hlate
    have hwanted : wanted c.startPts (tagOf pkt) = true := by
      simp only [wanted, Bool.or_eq_true, beq_iff_eq, decide_eq_true_eq]
      rcases Nat.eq_zero_or_pos c.startPts with hzero | hpos
      · exact Or.inl hzero
      · exact Or.inr (Nat.le_of_not_lt fun hlt => hlate ⟨hpos, hlt⟩)
    rcases writeFlv_processed h htype with ⟨pieces, hwrite, hbytes⟩
    refine ⟨pieces, ?_, ?_⟩
    · rw [halive, hwrite]
      rfl
    · rw [List.filter_cons_of_pos hwanted, hbytes]
      simp

theorem readCb_dead {c : FlvClient} (hdead : c.muxerAlive = false)
    (pkt : RtmpPacket) : c.readCb pkt = .ok c := by
  unfold FlvClient.readCb
  rw [hdead]
  split <;> rfl

end Flv
end Streaming
