import Streaming.Media.Fanout
import Streaming.Rtmp.MediaSource

/-!
# The feed of a source

The packets of a publisher come in one after the other.  One that is accepted is
passed on by a call of `distribute`, and other threads may come in before the
call begins and between its sections.
-/

namespace Streaming
namespace Rtmp

open Foundation Media RtmpMediaSource Util

/-- A source that is the only one to be registered under its key. -/
structure Feed (W R : Type) where
  ingest : Ingest W R
  /-- Where the publisher stands in a call of `distribute`. -/
  phase : Phase PacketPtr := .idle
  /-- An accepted packet whose `distribute` has not begun. -/
  pending : Option (PacketPtr × Bool) := none

namespace Feed

variable {W R : Type}

/-- `process_av_packet`, up to the call of `distribute`. -/
def receive (regist : W -> Except String W)
    (h264DecSeqParameterSet : Bytes -> Bool) (s : Feed W R)
    (pkt : RtmpPacket) : Option (Feed W R) :=
  let ptr := s.ingest.packets.length
  match s.phase, s.pending with
  | .idle, none =>
      match acceptPacket (registNew regist) h264DecSeqParameterSet ptr
          { s.ingest with packets := s.ingest.packets ++ [pkt] } with
      | .ok isIdr ingest =>
          some { s with
            ingest := ingest
            pending := isIdr.map fun isIdr => (ptr, isIdr) }
      | .error _ _ => none
  | _, _ => none

theorem receive_ok {regist : W -> Except String W}
    {h264DecSeqParameterSet : Bytes -> Bool} {s s' : Feed W R}
    {pkt : RtmpPacket}
    (h : s.receive regist h264DecSeqParameterSet pkt = some s') :
    exists isIdr before ingest, s.phase = .idle ∧ s.pending = none ∧
      before = { s.ingest with packets := s.ingest.packets ++ [pkt] } ∧
      Accepted s.ingest.packets.length pkt before ingest isIdr ∧
      PassedOn pkt before ingest isIdr ∧
      s' = { s with
        ingest := ingest
        pending := isIdr.map fun isIdr => (s.ingest.packets.length, isIdr) } := by
  simp only [receive] at h
  split at h
  · rename_i hphase hpending
    split at h
    · rename_i isIdr ingest haccept
      cases h
      rcases acceptPacket_ok haccept with ⟨found, hfound⟩
      have hpkt : (s.ingest.packets ++ [pkt])[s.ingest.packets.length]? =
          some pkt := List.getElem?_concat_length
      cases hpkt.symm.trans hfound.packet_eq
      exact ⟨isIdr, _, ingest, hphase, hpending, rfl, hfound,
        acceptPacket_passedOn hpkt haccept, rfl⟩
    · cases h
  · cases h

end Feed

end Rtmp
end Streaming
