import Streaming.Rtmp.Chunks

/-!
# Putting messages together

The message in progress on a chunk stream grows from chunk to chunk until it has
the length that its header gave it.  A header in the middle of a message may
give it another length, and nothing checks it against what is buffered already.
-/

namespace Streaming
namespace Rtmp

open Foundation Network Util

section Assembly

variable {σ : Type} {env : Env σ}

/-- The bytes of the message in progress. -/
def Slot.buffered (slot : Slot) : Nat :=
  match slot.now with
  | some pkt => pkt.buf.unreadLength
  | none => 0

theorem nowPacket_buffered (env : Env σ) (id : Nat) (slot : Slot) :
    (nowPacket env id slot).buf.unreadLength = slot.buffered := by
  unfold nowPacket Slot.buffered
  cases slot.now with
  | some pkt => rfl
  | none => cases slot.last <;> rfl

theorem nowPacket_valid (env : Env σ) {id : Nat} {slot : Slot}
    (h : forall pkt, slot.now = some pkt -> pkt.buf.Valid) :
    (nowPacket env id slot).buf.Valid := by
  cases hnow : slot.now with
  | some pkt =>
      rw [nowPacket_busy env id hnow]
      exact h pkt hnow
  | none =>
      rw [(nowPacket_idle env id hnow).1]
      exact FlatBuffer.create_valid _

theorem ChunkHeader.packet_buffered {data : Bytes} (h : ChunkHeader data)
    (st : RtmpProtocol σ) :
    (h.packet env st).buf.unreadLength =
      (st.chunkedDataMap h.id).buffered := by
  rw [(h.packet_buf env st).1, nowPacket_buffered]

/-- As long as the subtraction does not go below zero, it gives what is missing
or, for a length beyond 64 bits, less. -/
theorem remainMsgLen_le {pkt : RtmpPacket}
    (h : pkt.buf.unreadLength <= pkt.msgLength) :
    remainMsgLen pkt <= pkt.msgLength - pkt.buf.unreadLength := by
  unfold remainMsgLen
  omega

theorem remainMsgLen_eq {pkt : RtmpPacket}
    (h : pkt.buf.unreadLength <= pkt.msgLength) (hlen : pkt.msgLength < 2 ^ 64) :
    remainMsgLen pkt = pkt.msgLength - pkt.buf.unreadLength := by
  unfold remainMsgLen
  omega

namespace WholeChunk

variable {st : RtmpProtocol σ} {data : Bytes}

theorem stored_buffered (c : WholeChunk env st data)
    (hvalid : (c.packet env st).buf.Valid) :
    c.stored.buf.Valid ∧ c.stored.buf.unreadLength =
      (st.chunkedDataMap c.id).buffered + c.more := by
  rcases storePayload_valid hvalid c.bodyStart c.payload with
    ⟨hstored, hunread⟩
  refine ⟨hstored, ?_⟩
  have hlen := congrArg List.length hunread
  rw [List.length_append, hstored.unread_length, hvalid.unread_length,
    c.payload_length, c.packet_buffered] at hlen
  exact hlen

end WholeChunk

/-!
## Half-assembled messages
-/

/-- Every message in progress still lacks some of its bytes. -/
def HalfAssembled (st : RtmpProtocol σ) : Prop :=
  forall id pkt, (st.chunkedDataMap id).now = some pkt ->
    pkt.buf.unreadLength < pkt.msgLength

/-- Where `split_rtmp` subtracts what is buffered from `msg_length`, the
difference is not negative. -/
def NoUnderflow (env : Env σ) (st : RtmpProtocol σ) (data : Bytes) : Prop :=
  forall h : ChunkHeader data,
    (extendedTimestamp (h.packet env st).tsDelta data h.size).isSome ->
      (h.packet env st).buf.unreadLength <= (h.packet env st).msgLength

/-- A header with a length does not make the message shorter than what has
already been buffered of it. -/
def KeepsBuffered (env : Env σ) (st : RtmpProtocol σ) (data : Bytes) : Prop :=
  forall h : ChunkHeader data, h.CarriesLength ->
    (extendedTimestamp (h.packet env st).tsDelta data h.size).isSome ->
      (st.chunkedDataMap h.id).buffered <= h.msgLength

/-- In addition, where a header breaks off in its extended timestamp, bytes of
the message are still to come. -/
structure LengthFits (env : Env σ) (st : RtmpProtocol σ) (data : Bytes) :
    Prop where
  fits : KeepsBuffered env st data
  broken : forall h : ChunkHeader data,
    extendedTimestamp (h.packet env st).tsDelta data h.size = none ->
      (st.chunkedDataMap h.id).buffered < (h.packet env st).msgLength

/-- However the bytes arrive, no message overshoots, and no subtraction goes
below zero. -/
def Assembles (env : Env σ) (st : RtmpProtocol σ) (data : Bytes) : Prop :=
  forall before t rest, Visits (splitOnce env) st data before t rest ->
    HalfAssembled t ∧
      forall seen, seen <+: rest -> seen ≠ [] -> NoUnderflow env t seen

/-- A header without a length leaves the message as long as it was. -/
theorem LengthFits.noUnderflow {st : RtmpProtocol σ} {data : Bytes}
    (h : LengthFits env st data) (hst : HalfAssembled st) :
    NoUnderflow env st data := by
  intro header hextended
  rw [header.packet_buffered]
  by_cases hcarries : header.CarriesLength
  · rw [header.packet_msgLength env st hcarries]
    exact h.fits header hcarries hextended
  · rw [header.packet_msgLength_inherited env st hcarries]
    cases hnow : (st.chunkedDataMap header.id).now with
    | none =>
        simp [Slot.buffered, hnow]
    | some pkt =>
        have hlt := hst header.id pkt hnow
        simp only [Slot.buffered, nowPacket, hnow]
        exact Nat.le_of_lt hlt

theorem NoUnderflow.keepsBuffered {st : RtmpProtocol σ} {data : Bytes}
    (h : NoUnderflow env st data) : KeepsBuffered env st data := by
  intro header hcarries hextended
  have hle := h header hextended
  rw [header.packet_buffered, header.packet_msgLength env st hcarries] at hle
  exact hle

/-- If no look goes wrong, then neither does what has led to it. -/
theorem NoUnderflow.lengthFits {st : RtmpProtocol σ} {data : Bytes}
    (h : NoUnderflow env st data)
    (hnext : forall st', splitOnce env st data = .needMore st' ->
      HalfAssembled st') : LengthFits env st data where
  fits := h.keepsBuffered
  broken := by
    intro header hbroken
    have hneed : splitOnce env st data = .needMore (header.opened env st) := by
      rw [header.splitOnce_eq env st]
      unfold readBody
      rw [hbroken]
    have hhalf := hnext _ hneed header.id (header.packet env st)
      (by rw [header.opened_self env st])
    rw [header.packet_buffered] at hhalf
    exact hhalf

/-- What holds of the packet in progress on every chunk stream. -/
def Slot.HalfFull (slot : Slot) : Prop :=
  forall pkt, slot.now = some pkt ->
    pkt.buf.Valid ∧ pkt.buf.unreadLength < pkt.msgLength

def Assembled (st : RtmpProtocol σ) : Prop :=
  forall id, (st.chunkedDataMap id).HalfFull

theorem initial_assembled {st : RtmpProtocol σ}
    (hmap : st.chunkedDataMap = fun _ => {}) : Assembled st := by
  intro id pkt hpkt
  rw [hmap] at hpkt
  cases hpkt

theorem Assembled.half {st : RtmpProtocol σ} (h : Assembled st) :
    HalfAssembled st :=
  fun id pkt hpkt => (h id pkt hpkt).2

theorem Assembled.packet_valid {st : RtmpProtocol σ} (h : Assembled st)
    {data : Bytes} (header : ChunkHeader data) :
    (header.packet env st).buf.Valid := by
  rw [(header.packet_buf env st).1]
  exact nowPacket_valid env fun pkt hpkt => (h header.id pkt hpkt).1

/-- A packet that is not complete yet has fewer bytes than its length. -/
theorem WholeChunk.stored_half {st : RtmpProtocol σ} {data : Bytes}
    {c : WholeChunk env st data} (hst : Assembled st)
    (hfits : NoUnderflow env st data) (hcomplete : ¬ c.Completes) :
    c.stored.buf.unreadLength < c.stored.msgLength := by
  have hle := hfits c.toChunkHeader (by rw [c.extended]; rfl)
  have hremain := remainMsgLen_le hle
  have hmore : c.more <= remainMsgLen (c.packet env st) := Nat.min_le_right _ _
  have hstored := (c.stored_buffered (hst.packet_valid _)).2
  rw [c.packet_buffered] at hle hremain
  rw [← c.stored_msgLength] at hle hremain
  have hne : c.stored.msgLength ≠ c.stored.buf.unreadLength := hcomplete
  omega

/-- A header in front of a payload that is cut off leaves bytes to come. -/
theorem ChunkHeader.CutOff.buffered_lt {st : RtmpProtocol σ} {data : Bytes}
    {h : ChunkHeader data} (hcut : h.CutOff env st) (hst : HalfAssembled st)
    (hfits : LengthFits env st data) :
    (h.packet env st).buf.unreadLength < (h.packet env st).msgLength := by
  cases hext : extendedTimestamp (h.packet env st).tsDelta data h.size with
  | none =>
      rw [h.packet_buffered]
      exact hfits.broken h hext
  | some found =>
      rcases found with ⟨timeStamp, bodyStart⟩
      have hle := hfits.noUnderflow hst h (by rw [hext]; rfl)
      have hremain := remainMsgLen_le hle
      have hshort := hcut timeStamp bodyStart hext
      have hbody := extendedTimestamp_le hext h.size_le
      omega

/-- A look that asks for more leaves every message unfinished. -/
theorem splitOnce_half {st st' : RtmpProtocol σ} {data : Bytes}
    (hst : Assembled st) (hfits : LengthFits env st data)
    (h : splitOnce env st data = .needMore st') : Assembled st' := by
  apply needMore_slots (P := fun _ slot => slot.HalfFull) h hst
  intro header hcut pkt hpkt
  cases hpkt
  exact ⟨hst.packet_valid header, hcut.buffered_lt hst.half hfits⟩

theorem splitOnce_assembled {st st' : RtmpProtocol σ} {data : Bytes}
    {items : List RtmpPacket} {k : Nat} (hst : Assembled st)
    (hfits : NoUnderflow env st data)
    (h : splitOnce env st data = .done st' items k) : Assembled st' := by
  rcases splitOnce_done h with ⟨c, htook⟩
  apply done_slots (P := fun _ slot => slot.HalfFull) htook hst
  intro pkt hpkt
  rcases c.slotAfter_now hpkt with ⟨heq, hcomplete⟩
  rw [heq]
  exact ⟨(c.stored_buffered (hst.packet_valid _)).1,
    WholeChunk.stored_half hst hfits hcomplete⟩

theorem visits_assembled {st t : RtmpProtocol σ} {data rest : Bytes}
    {before : List (RtmpProtocol σ × Bytes)} (hst : Assembled st)
    (hfits : Throughout (splitOnce env) st data (LengthFits env))
    (h : Visits (splitOnce env) st data before t rest) : Assembled t :=
  h.keeps (I := fun _ t _ => Assembled t) hst hfits
    (fun ht hguard _ hattempt => splitOnce_half ht hguard hattempt)
    (fun ht hguard _ hattempt =>
      splitOnce_assembled ht (hguard.noUnderflow ht.half) hattempt)

/-- On every byte stream, no message overshoots its length as long as no header
in the middle of a message makes it shorter than what is there of it. -/
theorem assembles_iff {st : RtmpProtocol σ}
    (hmap : st.chunkedDataMap = fun _ => {}) (data : Bytes) :
    Assembles env st data <->
      Throughout (splitOnce env) st data (LengthFits env) := by
  constructor
  · intro h before t rest seen hvisits hseen hne
    apply ((h before t rest hvisits).2 seen hseen hne).lengthFits
    intro st' hattempt
    exact (h before st' rest (hvisits.needMore hseen hne hattempt)).1
  · intro h before t rest hvisits
    have ht := visits_assembled (initial_assembled hmap) h hvisits
    exact ⟨ht.half, fun seen hseen hne =>
      (h _ _ _ _ hvisits hseen hne).noUnderflow ht.half⟩

/-- A header for a video message of a single byte. -/
def oneByteHeader : Bytes := [3, 0, 0, 0, 0, 0, 1, 9, 1, 0, 0, 0]

/-- The first 128 of the 200 bytes of a video message, and then a header that
gives the message a single byte. -/
def shrunkMessage : Bytes :=
  [3, 0, 0, 0, 0, 0, 200, 9, 1, 0, 0, 0] ++ List.replicate 128 0 ++
    oneByteHeader

theorem assembles_iff_shrunkMessage :
    Assembles .accepting { app := () } shrunkMessage <->
      Throughout (splitOnce .accepting) { app := () } shrunkMessage
        (LengthFits .accepting) :=
  assembles_iff rfl shrunkMessage

theorem shrunkMessage_buffered :
    (match splitOnce .accepting { app := () } shrunkMessage with
      | .done t _ k => decide (k = 140 ∧ (t.chunkedDataMap 3).buffered = 128)
      | _ => false) = true := by
  decide +kernel

/-- What is left behind the first chunk is the header. -/
theorem shrunkMessage_visits :
    exists before t,
      Visits (splitOnce .accepting) { app := () } shrunkMessage before t
        oneByteHeader ∧ (t.chunkedDataMap 3).buffered = 128 := by
  have hbuffered := shrunkMessage_buffered
  cases hattempt : splitOnce .accepting { app := () } shrunkMessage with
  | needMore t =>
      rw [hattempt] at hbuffered
      cases hbuffered
  | failed t items =>
      rw [hattempt] at hbuffered
      cases hbuffered
  | done t items k =>
      rw [hattempt] at hbuffered
      rcases of_decide_eq_true hbuffered with ⟨hk, hfull⟩
      subst hk
      exact ⟨_, t, Visits.start.done (List.prefix_refl shrunkMessage)
        (by decide) hattempt, hfull⟩

theorem not_noUnderflow_oneByteHeader {st : RtmpProtocol σ}
    (h : (st.chunkedDataMap 3).buffered = 128) :
    ¬ NoUnderflow env st oneByteHeader := by
  intro hfits
  let header : ChunkHeader oneByteHeader := ⟨3, 0, rfl, by decide⟩
  have hlen : header.length = 12 := by decide
  have hdelta : (header.packet env st).tsDelta = 0 := by
    rw [header.packet_eq, hlen]
    show loadBe24 (oneByteHeader.drop 1) = 0
    decide
  have hone : header.msgLength = 1 := by
    show loadBe24 (oneByteHeader.drop 4) = 1
    decide
  have hle := hfits header (by rw [hdelta]; rfl)
  rw [header.packet_buffered, header.packet_msgLength env st (Or.inl hlen),
    hone, h] at hle
  exact absurd hle (by decide)

theorem not_assembles_shrunkMessage :
    ¬ Assembles .accepting { app := () } shrunkMessage := by
  intro h
  rcases shrunkMessage_visits with ⟨before, t, hvisits, hbuffered⟩
  have hfits := (h before t oneByteHeader hvisits).2 oneByteHeader
    (List.prefix_refl _) (by decide)
  exact not_noUnderflow_oneByteHeader hbuffered hfits

end Assembly

end Rtmp
end Streaming
