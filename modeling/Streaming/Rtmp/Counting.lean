import Streaming.Rtmp.Completion

/-!
# Counting the received bytes

`size()` adds what is buffered to the counter that it returns, each time that it
is called.  `split_rtmp` calls it once for each chunk and adds the result to
`bytes_recv_`, and `process_av_packet` calls it again on a complete message.
-/

namespace Streaming
namespace Rtmp

open Foundation Network Util

/-- Calling `size()` again and again. -/
theorem RtmpPacket.size_iterate (pkt : RtmpPacket) (n : Nat) :
    (RtmpPacket.size^[n] pkt).buf = pkt.buf ∧
      (RtmpPacket.size^[n] pkt).pktHeaderLength =
        pkt.pktHeaderLength + n * pkt.buf.unreadLength := by
  induction n with
  | zero => exact ⟨rfl, by simp⟩
  | succ n ih =>
      rcases ih with ⟨hbuf, hlength⟩
      rw [Function.iterate_succ_apply']
      refine ⟨hbuf, ?_⟩
      simp only [RtmpPacket.size, hbuf, hlength, Nat.add_mul, Nat.one_mul,
        Nat.add_assoc]

section Counting

variable {σ : Type} {env : Env σ}

/-- How many bytes a look takes. -/
def bytesTaken (env : Env σ) (st : RtmpProtocol σ) (data : Bytes) : Nat :=
  match splitOnce env st data with
  | .done _ _ k => k
  | _ => 0

/-- `bytes_recv_` is the number of bytes that have been consumed. -/
def CountsReceived (env : Env σ) (st : RtmpProtocol σ) (data : Bytes) : Prop :=
  forall before t rest, Visits (splitOnce env) st data before t rest ->
    t.bytesRecv = (data.length - rest.length) % 2 ^ 64

/-- However often it is called on a complete message, `size()` returns the bytes
of its chunks. -/
def SizesAgree (env : Env σ) (st : RtmpProtocol σ) (data : Bytes) : Prop :=
  forall before t rest seen, Visits (splitOnce env) st data before t rest ->
    seen <+: rest -> forall c : WholeChunk env t seen, c.Completes ->
      forall n, (RtmpPacket.size^[n] c.finished).pktHeaderLength =
        sumRead env (bytesTaken env) c.id before + c.consumed

/-- Of the message in progress, if there is one, no chunk has been counted. -/
def Slot.Untouched (slot : Slot) : Prop :=
  forall pkt, slot.now = some pkt -> pkt.pktHeaderLength = 0

/-- A chunk that begins its message, and of a size that a `uint32_t` holds. -/
def StartsMessage (env : Env σ) (st : RtmpProtocol σ) (data : Bytes) : Prop :=
  forall c : WholeChunk env st data, c.consumed < 2 ^ 32 ∧
    (st.chunkedDataMap c.id).Untouched

/-- A chunk that completes no message but an empty one. -/
def EndsEmpty (env : Env σ) (st : RtmpProtocol σ) (data : Bytes) : Prop :=
  forall c : WholeChunk env st data, c.Completes -> c.stored.msgLength = 0

/-!
## The invariant
-/

/-- Of a message of which nothing has been counted, nothing is buffered. -/
def Slot.Counted (slot : Slot) : Prop :=
  forall pkt, slot.now = some pkt -> pkt.buf.Valid ∧
    (pkt.pktHeaderLength = 0 -> pkt.buf.unreadLength = 0)

structure Counting (env : Env σ) (input : Bytes)
    (before : List (RtmpProtocol σ × Bytes)) (st : RtmpProtocol σ)
    (rest : Bytes) : Prop where
  suffix : rest <:+ input
  received : st.bytesRecv = (input.length - rest.length) % 2 ^ 64
  counted : forall id, (st.chunkedDataMap id).Counted
  taken : forall id, (st.chunkedDataMap id).Untouched ->
    sumRead env (bytesTaken env) id before = 0

theorem nowPacket_counted (env : Env σ) (id : Nat) {slot : Slot}
    (h : slot.Counted) :
    (nowPacket env id slot).buf.Valid ∧
      ((nowPacket env id slot).pktHeaderLength = 0 ->
        (nowPacket env id slot).buf.unreadLength = 0) := by
  cases hnow : slot.now with
  | some pkt =>
      rw [nowPacket_busy env id hnow]
      exact h pkt hnow
  | none =>
      rw [(nowPacket_idle env id hnow).1]
      exact ⟨FlatBuffer.create_valid _, fun _ => rfl⟩

theorem nowPacket_untouched (env : Env σ) (id : Nat) {slot : Slot}
    (h : slot.Untouched) :
    (nowPacket env id slot).pktHeaderLength = 0 := by
  cases hnow : slot.now with
  | some pkt =>
      rw [nowPacket_busy env id hnow]
      exact h pkt hnow
  | none => exact (nowPacket_idle env id hnow).2.2

variable {st : RtmpProtocol σ} {data : Bytes}

namespace WholeChunk

/-- The first chunk of a message is counted once, header and payload. -/
theorem stored_counts (c : WholeChunk env st data)
    (hcounted : (st.chunkedDataMap c.id).Counted)
    (htouched : (st.chunkedDataMap c.id).Untouched) :
    c.stored.buf.Valid ∧ c.stored.pktHeaderLength = c.consumed := by
  have hbuf := c.toChunkHeader.packet_buf env st
  have hpacket := nowPacket_counted env c.id hcounted
  have hzero := nowPacket_untouched env c.id htouched
  have hempty := hpacket.2 hzero
  rw [← hbuf.1] at hempty hpacket
  rw [← hbuf.2] at hzero
  rcases c.stored_buffered hpacket.1 with ⟨hvalid, hunread⟩
  rw [← c.toChunkHeader.packet_buffered st, hempty] at hunread
  refine ⟨hvalid, ?_⟩
  unfold stored at hunread ⊢
  rw [storePayload_pktHeaderLength, hzero, hunread]
  unfold consumed
  omega

/-- `size()` goes on growing, unless the message is empty. -/
theorem size_stable_iff (c : WholeChunk env st data) (hcomplete : c.Completes)
    {total : Nat} (htotal : c.stored.pktHeaderLength = total) :
    (forall n, (RtmpPacket.size^[n] c.finished).pktHeaderLength = total) <->
      c.stored.msgLength = 0 := by
  have hlength : c.stored.msgLength = c.finished.buf.unreadLength := hcomplete
  have hfinished : c.finished.pktHeaderLength = total := htotal
  constructor
  · intro h
    have hagain := h 1
    rw [(RtmpPacket.size_iterate c.finished 1).2, hfinished] at hagain
    omega
  · intro hempty n
    rw [(RtmpPacket.size_iterate c.finished n).2, ← hlength, hempty, hfinished,
      Nat.mul_zero, Nat.add_zero]

end WholeChunk

/-!
## Steps and runs
-/

variable {input rest : Bytes} {before : List (RtmpProtocol σ × Bytes)}

theorem counting_needMore {st' : RtmpProtocol σ}
    (hst : Counting env input before st rest)
    (h : splitOnce env st data = .needMore st') :
    Counting env input before st' rest where
  suffix := hst.suffix
  received := by
    rcases splitOnce_needMore h with ⟨id, hst'⟩ | ⟨header, hst', _⟩
    · rw [hst']
      exact hst.received
    · rw [hst']
      exact hst.received
  counted := by
    apply needMore_slots (P := fun _ slot => slot.Counted) h hst.counted
    intro header _ pkt hpkt
    cases hpkt
    rw [(header.packet_buf env st).1, (header.packet_buf env st).2]
    exact nowPacket_counted env header.id (hst.counted header.id)
  taken := by
    apply needMore_slots (P := fun id slot => slot.Untouched ->
      sumRead env (bytesTaken env) id before = 0) h hst.taken
    intro header _ htouched
    have hzero := htouched _ rfl
    rw [(header.packet_buf env st).2] at hzero
    apply hst.taken header.id
    intro pkt hpkt
    rw [nowPacket_busy env header.id hpkt] at hzero
    exact hzero

theorem counting_done {st' : RtmpProtocol σ} {items : List RtmpPacket}
    {k : Nat} (hst : Counting env input before st rest)
    (hstarts : StartsMessage env st data) (hseen : data <+: rest)
    (h : splitOnce env st data = .done st' items k) :
    Counting env input ((st, data) :: before) st' (rest.drop k) := by
  rcases splitOnce_done h with ⟨c, htook⟩
  rcases hstarts c with ⟨hshort, htouched⟩
  rcases c.stored_counts (hst.counted c.id) htouched with ⟨hvalid, hlength⟩
  have hafter : c.slotAfter.Counted ∧ (c.slotAfter.Untouched -> c.Completes) := by
    have hpos := c.consumed_pos
    constructor
    · intro pkt hpkt
      rw [(c.slotAfter_now hpkt).1]
      exact ⟨hvalid, by omega⟩
    · intro huntouched
      by_contra hcomplete
      have hzero := huntouched c.stored (c.slotAfter_of_not hcomplete)
      omega
  constructor
  · exact (List.drop_suffix _ _).trans hst.suffix
  · have hle := c.consumed_le
    have hrest := hseen.length_le
    have hinput := hst.suffix.length_le
    rw [htook.bytesRecv_eq, hlength, Nat.mod_eq_of_lt hshort, hst.received,
      htook.consumed_eq, List.length_drop]
    omega
  · exact done_slots (P := fun _ slot => slot.Counted) htook hst.counted
      hafter.1
  · intro id huntouched
    by_cases hid : id = c.id
    · rw [hid, htook.slot_self] at huntouched
      rw [hid, WholeChunk.sumRead_self htook h, if_pos (hafter.2 huntouched)]
    · rw [htook.slot_ne hid] at huntouched
      rw [c.sumRead_ne _ before hid]
      exact hst.taken id huntouched

theorem initial_counting (hmap : st.chunkedDataMap = fun _ => {})
    (hrecv : st.bytesRecv = 0) : Counting env input [] st input where
  suffix := List.suffix_refl _
  received := by
    rw [hrecv, Nat.sub_self, Nat.zero_mod]
  counted := by
    intro id
    rw [hmap]
    exact nofun
  taken := fun _ _ => rfl

/-- As long as every chunk begins its message, the received bytes are counted
right, but the size of a complete message only stays what it is if there is
nothing in the message. -/
theorem countsReceived_of_startsMessage (hmap : st.chunkedDataMap = fun _ => {})
    (hrecv : st.bytesRecv = 0)
    (hstarts : Throughout (splitOnce env) st data (StartsMessage env)) :
    CountsReceived env st data ∧
      (SizesAgree env st data <->
        Throughout (splitOnce env) st data (EndsEmpty env)) := by
  have hcounting : forall before t rest,
      Visits (splitOnce env) st data before t rest ->
        Counting env data before t rest := by
    intro before t rest hvisits
    exact hvisits.keeps (I := fun before t rest => Counting env data before t rest)
      (initial_counting hmap hrecv) hstarts
      (fun ht _ _ hattempt => counting_needMore ht hattempt)
      (fun ht hguard hseen hattempt =>
        counting_done ht hguard hseen hattempt)
  have hstable : forall before t rest seen,
      Visits (splitOnce env) st data before t rest -> seen <+: rest ->
        seen ≠ [] -> forall c : WholeChunk env t seen, c.Completes ->
          ((forall n, (RtmpPacket.size^[n] c.finished).pktHeaderLength =
            sumRead env (bytesTaken env) c.id before + c.consumed) <->
              c.stored.msgLength = 0) := by
    intro before t rest seen hvisits hseen hne c hcomplete
    have ht := hcounting before t rest hvisits
    rcases hstarts before t rest seen hvisits hseen hne c with ⟨_, htouched⟩
    apply c.size_stable_iff hcomplete
    rw [(c.stored_counts (ht.counted c.id) htouched).2,
      ht.taken c.id htouched, Nat.zero_add]
  refine ⟨fun before t rest hvisits => (hcounting _ _ _ hvisits).received, ?_⟩
  constructor
  · intro h before t rest seen hvisits hseen hne c hcomplete
    exact (hstable _ _ _ _ hvisits hseen hne c hcomplete).mp
      (h before t rest seen hvisits hseen c hcomplete)
  · intro h before t rest seen hvisits hseen c hcomplete
    have hne := c.data_ne_nil
    exact (hstable _ _ _ _ hvisits hseen hne c hcomplete).mpr
      (h before t rest seen hvisits hseen hne c hcomplete)

/-- A chunk that is not the continuation of one before it. -/
def Chunk.Begins : Chunk -> Prop
  | .start .. => True
  | .next .. => False

instance (c : Chunk) : Decidable c.Begins :=
  match c with
  | .start .. => inferInstanceAs (Decidable True)
  | .next .. => inferInstanceAs (Decidable False)

/-- A chunk of a message that a header can give the length of. -/
theorem WholeChunk.consumed_lt {data : Bytes} {st : RtmpProtocol σ}
    (w : WholeChunk env st data) (h : w.payload.length < 2 ^ 24) :
    w.consumed < 2 ^ 32 := by
  have hlength := w.length_cases
  have hoffset := basicHeader_offset_le w.basic
  have hbody := (extendedTimestamp_bounds w.extended).2
  rw [w.payload_length] at h
  unfold ChunkHeader.size at hbody
  unfold consumed
  omega

theorem Peeked.untouched {st t : RtmpProtocol σ} {rest : Bytes}
    (ht : Peeked env st rest t) {id : Nat}
    (hidle : (st.chunkedDataMap id).now = none) :
    (t.chunkedDataMap id).Untouched := by
  intro pkt hpkt
  rcases ht.slot_cases id with hsame | ⟨h, rfl, hopened⟩
  · rw [hsame, hidle] at hpkt
    cases hpkt
  · rw [hopened] at hpkt
    cases hpkt
    rw [(h.packet_buf env st).2]
    exact (nowPacket_idle env h.id hidle).2.2

/-- The chunks of a correct sender meet the condition if none continues another. -/
theorem startsMessage_wire {s : Sender} {st : RtmpProtocol σ} {cs : List Chunk}
    (hsound : s.Sound) (hsim : Simulates s st) (hcs : s.WellFormed cs)
    (hbegins : forall c, c ∈ cs -> c.Begins) :
    Throughout (splitOnce env) st (s.wire cs) (StartsMessage env) := by
  refine throughout_wire hsound hsim hcs ?_
  intro s' st' t c rest seen hs hsim' hmem hc ht ⟨more, hmore⟩ w
  rw [← hmore] at ht
  have hpayload : (ht.whole (w.append more)).payload = w.payload :=
    (ht.whole_payload _).trans (w.append_payload more)
  rcases front_carries hs hsim' hc hmore (ht.whole (w.append more)) with
    ⟨p, hm, hle, _, hpiece⟩
  cases c with
  | start id form fmt m =>
      constructor
      · apply w.consumed_lt
        rw [← hpayload, hpiece]
        exact Nat.lt_of_le_of_lt (Nat.le_of_add_left_le hle) hm.length_lt
      · exact ht.untouched (front_idle hsim' hc hmore
          (w.toChunkHeader.append more))
  | next id form => exact (hbegins _ hmem).elim

/-- A message that fills a chunk, one without a payload behind it on the same
chunk stream, and one on another. -/
def unsplitChunks : List Chunk :=
  let video : Message := {
    stamp := ⟨0, 0⟩, typeId := 9, streamId := 1
    payload := List.replicate 128 0 }
  let audio : Message := {
    stamp := ⟨0, 0⟩, typeId := 8, streamId := 1, payload := [1, 2] }
  [video.firstChunk 3, { video with payload := [] }.firstChunk 3,
    audio.firstChunk 5]

theorem unsplitChunks_wellFormed : Sender.WellFormed {} unsplitChunks := by
  refine ⟨⟨by decide, rfl, ?_, by simp⟩,
    ⟨by decide, Option.isNone_iff_eq_none.mp (by decide +kernel), ?_, by simp⟩,
    ⟨by decide, Option.isNone_iff_eq_none.mp (by decide +kernel), ?_, by simp⟩,
    trivial⟩
  · constructor <;> decide +kernel
  · constructor <;> decide
  · constructor <;> decide

theorem countsReceived_of_startsMessage_unsplit :
    CountsReceived .accepting { app := () } (Sender.wire {} unsplitChunks) ∧
      (SizesAgree .accepting { app := () } (Sender.wire {} unsplitChunks) <->
        Throughout (splitOnce .accepting) { app := () }
          (Sender.wire {} unsplitChunks) (EndsEmpty .accepting)) :=
  countsReceived_of_startsMessage rfl rfl
    (startsMessage_wire Sender.initial_sound (simulates_initial rfl rfl)
      unsplitChunks_wellFormed (by decide))

/-- A video message of 129 bytes in two chunks. -/
def twoChunks : Bytes :=
  [3, 0, 0, 0, 0, 0, 129, 9, 1, 0, 0, 0] ++ List.replicate 128 0 ++ [0xC3, 0]

theorem twoChunks_counted :
    (match drain (splitOnce .accepting) { app := () } twoChunks with
      | .waiting t _ rest => decide (rest = [] ∧ t.bytesRecv = 410)
      | _ => false) = true := by
  decide +kernel

theorem not_countsReceived_twoChunks :
    ¬ CountsReceived .accepting { app := () } twoChunks := by
  intro h
  have hcounted := twoChunks_counted
  cases hdrain : drain (splitOnce .accepting) { app := () } twoChunks with
  | failed t items =>
      rw [hdrain] at hcounted
      cases hcounted
  | waiting t items rest =>
      rw [hdrain] at hcounted
      rcases of_decide_eq_true hcounted with ⟨hrest, hrecv⟩
      rcases (chunkParser .accepting).exists_visits hdrain with
        ⟨before, hvisits⟩
      have hright := h _ _ _ hvisits
      rw [hrest, hrecv] at hright
      exact absurd hright (by decide +kernel)

end Counting

end Rtmp
end Streaming
