import Streaming.Rtmp.Assembly
import Streaming.Rtmp.SentChunks

/-!
# How many chunks a message takes

A chunk of a message that lacks bytes brings at least one of them, so a message
of `L` bytes is complete after `L` chunks.  This takes a chunk size that is not
zero, and `handle_chunk` stores whatever a Set Chunk Size message carries.
-/

namespace Streaming
namespace Rtmp

open Foundation Network Util

section Completion

variable {σ : Type} {env : Env σ}

/-!
## Counting the chunks of a message
-/

/-- The chunk stream that the chunk at the front of the data belongs to. -/
def chunkStreamOf (data : Bytes) : Nat :=
  match basicHeader data with
  | .short id => id
  | .complete id _ => id

/-- A look after which no message is in progress on a chunk stream. -/
def endsMessage (env : Env σ) (id : Nat) (st : RtmpProtocol σ)
    (data : Bytes) : Bool :=
  match splitOnce env st data with
  | .done st' _ _ => (st'.chunkedDataMap id).now.isNone
  | _ => false

/-- A sum over the chunks that have been read since the last message on a chunk
stream was complete. -/
def sumRead (env : Env σ) (f : RtmpProtocol σ -> Bytes -> Nat) (id : Nat) :
    List (RtmpProtocol σ × Bytes) -> Nat
  | [] => 0
  | (st, data) :: before =>
      if chunkStreamOf data = id then
        if endsMessage env id st data then 0
        else sumRead env f id before + f st data
      else
        sumRead env f id before

/-- How many chunks have been read since then. -/
def chunksRead (env : Env σ) (id : Nat)
    (before : List (RtmpProtocol σ × Bytes)) : Nat :=
  sumRead env (fun _ _ => 1) id before

theorem ChunkHeader.chunkStreamOf_eq {data : Bytes} (h : ChunkHeader data) :
    chunkStreamOf data = h.id := by
  unfold chunkStreamOf
  rw [h.basic]

namespace WholeChunk

variable {st st' : RtmpProtocol σ} {data : Bytes} {items : List RtmpPacket}
  {k : Nat}

theorem endsMessage_eq {c : WholeChunk env st data} (htook : c.Took st' items k)
    (h : splitOnce env st data = .done st' items k) :
    endsMessage env c.id st data = decide c.Completes := by
  unfold endsMessage
  rw [h]
  dsimp only
  rw [htook.slot_self]
  unfold slotAfter
  by_cases hcomplete : c.Completes
  · rw [if_pos hcomplete, decide_eq_true hcomplete]
    rfl
  · rw [if_neg hcomplete, decide_eq_false hcomplete]
    rfl

theorem sumRead_self {c : WholeChunk env st data} (htook : c.Took st' items k)
    (h : splitOnce env st data = .done st' items k)
    (f : RtmpProtocol σ -> Bytes -> Nat)
    (before : List (RtmpProtocol σ × Bytes)) :
    sumRead env f c.id ((st, data) :: before) =
      if c.Completes then 0 else sumRead env f c.id before + f st data := by
  simp only [sumRead, c.toChunkHeader.chunkStreamOf_eq, if_true,
    endsMessage_eq htook h, decide_eq_true_eq]

theorem sumRead_ne (c : WholeChunk env st data)
    (f : RtmpProtocol σ -> Bytes -> Nat)
    (before : List (RtmpProtocol σ × Bytes)) {id : Nat} (hid : id ≠ c.id) :
    sumRead env f id ((st, data) :: before) = sumRead env f id before := by
  simp only [sumRead, c.toChunkHeader.chunkStreamOf_eq]
  exact if_neg (Ne.symm hid)

/-!
## Chunk sizes
-/

/-- The bytes of the message with the chunk in it. -/
def message (c : WholeChunk env st data) : Bytes :=
  (c.packet env st).buf.unread ++ c.payload

theorem loadBe32_stored {c : WholeChunk env st data}
    (hvalid : (c.packet env st).buf.Valid) (hlen : 4 <= c.message.length) :
    loadBe32 c.stored.buf.data = loadBe32 c.message := by
  have hunread := (storePayload_valid hvalid c.bodyStart c.payload).2
  have hstored : c.stored.buf.unread = c.message := hunread
  rw [FlatBuffer.loadBe32_data (by rw [hstored]; exact hlen), hstored]

end WholeChunk

def kMaxChunkSize : Nat := 0x7FFFFFFF

/-- A header in the middle of a message leaves some of it to come, and a chunk
size that is set is one that a chunk can have. -/
structure SizesFit (env : Env σ) (st : RtmpProtocol σ) (data : Bytes) :
    Prop where
  length : forall h : ChunkHeader data, h.CarriesLength ->
    0 < (st.chunkedDataMap h.id).buffered ->
      (st.chunkedDataMap h.id).buffered < h.msgLength
  chunkSize : forall c : WholeChunk env st data, c.Completes ->
    c.stored.msgTypeId = msgSetChunk -> 4 <= c.message.length ->
      1 <= loadBe32 c.message ∧ loadBe32 c.message <= kMaxChunkSize

/-- However the bytes arrive, the chunk size is in its range, a chunk of a
message brings some of it, and a message of `L` bytes is complete after `L`
chunks. -/
def Progresses (env : Env σ) (st : RtmpProtocol σ) (data : Bytes) : Prop :=
  forall before t rest, Visits (splitOnce env) st data before t rest ->
    (1 <= t.chunkSizeIn ∧ t.chunkSizeIn <= kMaxChunkSize) ∧
      forall seen, seen <+: rest -> forall c : WholeChunk env t seen,
        0 < c.stored.msgLength ->
          c.payload ≠ [] ∧
            chunksRead env c.id before + 1 <= c.stored.msgLength ∧
            (¬ c.Completes ->
              chunksRead env c.id before + 1 < c.stored.msgLength)

/-!
## The invariant
-/

/-- A message of which something is buffered lacks some of its bytes. -/
def Slot.Growing (slot : Slot) : Prop :=
  forall pkt, slot.now = some pkt -> pkt.buf.Valid ∧
    (0 < pkt.buf.unreadLength -> pkt.buf.unreadLength < pkt.msgLength)

structure Progressing (env : Env σ) (before : List (RtmpProtocol σ × Bytes))
    (st : RtmpProtocol σ) : Prop where
  chunkSize : 1 <= st.chunkSizeIn ∧ st.chunkSizeIn <= kMaxChunkSize
  lengths : forall id, (st.chunkedDataMap id).LengthsFit
  growing : forall id, (st.chunkedDataMap id).Growing
  /-- Every chunk has brought a byte. -/
  counted : forall id,
    chunksRead env id before <= (st.chunkedDataMap id).buffered

variable {before : List (RtmpProtocol σ × Bytes)} {st : RtmpProtocol σ}
  {data : Bytes}

theorem Progressing.packet_valid (hst : Progressing env before st)
    (h : ChunkHeader data) : (h.packet env st).buf.Valid := by
  rw [(h.packet_buf env st).1]
  exact nowPacket_valid env fun pkt hpkt => (hst.growing h.id pkt hpkt).1

/-- With a header read, a message still lacks some of its bytes. -/
theorem Progressing.packet_growing (hst : Progressing env before st)
    (hfits : SizesFit env st data) (h : ChunkHeader data)
    (hpos : 0 < (h.packet env st).buf.unreadLength) :
    (h.packet env st).buf.unreadLength < (h.packet env st).msgLength := by
  rw [h.packet_buffered] at hpos ⊢
  by_cases hcarries : h.CarriesLength
  · rw [h.packet_msgLength env st hcarries]
    exact hfits.length h hcarries hpos
  · rw [h.packet_msgLength_inherited env st hcarries]
    cases hnow : (st.chunkedDataMap h.id).now with
    | none =>
        simp [Slot.buffered, hnow] at hpos
    | some pkt =>
        simp only [Slot.buffered, nowPacket, hnow] at hpos ⊢
        exact (hst.growing h.id pkt hnow).2 hpos

/-- A chunk brings no more of a message than it lacks, but at least a byte if
the message has any. -/
theorem Progressing.more_bounds (hfresh : LengthsFit env)
    (hst : Progressing env before st) (hfits : SizesFit env st data)
    (c : WholeChunk env st data) :
    (st.chunkedDataMap c.id).buffered + c.more <= c.stored.msgLength ∧
      (0 < c.stored.msgLength -> 0 < c.more) := by
  have hgrowing := hst.packet_growing hfits c.toChunkHeader
  have hshort := c.toChunkHeader.packet_msgLength_lt hfresh (hst.lengths c.id)
  have hsize := hst.chunkSize.1
  have hle : (c.packet env st).buf.unreadLength <=
      (c.packet env st).msgLength := by
    omega
  have hremain := remainMsgLen_eq hle (hshort.trans (by decide))
  rw [c.packet_buffered] at hgrowing hremain hle
  rw [c.stored_msgLength]
  unfold WholeChunk.more
  omega

theorem Progressing.chunk (hfresh : LengthsFit env)
    (hst : Progressing env before st) (hfits : SizesFit env st data)
    (c : WholeChunk env st data) (hlen : 0 < c.stored.msgLength) :
    c.payload ≠ [] ∧ chunksRead env c.id before + 1 <= c.stored.msgLength ∧
      (¬ c.Completes ->
        chunksRead env c.id before + 1 < c.stored.msgLength) := by
  rcases hst.more_bounds hfresh hfits c with ⟨hle, hmore⟩
  have hpos := hmore hlen
  have hcounted := hst.counted c.id
  have hbuffered := (c.stored_buffered (hst.packet_valid c.toChunkHeader)).2
  refine ⟨?_, by omega, ?_⟩
  · intro hempty
    have hlength := c.payload_length
    rw [hempty, List.length_nil] at hlength
    omega
  · intro hcomplete
    have hne : c.stored.msgLength ≠ c.stored.buf.unreadLength := hcomplete
    omega

/-!
## Steps and runs
-/

theorem progressing_needMore (hfresh : LengthsFit env)
    {st' : RtmpProtocol σ} (hst : Progressing env before st)
    (hfits : SizesFit env st data)
    (h : splitOnce env st data = .needMore st') :
    Progressing env before st' where
  chunkSize := by
    rcases splitOnce_needMore h with ⟨id, hst'⟩ | ⟨header, hst', _⟩
    · rw [hst']
      exact hst.chunkSize
    · rw [hst']
      exact hst.chunkSize
  lengths := needMore_lengthsFit hfresh h hst.lengths
  growing := by
    apply needMore_slots (P := fun _ slot => slot.Growing) h hst.growing
    intro header _ pkt hpkt
    cases hpkt
    exact ⟨hst.packet_valid header, hst.packet_growing hfits header⟩
  counted := by
    apply needMore_slots
      (P := fun id slot => chunksRead env id before <= slot.buffered) h
      hst.counted
    intro header _
    have hbuffered : (Slot.mk (some (header.packet env st))
        (st.chunkedDataMap header.id).last).buffered =
          (header.packet env st).buf.unreadLength := rfl
    rw [hbuffered, header.packet_buffered]
    exact hst.counted header.id

/-- The chunk size behind a chunk is the old one or one that was set. -/
theorem WholeChunk.chunkSize_range {st' : RtmpProtocol σ}
    {items : List RtmpPacket} {k : Nat} {c : WholeChunk env st data}
    (htook : c.Took st' items k) (hvalid : (c.packet env st).buf.Valid)
    (hsize : 1 <= st.chunkSizeIn ∧ st.chunkSizeIn <= kMaxChunkSize)
    (hfits : SizesFit env st data) :
    1 <= st'.chunkSizeIn ∧ st'.chunkSizeIn <= kMaxChunkSize := by
  rw [htook.chunkSizeIn_eq]
  unfold chunkSizeAfter
  by_cases hset : c.handed ≠ [] ∧ c.stored.msgTypeId = msgSetChunk
  · rcases storePayload_valid hvalid c.bodyStart c.payload with
      ⟨hstored, hunread⟩
    have hlen : 4 <= c.message.length := by
      rw [message, ← hunread, hstored.unread_length]
      exact htook.setChunk hset.1 hset.2
    rw [if_pos hset, loadBe32_stored hvalid hlen]
    exact hfits.chunkSize c (c.completes_of_handed hset.1) hset.2 hlen
  · rw [if_neg hset]
    exact hsize

theorem progressing_done (hfresh : LengthsFit env) {st' : RtmpProtocol σ}
    {items : List RtmpPacket} {k : Nat} (hst : Progressing env before st)
    (hfits : SizesFit env st data)
    (h : splitOnce env st data = .done st' items k) :
    Progressing env ((st, data) :: before) st' := by
  rcases splitOnce_done h with ⟨c, htook⟩
  have hvalid := hst.packet_valid c.toChunkHeader
  rcases c.stored_buffered hvalid with ⟨hstored, hbuffered⟩
  rcases hst.more_bounds hfresh hfits c with ⟨hle, hmore⟩
  have hlt : ¬ c.Completes ->
      c.stored.buf.unreadLength < c.stored.msgLength := by
    intro hcomplete
    rw [hbuffered]
    exact Nat.lt_of_le_of_ne hle
      fun heq => hcomplete (hbuffered.trans heq).symm
  constructor
  · exact WholeChunk.chunkSize_range htook hvalid hst.chunkSize hfits
  · exact done_lengthsFit hfresh htook hst.lengths
  · apply done_slots (P := fun _ slot => slot.Growing) htook hst.growing
    intro pkt hpkt
    rcases c.slotAfter_now hpkt with ⟨heq, hcomplete⟩
    rw [heq]
    exact ⟨hstored, fun _ => hlt hcomplete⟩
  · intro id
    by_cases hid : id = c.id
    · rw [hid, chunksRead, WholeChunk.sumRead_self htook h, htook.slot_self]
      by_cases hcomplete : c.Completes
      · rw [if_pos hcomplete]
        exact Nat.zero_le _
      · have hcounted := hst.counted c.id
        have hpos := hmore (Nat.zero_lt_of_lt (hlt hcomplete))
        have hafter : c.slotAfter.buffered = c.stored.buf.unreadLength := by
          unfold Slot.buffered
          rw [c.slotAfter_of_not hcomplete]
        rw [if_neg hcomplete, hafter, hbuffered]
        exact Nat.add_le_add hcounted hpos
    · rw [chunksRead, c.sumRead_ne _ before hid, htook.slot_ne hid]
      exact hst.counted id

theorem initial_progressing (hmap : st.chunkedDataMap = fun _ => {})
    (hsize : st.chunkSizeIn = kDefaultChunkLength) :
    Progressing env [] st := by
  constructor
  · rw [hsize]
    decide
  · intro id
    rw [hmap]
    exact ⟨nofun, nofun⟩
  · intro id
    rw [hmap]
    exact nofun
  · intro id
    exact Nat.zero_le _

/-- As long as every header in the middle of a message leaves some of it to come
and every chunk size that is set is in its range, chunks make progress. -/
theorem progresses_of_sizesFit (hfresh : LengthsFit env)
    (hmap : st.chunkedDataMap = fun _ => {})
    (hsize : st.chunkSizeIn = kDefaultChunkLength)
    (hfits : Throughout (splitOnce env) st data (SizesFit env)) :
    Progresses env st data := by
  intro before t rest hvisits
  have ht : Progressing env before t :=
    hvisits.keeps (I := fun before t _ => Progressing env before t)
      (initial_progressing hmap hsize) hfits
      (fun ht hguard _ hattempt =>
        progressing_needMore hfresh ht hguard hattempt)
      (fun ht hguard _ hattempt => progressing_done hfresh ht hguard hattempt)
  refine ⟨ht.chunkSize, fun seen hseen c hlen => ?_⟩
  exact ht.chunk hfresh
    (hfits before t rest seen hvisits hseen c.data_ne_nil) c hlen

theorem Peeked.buffered {rest : Bytes} {t : RtmpProtocol σ}
    (ht : Peeked env st rest t) (id : Nat) :
    (t.chunkedDataMap id).buffered = (st.chunkedDataMap id).buffered := by
  rcases ht.slot_cases id with hsame | ⟨h, rfl, hopened⟩
  · rw [hsame]
  · rw [hopened]
    exact h.packet_buffered st

/-- The chunks of a correct sender meet the condition. -/
theorem sizesFit_wire {s : Sender} {cs : List Chunk} (hsound : s.Sound)
    (hsim : Simulates s st) (hcs : s.WellFormed cs) :
    Throughout (splitOnce env) st (s.wire cs) (SizesFit env) := by
  refine throughout_wire hsound hsim hcs ?_
  intro s' st' t c rest seen hs hsim' _ hc ht ⟨more, hmore⟩
  rw [← hmore] at ht
  constructor
  · intro h hlength hbuffered
    have hh : (h.append more).length = h.length := h.append_length more
    rw [ht.buffered] at hbuffered
    cases c with
    | start id form fmt m =>
        have hidle : (st'.chunkedDataMap h.id).now = none :=
          front_idle hsim' hc hmore (h.append more)
        unfold Slot.buffered at hbuffered
        rw [hidle] at hbuffered
        cases hbuffered
    | next id form =>
        rw [ChunkHeader.CarriesLength, ← hh,
          front_short hc hmore (h.append more)] at hlength
        cases hlength with
        | inl htwelve => cases htwelve
        | inr height => cases height
  · intro w hcomplete htype hlen
    have hstored : (ht.whole (w.append more)).stored = w.stored :=
      (ht.whole_stored _).trans (w.append_stored more)
    have hmessage : (ht.whole (w.append more)).message = w.message := by
      unfold WholeChunk.message
      rw [ht.whole_payload, w.append_payload, ← w.append_packet more,
        ht.packet_eq]
      rfl
    have hwhole : (ht.whole (w.append more)).Completes := by
      unfold WholeChunk.Completes
      rw [hstored]
      exact hcomplete
    rcases front_message hs hsim' hc hmore _ hwhole with
      ⟨m, hm, htypeId, hpayload⟩
    rw [hstored] at htypeId
    change (ht.whole (w.append more)).message = m.payload at hpayload
    rw [hmessage] at hpayload
    rw [hpayload] at hlen ⊢
    have hne : m.payload ≠ [] := by
      apply List.ne_nil_of_length_pos
      omega
    exact (hm.chunkSize_range (htypeId.symm.trans htype) hne).2

/-- A video message of 130 bytes.  Behind its first chunk the chunk size is set
to one, and the last two bytes take a chunk each. -/
def resizedChunks : List Chunk :=
  let video : Message := {
    stamp := ⟨0, 0⟩, typeId := 9, streamId := 1
    payload := List.replicate 130 0 }
  let size : Message := {
    stamp := ⟨0, 0⟩, typeId := 1, streamId := 0, payload := [0, 0, 0, 1] }
  [video.firstChunk 3, size.firstChunk 2, .next 3 .oneByte, .next 3 .oneByte]

theorem resizedChunks_wellFormed : Sender.WellFormed {} resizedChunks := by
  refine ⟨⟨by decide, rfl, ?_, by simp⟩,
    ⟨by decide, Option.isNone_iff_eq_none.mp (by decide +kernel), ?_, by simp⟩,
    ⟨by decide, Option.isSome_iff_exists.mp (by decide +kernel)⟩,
    ⟨by decide, Option.isSome_iff_exists.mp (by decide +kernel)⟩, trivial⟩
  · constructor <;> decide +kernel
  · constructor <;> decide

theorem progresses_of_sizesFit_resized :
    Progresses .accepting { app := () } (Sender.wire {} resizedChunks) :=
  progresses_of_sizesFit (fun _ => Nat.two_pow_pos 32) rfl rfl
    (sizesFit_wire Sender.initial_sound (simulates_initial rfl rfl)
      resizedChunks_wellFormed)

/-- A Set Chunk Size message with the chunk size zero. -/
def zeroChunkSize : Bytes := [2, 0, 0, 0, 0, 0, 4, 1, 0, 0, 0, 0, 0, 0, 0, 0]

theorem zeroChunkSize_accepted :
    (match splitOnce .accepting { app := () } zeroChunkSize with
      | .done t _ _ => decide (t.chunkSizeIn = 0)
      | _ => false) = true := by
  decide +kernel

theorem not_progresses_zeroChunkSize :
    ¬ Progresses .accepting { app := () } zeroChunkSize := by
  intro h
  have haccepted := zeroChunkSize_accepted
  cases hattempt : splitOnce .accepting { app := () } zeroChunkSize with
  | needMore t =>
      rw [hattempt] at haccepted
      cases haccepted
  | failed t items =>
      rw [hattempt] at haccepted
      cases haccepted
  | done t items k =>
      rw [hattempt] at haccepted
      have hvisits := Visits.start.done (List.prefix_refl zeroChunkSize)
        (by decide) hattempt
      have hpos := (h _ _ _ hvisits).1.1
      rw [of_decide_eq_true haccepted] at hpos
      cases hpos

end Completion

end Rtmp
end Streaming
