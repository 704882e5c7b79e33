import Streaming.Rtmp.Segmentation

/-!
# What a chunk does

A turn of the loop in `split_rtmp` either finds the whole chunk or asks for more.
A whole chunk puts its payload into the packet in progress on its chunk stream,
and the packet that it completes, if any, is handed to `handle_chunk`.
-/

namespace Streaming
namespace Rtmp

open Foundation Network Util

/-!
## Headers
-/

theorem nowPacket_busy {σ : Type} (env : Env σ) (id : Nat) {slot : Slot}
    {pkt : RtmpPacket} (h : slot.now = some pkt) :
    nowPacket env id slot = pkt := by
  unfold nowPacket
  rw [h]

theorem nowPacket_idle {σ : Type} (env : Env σ) (id : Nat) {slot : Slot}
    (h : slot.now = none) :
    (nowPacket env id slot).buf = FlatBuffer.create ∧
      (nowPacket env id slot).isAbsStamp = false ∧
      (nowPacket env id slot).pktHeaderLength = 0 := by
  unfold nowPacket
  rw [h]
  cases slot.last <;> exact ⟨rfl, rfl, rfl⟩

theorem basicHeader_offset_le {data : Bytes} {id offset : Nat}
    (h : basicHeader data = .complete id offset) : offset <= 2 := by
  unfold basicHeader at h
  dsimp only at h
  split at h
  · split at h <;> cases h
    decide
  · split at h
    · split at h <;> cases h
      decide
    · cases h
      decide

/-- A chunk header, without the extended timestamp, at the front of the data. -/
structure ChunkHeader (data : Bytes) where
  id : Nat
  /-- How many bytes the id takes beyond the first. -/
  offset : Nat
  basic : basicHeader data = .complete id offset
  fits : offset + kHeaderLength (byteAt data 0 >>> 6) <= data.length

namespace ChunkHeader

variable {data : Bytes}

instance : Subsingleton (ChunkHeader data) where
  allEq h h' := by
    rcases h with ⟨id, offset, basic, fits⟩
    rcases h' with ⟨id', offset', basic', fits'⟩
    rw [basic] at basic'
    cases basic'
    rfl

def length (_ : ChunkHeader data) : Nat := kHeaderLength (byteAt data 0 >>> 6)

/-- The message header, with one byte in front of it. -/
def bytes (h : ChunkHeader data) : Bytes := data.drop h.offset

/-- Where the header ends. -/
def size (h : ChunkHeader data) : Nat := h.length + h.offset

/-- Headers of `fmt` 0 and 1 carry a message length. -/
def CarriesLength (h : ChunkHeader data) : Prop := h.length = 12 ∨ h.length = 8

instance (h : ChunkHeader data) : Decidable h.CarriesLength :=
  inferInstanceAs (Decidable (_ ∨ _))

def msgLength (h : ChunkHeader data) : Nat := loadBe24 (h.bytes.drop 4)

theorem length_cases (h : ChunkHeader data) :
    h.length = 12 ∨ h.length = 8 ∨ h.length = 4 ∨ h.length = 1 :=
  kHeaderLength_cases _

theorem length_pos (h : ChunkHeader data) : 0 < h.length :=
  kHeaderLength_pos _

theorem size_le (h : ChunkHeader data) : h.size <= data.length := by
  have hfits := h.fits
  unfold size length
  omega

section Packet

variable {σ : Type} (env : Env σ) (st : RtmpProtocol σ)

/-- The state with the header read. -/
def opened (h : ChunkHeader data) : RtmpProtocol σ :=
  (openChunk env st h.id h.length h.bytes).1

/-- The packet in progress with the header read. -/
def packet (h : ChunkHeader data) : RtmpPacket :=
  (openChunk env st h.id h.length h.bytes).2

theorem packet_eq (h : ChunkHeader data) :
    h.packet env st = applyHeader h.length h.bytes
      { nowPacket env h.id (st.chunkedDataMap h.id) with
        chunkStreamId := h.id } := rfl

/-- A header changes neither what a packet has buffered nor what was counted. -/
theorem packet_buf (h : ChunkHeader data) :
    (h.packet env st).buf =
        (nowPacket env h.id (st.chunkedDataMap h.id)).buf ∧
      (h.packet env st).pktHeaderLength =
        (nowPacket env h.id (st.chunkedDataMap h.id)).pktHeaderLength := by
  rw [packet_eq]
  rcases h.length_cases with hl | hl | hl | hl <;> rw [hl] <;> exact ⟨rfl, rfl⟩

theorem packet_msgLength {h : ChunkHeader data} (hlen : h.CarriesLength) :
    (h.packet env st).msgLength = h.msgLength := by
  rw [packet_eq]
  rcases hlen with hl | hl <;> rw [hl] <;> rfl

theorem packet_msgLength_inherited {h : ChunkHeader data}
    (hlen : ¬ h.CarriesLength) : (h.packet env st).msgLength =
      (nowPacket env h.id (st.chunkedDataMap h.id)).msgLength := by
  rw [packet_eq]
  rcases h.length_cases with hl | hl | hl | hl
  · exact absurd (Or.inl hl) hlen
  · exact absurd (Or.inr hl) hlen
  · rw [hl]
    rfl
  · rw [hl]
    rfl

theorem opened_ne {h : ChunkHeader data} {id : Nat} (hid : id ≠ h.id) :
    (h.opened env st).chunkedDataMap id = st.chunkedDataMap id :=
  Function.update_of_ne hid _ _

theorem opened_self (h : ChunkHeader data) :
    (h.opened env st).chunkedDataMap h.id =
      { st.chunkedDataMap h.id with now := some (h.packet env st) } :=
  Function.update_self _ _ _

theorem splitOnce_eq (h : ChunkHeader data) :
    splitOnce env st data =
      readBody env (h.opened env st) h.id (h.packet env st) h.size data :=
  splitOnce_complete env h.basic h.fits

end Packet

end ChunkHeader

section Chunks

variable {σ : Type} {env : Env σ}

/-- Without a complete header, a turn of the loop only notes the id. -/
theorem splitOnce_of_isEmpty (env : Env σ) (st : RtmpProtocol σ) {data : Bytes}
    (h : IsEmpty (ChunkHeader data)) :
    exists id, splitOnce env st data = .needMore { st with chunkStreamId := id } := by
  cases hbasic : basicHeader data with
  | short id =>
      refine ⟨id, ?_⟩
      simp only [splitOnce, hbasic]
  | complete id offset =>
      refine ⟨id, ?_⟩
      have hshort : data.length <
          offset + kHeaderLength (byteAt data 0 >>> 6) := by
        by_contra hfits
        exact h.false ⟨id, offset, hbasic, Nat.le_of_not_lt hfits⟩
      simp only [splitOnce, hbasic]
      rw [if_pos hshort]

/-!
## Whole chunks
-/

/-- The storing of a payload keeps every field of the packet. -/
theorem storePayload_fields (pkt : RtmpPacket) (headerEnd : Nat)
    (payload : Bytes) :
    (storePayload pkt headerEnd payload).toHeaderFields = pkt.toHeaderFields ∧
      (storePayload pkt headerEnd payload).isAbsStamp = pkt.isAbsStamp := by
  unfold storePayload RtmpPacket.setPktHeaderLength RtmpPacket.size
  split <;> split <;> exact ⟨rfl, rfl⟩

theorem storePayload_buf (pkt : RtmpPacket) (headerEnd : Nat) (payload : Bytes) :
    (storePayload pkt headerEnd payload).buf =
      if payload ≠ [] then pkt.buf.write payload else pkt.buf := by
  unfold storePayload RtmpPacket.setPktHeaderLength RtmpPacket.size
  split <;> split <;> rfl

/-- The counter grows by the header and by all that is buffered. -/
theorem storePayload_pktHeaderLength (pkt : RtmpPacket) (headerEnd : Nat)
    (payload : Bytes) :
    (storePayload pkt headerEnd payload).pktHeaderLength =
      pkt.pktHeaderLength + headerEnd +
        (storePayload pkt headerEnd payload).buf.unreadLength := by
  by_cases hzero : headerEnd = 0
  · subst hzero
    unfold storePayload RtmpPacket.setPktHeaderLength RtmpPacket.size
    split <;> rfl
  · unfold storePayload RtmpPacket.setPktHeaderLength RtmpPacket.size
    split <;> simp

theorem storePayload_valid {pkt : RtmpPacket} (hpkt : pkt.buf.Valid)
    (headerEnd : Nat) (payload : Bytes) :
    (storePayload pkt headerEnd payload).buf.Valid ∧
      (storePayload pkt headerEnd payload).buf.unread =
        pkt.buf.unread ++ payload := by
  rw [storePayload_buf]
  by_cases hempty : payload = []
  · rw [if_neg (not_not.mpr hempty), hempty, List.append_nil]
    exact ⟨hpkt, rfl⟩
  · rw [if_pos hempty]
    exact ⟨FlatBuffer.write_valid hpkt _, FlatBuffer.write_unread hpkt _⟩

/-- A chunk at the front of the data, with all of its payload. -/
structure WholeChunk (env : Env σ) (st : RtmpProtocol σ) (data : Bytes)
    extends ChunkHeader data where
  timeStamp : Nat
  /-- Where the payload begins, behind the extended timestamp. -/
  bodyStart : Nat
  extended : extendedTimestamp (toChunkHeader.packet env st).tsDelta data
    toChunkHeader.size = some (timeStamp, bodyStart)
  whole : bodyStart + min st.chunkSizeIn
    (remainMsgLen (toChunkHeader.packet env st)) <= data.length

namespace WholeChunk

variable {st : RtmpProtocol σ} {data : Bytes}

/-- How much of the message the chunk carries. -/
def more (c : WholeChunk env st data) : Nat :=
  min st.chunkSizeIn (remainMsgLen (c.packet env st))

def payload (c : WholeChunk env st data) : Bytes :=
  (data.drop c.bodyStart).take c.more

/-- The packet in progress with the chunk in it. -/
def stored (c : WholeChunk env st data) : RtmpPacket :=
  storePayload (c.packet env st) c.bodyStart c.payload

/-- The message that the chunk belongs to is complete. -/
def Completes (c : WholeChunk env st data) : Prop :=
  c.stored.msgLength = c.stored.buf.unreadLength

instance (c : WholeChunk env st data) : Decidable c.Completes :=
  inferInstanceAs (Decidable (_ = _))

/-- The packet as it is kept and handed over when it is complete. -/
def finished (c : WholeChunk env st data) : RtmpPacket :=
  stampPacket c.stored c.timeStamp

theorem payload_length (c : WholeChunk env st data) :
    c.payload.length = c.more := by
  have hwhole := c.whole
  unfold payload more
  rw [List.length_take, List.length_drop]
  omega

theorem size_le_bodyStart (c : WholeChunk env st data) :
    c.toChunkHeader.size <= c.bodyStart :=
  (extendedTimestamp_bounds c.extended).1

/-- How many bytes the chunk takes. -/
def consumed (c : WholeChunk env st data) : Nat := c.bodyStart + c.more

theorem consumed_pos (c : WholeChunk env st data) : 0 < c.consumed := by
  have hpos := c.toChunkHeader.length_pos
  have hle := c.size_le_bodyStart
  unfold ChunkHeader.size at hle
  unfold consumed
  omega

theorem consumed_le (c : WholeChunk env st data) : c.consumed <= data.length :=
  c.whole

theorem data_ne_nil (c : WholeChunk env st data) : data ≠ [] := by
  have hpos := c.consumed_pos
  have hle := c.consumed_le
  apply List.ne_nil_of_length_pos
  omega

theorem splitOnce_eq (c : WholeChunk env st data) :
    splitOnce env st data =
      takeChunk env (c.opened env st) c.id (c.packet env st) c.timeStamp
        c.bodyStart c.payload := by
  rw [c.toChunkHeader.splitOnce_eq env st]
  unfold readBody
  rw [c.extended]
  dsimp only
  exact if_neg (Nat.not_lt.mpr c.whole)

end WholeChunk

/-!
## What is left behind
-/

theorem acknowledgeReceived_frame {st st' : RtmpProtocol σ}
    (h : acknowledgeReceived env st = .done st') :
    exists side last, st' = { st with side := side, bytesRecvLast := last } := by
  simp only [acknowledgeReceived] at h
  split at h
  · split at h
    · cases h
      exact ⟨_, _, rfl⟩
    · cases h
    · cases h
  · cases h
    exact ⟨_, _, rfl⟩

theorem RtmpProtocol.handle_done {st st' : RtmpProtocol σ}
    {handler : SendSide × σ -> RtmpPacket -> Exit (SendSide × σ)}
    {pkt : RtmpPacket} (h : st.handle handler pkt = .done st') :
    exists p, handler (st.side, st.app) pkt = .done p ∧ st' = st.setApp p := by
  unfold RtmpProtocol.handle at h
  split at h
  · rename_i p hp
    cases h
    exact ⟨p, hp, rfl⟩
  · cases h
  · cases h

/-- A message that `handle_chunk` returns from has set the chunk size, changed
nothing, or been given to a handler. -/
theorem handleChunk_cases {st st' : RtmpProtocol σ} {pkt : RtmpPacket}
    (h : handleChunk env st pkt = .done st') :
    (pkt.msgTypeId = msgSetChunk ∧ 4 <= pkt.buf.unreadLength ∧
      st' = { st with chunkSizeIn := loadBe32 pkt.buf.data }) ∨
    pkt.msgTypeId ≠ msgSetChunk ∧
      (st' = st ∨ exists p,
        (env.onProcessCmd (st.side, st.app) pkt = .done p ∨
          env.onProcessMetadata (st.side, st.app) pkt = .done p ∨
          env.processAvPacket (st.side, st.app) pkt = .done p) ∧
        st' = st.setApp p) := by
  unfold handleChunk at h
  by_cases hset : pkt.msgTypeId = msgSetChunk
  · rw [if_pos hset] at h
    left
    split at h
    · cases h
    · rename_i hlen
      cases h
      exact ⟨hset, Nat.le_of_not_lt hlen, rfl⟩
  · rw [if_neg hset] at h
    refine Or.inr ⟨hset, ?_⟩
    split at h
    · split at h
      · cases h
      · cases h
        exact Or.inl rfl
    split at h
    · rcases RtmpProtocol.handle_done h with ⟨p, hp, hst'⟩
      exact Or.inr ⟨p, Or.inl hp, hst'⟩
    split at h
    · rcases RtmpProtocol.handle_done h with ⟨p, hp, hst'⟩
      exact Or.inr ⟨p, Or.inr (Or.inl hp), hst'⟩
    split at h
    · split at h
      · rcases RtmpProtocol.handle_done h with ⟨p, hp, hst'⟩
        exact Or.inr ⟨p, Or.inr (Or.inr hp), hst'⟩
      · cases h
    · cases h
      exact Or.inl rfl

/-- A handler that returns leaves the chunk streams alone, and only Set Chunk
Size changes the chunk size. -/
theorem handleChunk_frame {st st' : RtmpProtocol σ} {pkt : RtmpPacket}
    (h : handleChunk env st pkt = .done st') :
    exists side app, st' = { st with
      side := side
      app := app
      chunkSizeIn :=
        if pkt.msgTypeId = msgSetChunk then loadBe32 pkt.buf.data
        else st.chunkSizeIn } := by
  rcases handleChunk_cases h with
    ⟨hset, _, hst'⟩ | ⟨hset, hst' | ⟨p, _, hst'⟩⟩
  · rw [if_pos hset]
    exact ⟨_, _, hst'⟩
  · rw [if_neg hset]
    exact ⟨_, _, hst'⟩
  · rw [if_neg hset]
    exact ⟨p.1, p.2, hst'⟩

theorem handleChunk_setChunk {st st' : RtmpProtocol σ} {pkt : RtmpPacket}
    (h : handleChunk env st pkt = .done st')
    (hset : pkt.msgTypeId = msgSetChunk) : 4 <= pkt.buf.unreadLength := by
  rcases handleChunk_cases h with ⟨_, hfour, _⟩ | ⟨hnot, _⟩
  · exact hfour
  · exact absurd hset hnot

namespace WholeChunk

variable {st : RtmpProtocol σ} {data : Bytes}

/-- What `handle_chunk` is given. -/
def handed (c : WholeChunk env st data) : List RtmpPacket :=
  if c.Completes ∧ c.stored.msgLength ≠ 0 then [c.finished] else []

theorem completes_of_handed {c : WholeChunk env st data} (h : c.handed ≠ []) :
    c.Completes := by
  by_contra hcomplete
  exact h (if_neg fun hboth => hcomplete hboth.1)

/-- The two packets of the chunk stream behind the chunk. -/
def slotAfter (c : WholeChunk env st data) : Slot :=
  if c.Completes then { now := none, last := some c.finished }
  else { now := some c.stored, last := (st.chunkedDataMap c.id).last }

theorem slotAfter_of_not {c : WholeChunk env st data} (h : ¬ c.Completes) :
    c.slotAfter.now = some c.stored := by
  unfold slotAfter
  rw [if_neg h]

/-- Only a message that lacks bytes is still in progress behind the chunk. -/
theorem slotAfter_now {c : WholeChunk env st data} {pkt : RtmpPacket}
    (h : c.slotAfter.now = some pkt) : pkt = c.stored ∧ ¬ c.Completes := by
  unfold slotAfter at h
  by_cases hcomplete : c.Completes
  · rw [if_pos hcomplete] at h
    cases h
  · rw [if_neg hcomplete] at h
    cases h
    exact ⟨rfl, hcomplete⟩

def chunkSizeAfter (c : WholeChunk env st data) : Nat :=
  if c.handed ≠ [] ∧ c.stored.msgTypeId = msgSetChunk then
    loadBe32 c.stored.buf.data
  else
    st.chunkSizeIn

/-- The state behind a chunk, but for what sending and handlers change. -/
structure Took (c : WholeChunk env st data) (st' : RtmpProtocol σ)
    (items : List RtmpPacket) (k : Nat) : Prop where
  consumed_eq : k = c.consumed
  items_eq : items = c.handed
  nextStep_eq : st'.nextStep = st.nextStep
  chunkedDataMap_eq : st'.chunkedDataMap =
    Function.update st.chunkedDataMap c.id c.slotAfter
  chunkSizeIn_eq : st'.chunkSizeIn = c.chunkSizeAfter
  setChunk : c.handed ≠ [] -> c.stored.msgTypeId = msgSetChunk ->
    4 <= c.stored.buf.unreadLength
  bytesRecv_eq : st'.bytesRecv =
    (st.bytesRecv + c.stored.pktHeaderLength % 2 ^ 32) % 2 ^ 64

theorem Took.slot_self {c : WholeChunk env st data} {st' : RtmpProtocol σ}
    {items : List RtmpPacket} {k : Nat} (h : c.Took st' items k) :
    st'.chunkedDataMap c.id = c.slotAfter := by
  rw [h.chunkedDataMap_eq, Function.update_self]

theorem Took.slot_ne {c : WholeChunk env st data} {st' : RtmpProtocol σ}
    {items : List RtmpPacket} {k id : Nat} (h : c.Took st' items k)
    (hid : id ≠ c.id) : st'.chunkedDataMap id = st.chunkedDataMap id := by
  rw [h.chunkedDataMap_eq, Function.update_of_ne hid]

theorem finishChunk_took {c : WholeChunk env st data}
    {acked st' : RtmpProtocol σ} {items : List RtmpPacket} {k : Nat}
    (hack : acknowledgeReceived env
      (recordChunk (c.opened env st) c.id c.stored) = .done acked)
    (h : finishChunk env acked c.id c.stored c.timeStamp c.consumed =
      .done st' items k) : c.Took st' items k := by
  rcases acknowledgeReceived_frame hack with ⟨side, last, hacked⟩
  have hmap : acked.chunkedDataMap = Function.update st.chunkedDataMap c.id
      { now := some c.stored, last := (st.chunkedDataMap c.id).last } := by
    rw [hacked]
    simp [recordChunk, RtmpProtocol.setSlot, ChunkHeader.opened, openChunk]
  have hsize : acked.chunkSizeIn = st.chunkSizeIn := by
    rw [hacked]
    rfl
  have hstep : acked.nextStep = st.nextStep := by
    rw [hacked]
    rfl
  have hrecv : acked.bytesRecv =
      (st.bytesRecv + c.stored.pktHeaderLength % 2 ^ 32) % 2 ^ 64 := by
    rw [hacked]
    rfl
  unfold finishChunk at h
  dsimp only at h
  by_cases hcomplete : c.Completes
  · rw [if_pos (show c.stored.msgLength = c.stored.buf.unreadLength from
      hcomplete)] at h
    have hslot : c.slotAfter = { now := none, last := some c.finished } :=
      if_pos hcomplete
    have hkept : Function.update acked.chunkedDataMap c.id c.slotAfter =
        Function.update st.chunkedDataMap c.id c.slotAfter := by
      rw [hmap, Function.update_idem]
    by_cases hempty : c.stored.msgLength = 0
    · have hnone : c.handed = [] := if_neg fun hboth => hboth.2 hempty
      rw [if_neg (show ¬ (stampPacket c.stored c.timeStamp).msgLength ≠ 0 from
        not_not.mpr hempty)] at h
      cases h
      refine ⟨rfl, hnone.symm, hstep, ?_, ?_, absurd hnone, hrecv⟩
      · rw [← hkept, hslot]
        rfl
      · unfold chunkSizeAfter
        rw [if_neg fun hboth => hboth.1 hnone]
        exact hsize
    · have hhanded : c.handed = [c.finished] := if_pos ⟨hcomplete, hempty⟩
      rw [if_pos (show (stampPacket c.stored c.timeStamp).msgLength ≠ 0 from
        hempty)] at h
      rcases deliver_done env h with ⟨hk, hitems, hhandle⟩
      rcases handleChunk_frame hhandle with ⟨side', app, hst'⟩
      have hfour := handleChunk_setChunk hhandle
      refine ⟨hk, hitems.trans hhanded.symm, ?_, ?_, ?_,
        fun _ => hfour, ?_⟩
      · rw [hst']
        exact hstep
      · rw [hst', ← hkept, hslot]
        rfl
      · have hafter : c.chunkSizeAfter =
            if c.stored.msgTypeId = msgSetChunk then
              loadBe32 c.stored.buf.data
            else st.chunkSizeIn := by
          simp [chunkSizeAfter, hhanded]
        rw [hst', hafter, ← hsize]
        rfl
      · rw [hst']
        exact hrecv
  · rw [if_neg (show ¬ c.stored.msgLength = c.stored.buf.unreadLength from
      hcomplete)] at h
    have hnone : c.handed = [] := if_neg fun hboth => hcomplete hboth.1
    have hslot : c.slotAfter =
        { now := some c.stored, last := (st.chunkedDataMap c.id).last } :=
      if_neg hcomplete
    cases h
    refine ⟨rfl, hnone.symm, hstep, ?_, ?_, absurd hnone, hrecv⟩
    · rw [hslot]
      exact hmap
    · unfold chunkSizeAfter
      rw [if_neg fun hboth => hboth.1 hnone]
      exact hsize

end WholeChunk

/-- The extended timestamp or the payload behind a header is cut off. -/
def ChunkHeader.CutOff {data : Bytes} (h : ChunkHeader data) (env : Env σ)
    (st : RtmpProtocol σ) : Prop :=
  forall timeStamp bodyStart,
    extendedTimestamp (h.packet env st).tsDelta data h.size =
        some (timeStamp, bodyStart) ->
      data.length < bodyStart +
        min st.chunkSizeIn (remainMsgLen (h.packet env st))

theorem ChunkHeader.splitOnce_of_cutOff {st : RtmpProtocol σ} {data : Bytes}
    {h : ChunkHeader data} (hcut : h.CutOff env st) :
    splitOnce env st data = .needMore (h.opened env st) := by
  rw [h.splitOnce_eq env st]
  unfold readBody
  cases hext : extendedTimestamp (h.packet env st).tsDelta data h.size with
  | none => rfl
  | some found =>
      rcases found with ⟨timeStamp, bodyStart⟩
      exact if_pos (hcut timeStamp bodyStart hext)

/-- As long as a chunk is not whole, its header or its body is cut off. -/
theorem not_whole_cases {st : RtmpProtocol σ} {data : Bytes}
    (h : IsEmpty (WholeChunk env st data)) :
    IsEmpty (ChunkHeader data) ∨
      exists header : ChunkHeader data, header.CutOff env st := by
  by_cases hheader : IsEmpty (ChunkHeader data)
  · exact Or.inl hheader
  · rcases not_isEmpty_iff.mp hheader with ⟨header⟩
    refine Or.inr ⟨header, fun timeStamp bodyStart hext => ?_⟩
    by_contra hwhole
    exact h.false ⟨header, timeStamp, bodyStart, hext,
      Nat.le_of_not_lt hwhole⟩

/-- As long as the chunk is not whole, a turn of the loop asks for more. -/
theorem splitOnce_of_not_whole {st : RtmpProtocol σ} {data : Bytes}
    (h : IsEmpty (WholeChunk env st data)) :
    exists st', splitOnce env st data = .needMore st' := by
  rcases not_whole_cases h with hheader | ⟨header, hcut⟩
  · rcases splitOnce_of_isEmpty env st hheader with ⟨id, hneed⟩
    exact ⟨_, hneed⟩
  · exact ⟨_, header.splitOnce_of_cutOff hcut⟩

/-- A turn of the loop that asks for more has at most read a header. -/
theorem splitOnce_needMore {st st' : RtmpProtocol σ} {data : Bytes}
    (h : splitOnce env st data = .needMore st') :
    (exists id, st' = { st with chunkStreamId := id }) ∨
      exists header : ChunkHeader data,
        st' = header.opened env st ∧ header.CutOff env st := by
  have hnot : IsEmpty (WholeChunk env st data) := by
    constructor
    intro c
    rw [c.splitOnce_eq] at h
    exact takeChunk_ne_needMore env _ _ _ _ _ _ _ h
  rcases not_whole_cases hnot with hheader | ⟨header, hcut⟩
  · rcases splitOnce_of_isEmpty env st hheader with ⟨id, hneed⟩
    rw [hneed] at h
    cases h
    exact Or.inl ⟨id, rfl⟩
  · rw [header.splitOnce_of_cutOff hcut] at h
    cases h
    exact Or.inr ⟨header, rfl, hcut⟩

/-- A turn of the loop that goes on has taken a whole chunk. -/
theorem splitOnce_done {st st' : RtmpProtocol σ} {data : Bytes}
    {items : List RtmpPacket} {k : Nat}
    (h : splitOnce env st data = .done st' items k) :
    exists c : WholeChunk env st data, c.Took st' items k := by
  by_cases hwhole : IsEmpty (WholeChunk env st data)
  · rcases splitOnce_of_not_whole hwhole with ⟨t, hneed⟩
    rw [hneed] at h
    cases h
  · rcases not_isEmpty_iff.mp hwhole with ⟨c⟩
    refine ⟨c, ?_⟩
    rw [c.splitOnce_eq] at h
    unfold takeChunk at h
    dsimp only at h
    rw [c.payload_length] at h
    split at h
    · rename_i acked hack
      exact WholeChunk.finishChunk_took hack h
    · cases h
    · cases h

theorem splitOnce_nextStep {st st' : RtmpProtocol σ} {data : Bytes}
    {items : List RtmpPacket} {k : Nat}
    (h : splitOnce env st data = .done st' items k) :
    st'.nextStep = st.nextStep := by
  rcases splitOnce_done h with ⟨c, htook⟩
  exact htook.nextStep_eq

theorem splitOnce_needMore_nextStep {st st' : RtmpProtocol σ} {data : Bytes}
    (h : splitOnce env st data = .needMore st') :
    st'.nextStep = st.nextStep := by
  rcases splitOnce_needMore h with ⟨id, hst'⟩ | ⟨header, hst', _⟩
  · rw [hst']
  · rw [hst']
    rfl

/-!
## Rules for the chunk streams
-/

/-- What holds of every chunk stream is kept by a look that asks for more, if
the header it may have read keeps it. -/
theorem needMore_slots {P : Nat -> Slot -> Prop} {st st' : RtmpProtocol σ}
    {data : Bytes} (h : splitOnce env st data = .needMore st')
    (hst : forall id, P id (st.chunkedDataMap id))
    (hopen : forall header : ChunkHeader data, header.CutOff env st ->
      P header.id { st.chunkedDataMap header.id with
        now := some (header.packet env st) }) :
    forall id, P id (st'.chunkedDataMap id) := by
  intro id
  rcases splitOnce_needMore h with ⟨id', hst'⟩ | ⟨header, hst', hcut⟩
  · rw [hst']
    exact hst id
  · rw [hst']
    by_cases hid : id = header.id
    · rw [hid, header.opened_self env st]
      exact hopen header hcut
    · rw [header.opened_ne env st hid]
      exact hst id

/-- What holds of every chunk stream is kept by a look that goes on, if the
chunk that it has taken keeps it. -/
theorem done_slots {P : Nat -> Slot -> Prop} {st st' : RtmpProtocol σ}
    {data : Bytes} {items : List RtmpPacket} {k : Nat}
    {c : WholeChunk env st data} (htook : c.Took st' items k)
    (hst : forall id, P id (st.chunkedDataMap id)) (hafter : P c.id c.slotAfter) :
    forall id, P id (st'.chunkedDataMap id) := by
  intro id
  by_cases hid : id = c.id
  · rw [hid, htook.slot_self]
    exact hafter
  · rw [htook.slot_ne hid]
    exact hst id

/-!
## Lengths
-/

/-- The uninitialised `msg_length` is a `uint32_t`. -/
def LengthsFit (env : Env σ) : Prop :=
  forall id, (env.fresh id).msgLength < 2 ^ 32

def Slot.LengthsFit (slot : Slot) : Prop :=
  (forall pkt, slot.now = some pkt -> pkt.msgLength < 2 ^ 32) ∧
    forall pkt, slot.last = some pkt -> pkt.msgLength < 2 ^ 32

theorem nowPacket_msgLength_lt (hfresh : LengthsFit env) {id : Nat}
    {slot : Slot} (hslot : slot.LengthsFit) :
    (nowPacket env id slot).msgLength < 2 ^ 32 := by
  unfold nowPacket
  cases hnow : slot.now with
  | some pkt => exact hslot.1 pkt hnow
  | none =>
      cases hlast : slot.last with
      | some pkt => exact hslot.2 pkt hlast
      | none => exact hfresh id

theorem ChunkHeader.packet_msgLength_lt (hfresh : LengthsFit env)
    {st : RtmpProtocol σ} {data : Bytes} (h : ChunkHeader data)
    (hslot : (st.chunkedDataMap h.id).LengthsFit) :
    (h.packet env st).msgLength < 2 ^ 32 := by
  by_cases hcarries : h.CarriesLength
  · rw [h.packet_msgLength env st hcarries]
    exact (loadBe24_lt _).trans (by decide)
  · rw [h.packet_msgLength_inherited env st hcarries]
    exact nowPacket_msgLength_lt hfresh hslot

theorem WholeChunk.stored_msgLength {st : RtmpProtocol σ} {data : Bytes}
    (c : WholeChunk env st data) :
    c.stored.msgLength = (c.packet env st).msgLength := by
  unfold stored
  rw [(storePayload_fields _ _ _).1]

theorem WholeChunk.slotAfter_lengthsFit (hfresh : LengthsFit env)
    {st : RtmpProtocol σ} {data : Bytes} (c : WholeChunk env st data)
    (hslot : (st.chunkedDataMap c.id).LengthsFit) :
    c.slotAfter.LengthsFit := by
  have hstored : c.stored.msgLength < 2 ^ 32 := by
    rw [c.stored_msgLength]
    exact c.toChunkHeader.packet_msgLength_lt hfresh hslot
  constructor
  · intro pkt hpkt
    rw [(c.slotAfter_now hpkt).1]
    exact hstored
  · intro pkt hpkt
    unfold slotAfter at hpkt
    split at hpkt
    · cases hpkt
      exact hstored
    · exact hslot.2 pkt hpkt

/-- Every look keeps the lengths within 32 bits. -/
theorem needMore_lengthsFit (hfresh : LengthsFit env) {st st' : RtmpProtocol σ}
    {data : Bytes} (h : splitOnce env st data = .needMore st')
    (hst : forall id, (st.chunkedDataMap id).LengthsFit) :
    forall id, (st'.chunkedDataMap id).LengthsFit := by
  apply needMore_slots (P := fun _ slot => slot.LengthsFit) h hst
  intro header _
  constructor
  · intro pkt hpkt
    cases hpkt
    exact header.packet_msgLength_lt hfresh (hst header.id)
  · exact (hst header.id).2

theorem done_lengthsFit (hfresh : LengthsFit env) {st st' : RtmpProtocol σ}
    {data : Bytes} {items : List RtmpPacket} {k : Nat}
    {c : WholeChunk env st data} (htook : c.Took st' items k)
    (hst : forall id, (st.chunkedDataMap id).LengthsFit) :
    forall id, (st'.chunkedDataMap id).LengthsFit :=
  done_slots (P := fun _ slot => slot.LengthsFit) htook hst
    (c.slotAfter_lengthsFit hfresh (hst c.id))

end Chunks

end Rtmp
end Streaming
