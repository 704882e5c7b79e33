import Streaming.Rtmp.ChunkStream
import Streaming.Rtmp.Handling

/-!
# Demultiplexing well-formed chunk streams

Reading the chunks of a correct sender, `split_rtmp` follows the sender: every
chunk stream of the sender is matched by the two packets of its slot, and every
chunk takes both sides one step further.
-/

namespace Streaming
namespace Rtmp

open Foundation Util Network

/-!
## Reading back a header
-/

theorem ofNat_toNat {n : Nat} (hn : n < 256) : (UInt8.ofNat n).toNat = n := by
  rw [UInt8.toNat_ofNat']
  exact Nat.mod_eq_of_lt hn

/-- The first byte of a chunk holds `fmt` above the six bits of the id. -/
theorem firstByte_id {fmt low : Nat} (hfmt : fmt < 4) (hlow : low < 64) :
    (UInt8.ofNat (fmt * 64 + low)).toNat &&& 0x3F = low := by
  rw [ofNat_toNat (by omega), show 0x3F = 2 ^ 6 - 1 from rfl,
    Nat.and_two_pow_sub_one_eq_mod]
  omega

theorem firstByte_fmt {fmt low : Nat} (hfmt : fmt < 4) (hlow : low < 64) :
    (UInt8.ofNat (fmt * 64 + low)).toNat >>> 6 = fmt := by
  rw [ofNat_toNat (by omega), Nat.shiftRight_eq_div_pow]
  omega

theorem basicHeader_length (form : IdForm) (fmt : Fin 4) (id : Nat) :
    (form.basicHeader fmt id).length = form.extra + 1 := by
  cases form <;> rfl

theorem basicHeader_fmt (form : IdForm) (fmt : Fin 4) {id : Nat}
    (hid : form.Fits id) (rest : Bytes) :
    byteAt (form.basicHeader fmt id ++ rest) 0 >>> 6 = fmt.val := by
  cases form with
  | oneByte =>
      rcases hid with ⟨_, hmax⟩
      exact firstByte_fmt fmt.isLt (by omega)
  | twoBytes =>
      have hfirst := firstByte_fmt fmt.isLt (show 0 < 64 by omega)
      rw [Nat.add_zero] at hfirst
      exact hfirst
  | threeBytes => exact firstByte_fmt fmt.isLt (by omega)

/-- Each form of the basic header gives back the chunk stream id. -/
theorem basicHeader_complete (form : IdForm) (fmt : Fin 4) {id : Nat}
    (hid : form.Fits id) (rest : Bytes) :
    basicHeader (form.basicHeader fmt id ++ rest) =
      .complete id form.extra := by
  cases form with
  | oneByte =>
      rcases hid with ⟨hmin, hmax⟩
      have hlow : byteAt (IdForm.oneByte.basicHeader fmt id ++ rest) 0 &&& 0x3F =
          id := firstByte_id fmt.isLt (by omega)
      simp only [basicHeader, hlow]
      rw [if_neg (by omega), if_neg (by omega)]
      rfl
  | twoBytes =>
      rcases hid with ⟨hmin, hmax⟩
      have hlow :
          byteAt (IdForm.twoBytes.basicHeader fmt id ++ rest) 0 &&& 0x3F = 0 := by
        have hfirst := firstByte_id fmt.isLt (show 0 < 64 by omega)
        rw [Nat.add_zero] at hfirst
        exact hfirst
      have hsecond :
          byteAt (IdForm.twoBytes.basicHeader fmt id ++ rest) 1 = id - 64 :=
        ofNat_toNat (by omega)
      simp only [basicHeader, hlow, hsecond]
      rw [if_pos trivial, if_neg (by simp [IdForm.basicHeader]),
        Nat.add_sub_of_le hmin]
      rfl
  | threeBytes =>
      rcases hid with ⟨hmin, hmax⟩
      have hlow :
          byteAt (IdForm.threeBytes.basicHeader fmt id ++ rest) 0 &&& 0x3F = 1 :=
        firstByte_id fmt.isLt (by omega)
      have hsecond : byteAt (IdForm.threeBytes.basicHeader fmt id ++ rest) 1 =
          (id - 64) % 256 := ofNat_toNat (by omega)
      have hthird : byteAt (IdForm.threeBytes.basicHeader fmt id ++ rest) 2 =
          (id - 64) / 256 := ofNat_toNat (by omega)
      have hsum : 64 + (id - 64) % 256 + ((id - 64) / 256) <<< 8 = id := by
        rw [Nat.shiftLeft_eq]
        omega
      simp only [basicHeader, hlow, hsecond, hthird, hsum]
      rw [if_neg (by omega), if_pos trivial,
        if_neg (by simp [IdForm.basicHeader])]
      rfl

/-- Behind the basic header, its last byte taken as the first of the packed
`rtmp_header`, stands the message header. -/
theorem basicHeader_drop (form : IdForm) (fmt : Fin 4) (id : Nat)
    (rest : Bytes) :
    exists b, (form.basicHeader fmt id ++ rest).drop form.extra = b :: rest := by
  cases form <;> exact ⟨_, rfl⟩

theorem fmt_cases (fmt : Fin 4) : fmt = 0 ∨ fmt = 1 ∨ fmt = 2 ∨ fmt = 3 := by
  decide +revert

theorem header_length (m : Message) (fmt : Fin 4) :
    (m.header fmt).length + 1 = kHeaderLength fmt.val := by
  match fmt with
  | 0 => rfl
  | 1 => rfl
  | 2 => rfl
  | 3 => rfl

/-- What reading the message header of each `fmt` leaves in the packet. -/
theorem applyHeader_header {m : Message} (hm : m.WellFormed) (fmt : Fin 4)
    (b : UInt8) (rest : Bytes) (pkt : RtmpPacket) :
    applyHeader (kHeaderLength fmt.val) (b :: (m.header fmt ++ rest)) pkt =
      match fmt with
      | 0 =>
          { pkt with
            isAbsStamp := true
            tsDelta := m.stamp.field
            msgLength := m.payload.length
            msgTypeId := m.typeId
            msgStreamId := m.streamId }
      | 1 =>
          { pkt with
            tsDelta := m.stamp.field
            msgLength := m.payload.length
            msgTypeId := m.typeId }
      | 2 => { pkt with tsDelta := m.stamp.field }
      | 3 => pkt := by
  have hfield : forall more,
      loadBe24 (setBe24 m.stamp.field ++ more) = m.stamp.field :=
    fun more => loadBe24_setBe24 more hm.field_lt
  have hlength : forall more,
      loadBe24 (setBe24 m.payload.length ++ more) = m.payload.length :=
    fun more => loadBe24_setBe24 more hm.length_lt
  have hstream : forall more,
      loadLe32 (setLe32 m.streamId ++ more) = m.streamId :=
    fun more => loadLe32_setLe32 more hm.streamId_lt
  match fmt with
  | 0 =>
      have h1 : (b :: (m.header 0 ++ rest)).drop 1 = setBe24 m.stamp.field ++
          (setBe24 m.payload.length ++
            (UInt8.ofNat m.typeId :: setLe32 m.streamId) ++ rest) := by
        simp [Message.header]
      have h4 : (b :: (m.header 0 ++ rest)).drop 4 =
          setBe24 m.payload.length ++
            (UInt8.ofNat m.typeId :: setLe32 m.streamId ++ rest) := rfl
      have h7 : byteAt (b :: (m.header 0 ++ rest)) 7 = m.typeId :=
        ofNat_toNat hm.typeId_lt
      have h8 : (b :: (m.header 0 ++ rest)).drop 8 =
          setLe32 m.streamId ++ rest := rfl
      simp only [kHeaderLength, List.getD, Fin.val_zero, applyHeader, h1, h4,
        h7, h8, hfield, hlength, hstream]
      rfl
  | 1 =>
      have h1 : (b :: (m.header 1 ++ rest)).drop 1 = setBe24 m.stamp.field ++
          (setBe24 m.payload.length ++ [UInt8.ofNat m.typeId] ++ rest) := by
        simp [Message.header]
      have h4 : (b :: (m.header 1 ++ rest)).drop 4 =
          setBe24 m.payload.length ++ (UInt8.ofNat m.typeId :: rest) := rfl
      have h7 : byteAt (b :: (m.header 1 ++ rest)) 7 = m.typeId :=
        ofNat_toNat hm.typeId_lt
      show applyHeader 8 (b :: (m.header 1 ++ rest)) pkt = _
      simp only [applyHeader, h1, h4, h7, hfield, hlength]
  | 2 =>
      have h1 : (b :: (m.header 2 ++ rest)).drop 1 =
          setBe24 m.stamp.field ++ rest := rfl
      show applyHeader 4 (b :: (m.header 2 ++ rest)) pkt = _
      simp only [applyHeader, h1, hfield]
  | 3 => rfl

/-!
## The simulation relation
-/

/-- What a packet says about its message. -/
def RtmpPacket.delivered (pkt : RtmpPacket) : Delivered where
  chunkStreamId := pkt.chunkStreamId
  typeId := pkt.msgTypeId
  streamId := pkt.msgStreamId
  length := pkt.msgLength
  timestamp := pkt.timeStamp
  payload := pkt.buf.unread

/-- A packet holds the header fields that later messages may inherit. -/
structure Context (m : Message) (timestamp : Nat) (pkt : RtmpPacket) : Prop where
  tsDelta_eq : pkt.tsDelta = m.stamp.field
  msgLength_eq : pkt.msgLength = m.payload.length
  msgTypeId_eq : pkt.msgTypeId = m.typeId
  msgStreamId_eq : pkt.msgStreamId = m.streamId
  timeStamp_eq : pkt.timeStamp = timestamp

/-- A packet holds as much of a message as has been sent. -/
structure Carries (id : Nat) (p : Progress) (pkt : RtmpPacket) : Prop where
  chunkStreamId_eq : pkt.chunkStreamId = id
  tsDelta_eq : pkt.tsDelta = p.message.stamp.field
  msgLength_eq : pkt.msgLength = p.message.payload.length
  msgTypeId_eq : pkt.msgTypeId = p.message.typeId
  msgStreamId_eq : pkt.msgStreamId = p.message.streamId
  timestamp_eq : (p.message.stamp.value +
    if pkt.isAbsStamp then 0 else pkt.timeStamp) % 2 ^ 32 = p.timestamp
  buf_valid : pkt.buf.Valid
  buf_unread : pkt.buf.unread = p.message.payload.take p.sent

/-- The two packets of a slot match a chunk stream of the sender. -/
structure Matches (id : Nat) (lane : Lane) (slot : Slot) : Prop where
  last_eq : forall m timestamp, lane.previous = some (m, timestamp) ->
    exists pkt, slot.last = some pkt ∧ Context m timestamp pkt
  now_none : lane.current = none -> slot.now = none
  now_some : forall p, lane.current = some p ->
    exists pkt, slot.now = some pkt ∧ Carries id p pkt

section Simulation

variable {σ : Type} (env : Env σ)

structure Simulates (s : Sender) (st : RtmpProtocol σ) : Prop where
  chunkSize_eq : st.chunkSizeIn = s.chunkSize
  slots : forall id, Matches id (s.lane id) (st.chunkedDataMap id)

theorem simulates_initial {st : RtmpProtocol σ}
    (hsize : st.chunkSizeIn = kDefaultChunkLength)
    (hmap : st.chunkedDataMap = fun _ => {}) : Simulates {} st := by
  constructor
  · exact hsize
  · intro id
    rw [hmap]
    constructor
    · intro m timestamp h
      cases h
    · intro _
      rfl
    · intro p h
      cases h

theorem Carries.unreadLength_eq {id : Nat} {p : Progress} {pkt : RtmpPacket}
    (h : Carries id p pkt) (hp : p.sent <= p.message.payload.length) :
    pkt.buf.unreadLength = p.sent := by
  rw [← h.buf_valid.unread_length, h.buf_unread, List.length_take]
  exact Nat.min_eq_left hp

/-!
## The first chunk of a message
-/

theorem nowPacket_context (id : Nat) {slot : Slot} {m : Message}
    {timestamp : Nat} {last : RtmpPacket} (hnow : slot.now = none)
    (hlast : slot.last = some last) (h : Context m timestamp last) :
    Context m timestamp (nowPacket env id slot) := by
  unfold nowPacket
  rw [hnow, hlast]
  exact ⟨h.tsDelta_eq, h.msgLength_eq, h.msgTypeId_eq, h.msgStreamId_eq,
    h.timeStamp_eq⟩

/-- The header of a first chunk, completed by the inherited context, gives the
packet in progress every field of the message. -/
theorem openChunk_start {s : Sender} {st : RtmpProtocol σ} {id : Nat}
    {form : IdForm} {fmt : Fin 4} {m : Message} (hsim : Simulates s st)
    (hallow : s.Allows (.start id form fmt m)) (b : UInt8) (rest : Bytes) :
    Carries id ((s.lane id).begin fmt m)
      (openChunk env st id (kHeaderLength fmt.val)
        (b :: (m.header fmt ++ rest))).2 := by
  rcases hallow with ⟨_, hidle, hm, hprev⟩
  have hslot := hsim.slots id
  have hnow := hslot.now_none hidle
  rcases nowPacket_idle env id hnow with ⟨hbuf, habs, _⟩
  have hvalue : m.stamp.value < 2 ^ 32 := by
    have h1 := hm.field_lt
    have h2 := hm.extended_lt
    unfold Stamp.value
    split <;> omega
  simp only [openChunk, applyHeader_header hm]
  by_cases hfmt : fmt = 0
  · subst hfmt
    constructor <;> try rfl
    · exact Nat.mod_eq_of_lt hvalue
    · show (nowPacket env id (st.chunkedDataMap id)).buf.Valid
      rw [hbuf]
      exact FlatBuffer.create_valid _
    · show (nowPacket env id (st.chunkedDataMap id)).buf.unread = _
      rw [hbuf]
      exact FlatBuffer.create_unread _
  · rcases hprev hfmt with ⟨prev, timestamp, hprevious, hinherits⟩
    rcases hslot.last_eq prev timestamp hprevious with ⟨last, hlast, hcontext⟩
    have hctx := nowPacket_context env id hnow hlast hcontext
    have hstamp : (m.stamp.value + if (nowPacket env id
        (st.chunkedDataMap id)).isAbsStamp then 0 else (nowPacket env id
          (st.chunkedDataMap id)).timeStamp) % 2 ^ 32 =
            ((s.lane id).begin fmt m).timestamp := by
      rw [habs, hctx.timeStamp_eq, Nat.add_comm]
      unfold Lane.begin
      rw [hprevious]
      rcases fmt_cases fmt with h | h | h | h
      · exact absurd h hfmt
      · rw [h]
        rfl
      · rw [h]
        rfl
      · rw [h]
        rfl
    have hvalid : (nowPacket env id (st.chunkedDataMap id)).buf.Valid := by
      rw [hbuf]
      exact FlatBuffer.create_valid _
    have hunread : (nowPacket env id (st.chunkedDataMap id)).buf.unread =
        m.payload.take 0 := by
      rw [hbuf]
      exact FlatBuffer.create_unread _
    rcases fmt_cases fmt with h | h | h | h
    · exact absurd h hfmt
    · subst h
      exact ⟨rfl, rfl, rfl, rfl,
        hctx.msgStreamId_eq.trans (hinherits.streamId_eq (by decide)).symm,
        hstamp, hvalid, hunread⟩
    · subst h
      exact ⟨rfl, rfl,
        hctx.msgLength_eq.trans (hinherits.length_eq (by decide)).symm,
        hctx.msgTypeId_eq.trans (hinherits.typeId_eq (by decide)).symm,
        hctx.msgStreamId_eq.trans (hinherits.streamId_eq (by decide)).symm,
        hstamp, hvalid, hunread⟩
    · subst h
      exact ⟨rfl, hctx.tsDelta_eq.trans (hinherits.field_eq (by decide)).symm,
        hctx.msgLength_eq.trans (hinherits.length_eq (by decide)).symm,
        hctx.msgTypeId_eq.trans (hinherits.typeId_eq (by decide)).symm,
        hctx.msgStreamId_eq.trans (hinherits.streamId_eq (by decide)).symm,
        hstamp, hvalid, hunread⟩

/-- A continuation chunk finds the packet in progress as it was left. -/
theorem openChunk_next {s : Sender} {st : RtmpProtocol σ} {id : Nat}
    {p : Progress} (hsim : Simulates s st)
    (hcurrent : (s.lane id).current = some p) (b : UInt8) (rest : Bytes) :
    Carries id p (openChunk env st id 1 (b :: rest)).2 := by
  rcases (hsim.slots id).now_some p hcurrent with ⟨pkt, hnow, hcarries⟩
  have hpkt : nowPacket env id (st.chunkedDataMap id) = pkt := by
    unfold nowPacket
    rw [hnow]
  simp only [openChunk, applyHeader, hpkt]
  exact ⟨rfl, hcarries.tsDelta_eq, hcarries.msgLength_eq,
    hcarries.msgTypeId_eq, hcarries.msgStreamId_eq, hcarries.timestamp_eq,
    hcarries.buf_valid, hcarries.buf_unread⟩

/-!
## The body of a chunk
-/

/-- The size of the next chunk's payload. -/
theorem remainMsgLen_carries {id : Nat} {p : Progress} {pkt : RtmpPacket}
    (h : Carries id p pkt) (hm : p.message.WellFormed)
    (hp : p.sent <= p.message.payload.length) :
    remainMsgLen pkt = p.message.payload.length - p.sent := by
  have hlt := hm.length_lt
  unfold remainMsgLen
  rw [h.unreadLength_eq hp, h.msgLength_eq]
  omega

theorem extendedTimestamp_extension {m : Message} (hm : m.WellFormed)
    (front rest : Bytes) :
    extendedTimestamp m.stamp.field (front ++ (m.stamp.extension ++ rest))
        front.length =
      some (m.stamp.value, front.length + m.stamp.extension.length) := by
  unfold extendedTimestamp Stamp.extension Stamp.value
  by_cases hfull : m.stamp.field = 0xFFFFFF
  · simp only [if_pos hfull]
    rw [if_neg (by simp), List.drop_left, loadBe32_setBe32 _ hm.extended_lt]
    rfl
  · simp only [if_neg hfull]
    rfl

theorem readBody_carries {s : Sender} {id : Nat} {p : Progress}
    {pkt : RtmpPacket} (st : RtmpProtocol σ) (hsize : st.chunkSizeIn = s.chunkSize)
    (h : Carries id p pkt) (hm : p.message.WellFormed)
    (hp : p.sent <= p.message.payload.length) (front rest : Bytes) :
    readBody env st id pkt front.length
        (front ++ (p.message.stamp.extension ++ (s.piece p ++ rest))) =
      takeChunk env st id pkt p.message.stamp.value
        (front.length + p.message.stamp.extension.length) (s.piece p) := by
  have hdrop : (front ++ (p.message.stamp.extension ++ (s.piece p ++ rest))).drop
      (front.length + p.message.stamp.extension.length) = s.piece p ++ rest := by
    rw [← List.append_assoc, ← List.length_append, List.drop_left]
  have hmore : min st.chunkSizeIn (remainMsgLen pkt) = (s.piece p).length := by
    rw [remainMsgLen_carries h hm hp, hsize]
    simp only [Sender.piece, List.length_take, List.length_drop]
  simp only [readBody, h.tsDelta_eq, extendedTimestamp_extension hm, hmore]
  rw [if_neg (by simp only [List.length_append]; omega), hdrop, List.take_left]

/-- Storing the payload of a chunk counts its bytes as sent. -/
theorem storePayload_carries {s : Sender} {id : Nat} {p : Progress}
    {pkt : RtmpPacket} (h : Carries id p pkt) (headerEnd : Nat) :
    Carries id { p with sent := p.sent + (s.piece p).length }
      (storePayload pkt headerEnd (s.piece p)) := by
  have hfields : (storePayload pkt headerEnd (s.piece p)).toHeaderFields =
      pkt.toHeaderFields := by
    unfold storePayload RtmpPacket.setPktHeaderLength RtmpPacket.size
    split <;> split <;> rfl
  have habs : (storePayload pkt headerEnd (s.piece p)).isAbsStamp =
      pkt.isAbsStamp := by
    unfold storePayload RtmpPacket.setPktHeaderLength RtmpPacket.size
    split <;> split <;> rfl
  have hbuf : (storePayload pkt headerEnd (s.piece p)).buf =
      if s.piece p ≠ [] then pkt.buf.write (s.piece p) else pkt.buf := by
    unfold storePayload RtmpPacket.setPktHeaderLength RtmpPacket.size
    split <;> split <;> rfl
  have htake : p.message.payload.take (p.sent + (s.piece p).length) =
      p.message.payload.take p.sent ++ s.piece p := by
    have hpiece : s.piece p =
        (p.message.payload.drop p.sent).take (s.piece p).length := by
      unfold Sender.piece
      rw [List.length_take, List.take_eq_take_iff]
      omega
    rw [List.take_add, ← hpiece]
  constructor
  · rw [hfields]
    exact h.chunkStreamId_eq
  · rw [hfields]
    exact h.tsDelta_eq
  · rw [hfields]
    exact h.msgLength_eq
  · rw [hfields]
    exact h.msgTypeId_eq
  · rw [hfields]
    exact h.msgStreamId_eq
  · rw [hfields, habs]
    exact h.timestamp_eq
  · rw [hbuf]
    split
    · exact FlatBuffer.write_valid h.buf_valid _
    · exact h.buf_valid
  · rw [hbuf, htake, ← h.buf_unread]
    split
    · exact FlatBuffer.write_unread h.buf_valid _
    · rename_i hempty
      rw [not_not.mp hempty, List.append_nil]

/-!
## One chunk
-/

/-- One chunk stream changes on both sides. -/
theorem matches_setSlot {s : Sender} {st : RtmpProtocol σ} {id : Nat}
    {lane : Lane} {slots : Nat -> Slot} (slot : Slot)
    (hsim : Simulates s st) (hslot : Matches id lane slot)
    (hslots : slots = Function.update st.chunkedDataMap id slot) (other : Nat) :
    Matches other ((s.setLane id lane).lane other) (slots other) := by
  rw [Sender.setLane_lane, hslots, Function.update_apply]
  by_cases hid : other = id
  · subst hid
    rw [if_pos rfl, if_pos rfl]
    exact hslot
  · rw [if_neg hid, if_neg hid]
    exact hsim.slots other

/-- A complete packet matches the sender's complete message. -/
theorem stampPacket_complete {id : Nat} {p : Progress} {pkt : RtmpPacket}
    (h : Carries id p pkt) (hp : p.sent = p.message.payload.length) :
    (stampPacket pkt p.message.stamp.value).delivered =
        p.message.delivered id p.timestamp ∧
      Context p.message p.timestamp (stampPacket pkt p.message.stamp.value) := by
  have hunread : pkt.buf.unread = p.message.payload := by
    rw [h.buf_unread, hp, List.take_length]
  constructor
  · simp only [RtmpPacket.delivered, stampPacket, Message.delivered,
      h.chunkStreamId_eq, h.msgTypeId_eq, h.msgStreamId_eq, h.msgLength_eq,
      h.timestamp_eq, hunread]
  · exact ⟨h.tsDelta_eq, h.msgLength_eq, h.msgTypeId_eq, h.msgStreamId_eq,
      h.timestamp_eq⟩

/-- Reading a chunk does what the sender did, unless a handler throws: then
the message handed to it is still the right one. -/
def Follows (next : Sender × List Delivered) (consumed : Nat)
    (a : Attempt (RtmpProtocol σ) RtmpPacket) : Prop :=
  (exists st' pkts, a = .failed st' pkts ∧
    pkts.map RtmpPacket.delivered <+: next.2) ∨
  exists st' pkts, a = .done st' pkts consumed ∧
    pkts.map RtmpPacket.delivered = next.2 ∧ Simulates next.1 st'

/-- A handler is given the complete message and keeps the simulation. -/
theorem deliver_follows {s : Sender} {st : RtmpProtocol σ} {id consumed : Nat}
    {p : Progress} {pkt : RtmpPacket} (hsim : Simulates s st)
    (hpkt : pkt.delivered = p.message.delivered id p.timestamp)
    (hm : p.message.WellFormed) (hne : p.message.payload ≠ []) :
    Follows
      ({ s with
          chunkSize :=
            if p.message.typeId = 1 then p.message.chunkSize
            else s.chunkSize },
        [p.message.delivered id p.timestamp])
      consumed (deliver env st pkt consumed) := by
  unfold deliver
  cases hhandle : handleChunk env st pkt with
  | threw what st' =>
      exact Or.inl ⟨st', [pkt], rfl, by simp [hpkt]⟩
  | crashed =>
      exact Or.inl ⟨st, [pkt], rfl, by simp [hpkt]⟩
  | done st' =>
      rcases handleChunk_frame hhandle with ⟨side, app, hst⟩
      have hmap : st'.chunkedDataMap = st.chunkedDataMap := by
        rw [hst]
      have hsize : st'.chunkSizeIn =
          if pkt.msgTypeId = msgSetChunk then loadBe32 pkt.buf.data
          else st.chunkSizeIn := by
        rw [hst]
      refine Or.inr ⟨st', [pkt], rfl, by simp [hpkt], ?_⟩
      simp only [RtmpPacket.delivered, Message.delivered,
        Delivered.mk.injEq] at hpkt
      constructor
      · rw [hsize, hpkt.2.1]
        by_cases htype : p.message.typeId = 1
        · have hlen := (hm.chunkSize_range htype hne).1
          rw [if_pos htype, if_pos (show _ = msgSetChunk from htype),
            FlatBuffer.loadBe32_data (by rw [hpkt.2.2.2.2.2]; exact hlen),
            hpkt.2.2.2.2.2]
          rfl
        · rw [if_neg htype, if_neg (show _ ≠ msgSetChunk from htype)]
          exact hsim.chunkSize_eq
      · rw [hmap]
        exact hsim.slots

theorem finishChunk_follows {s : Sender} {st₀ st : RtmpProtocol σ}
    {id consumed : Nat} {p : Progress} {pkt : RtmpPacket}
    (hsim : Simulates s st₀) (hsize : st.chunkSizeIn = st₀.chunkSizeIn)
    (hslots : st.chunkedDataMap = Function.update st₀.chunkedDataMap id
      { st₀.chunkedDataMap id with now := some pkt })
    (hm : p.message.WellFormed) (hp : p.sent <= p.message.payload.length)
    (h : Carries id { p with sent := p.sent + (s.piece p).length } pkt) :
    Follows (s.advance id p) consumed
      (finishChunk env st id pkt p.message.stamp.value consumed) := by
  have hle := s.piece_length_le hp
  have hunread := h.unreadLength_eq hle
  simp only [finishChunk, Sender.advance]
  rw [hunread, h.msgLength_eq]
  by_cases hdone : p.sent + (s.piece p).length = p.message.payload.length
  · rw [if_pos hdone.symm, if_pos hdone]
    rcases stampPacket_complete h hdone with ⟨hdelivered, hcontext⟩
    have hkeep : Simulates
        (s.setLane id
          { previous := some (p.message, p.timestamp), current := none })
        (keepContext st id (stampPacket pkt p.message.stamp.value)) := by
      constructor
      · exact hsize.trans hsim.chunkSize_eq
      · apply matches_setSlot
          ⟨none, some (stampPacket pkt p.message.stamp.value)⟩ hsim
        · constructor
          · intro m timestamp hprevious
            cases hprevious
            exact ⟨_, rfl, hcontext⟩
          · intro _
            rfl
          · intro q hq
            cases hq
        · simp only [keepContext, RtmpProtocol.setSlot, hslots,
            Function.update_idem]
    have hlength : (stampPacket pkt p.message.stamp.value).msgLength =
        p.message.payload.length := h.msgLength_eq
    rw [hlength]
    by_cases hempty : p.message.payload = []
    · have hzero : ¬ p.message.payload.length ≠ 0 := by simp [hempty]
      rw [if_neg hzero, if_pos hempty]
      exact Or.inr ⟨_, [], rfl, rfl, hkeep⟩
    · have hpos : p.message.payload.length ≠ 0 := by simpa using hempty
      rw [if_pos hpos, if_neg hempty]
      exact deliver_follows env hkeep hdelivered hm hempty
  · rw [if_neg (Ne.symm hdone), if_neg hdone]
    refine Or.inr ⟨st, [], rfl, rfl, ?_⟩
    constructor
    · exact hsize.trans hsim.chunkSize_eq
    · apply matches_setSlot
        { st₀.chunkedDataMap id with now := some pkt } hsim
      · constructor
        · exact (hsim.slots id).last_eq
        · intro hcurrent
          cases hcurrent
        · intro q hq
          cases hq
          exact ⟨pkt, rfl, h⟩
      · exact hslots

theorem takeChunk_follows {s : Sender} {st₀ st : RtmpProtocol σ}
    {id headerEnd consumed : Nat} {p : Progress} {pkt : RtmpPacket}
    (hsim : Simulates s st₀) (hsize : st.chunkSizeIn = st₀.chunkSizeIn)
    (hslots : st.chunkedDataMap = Function.update st₀.chunkedDataMap id
      { st₀.chunkedDataMap id with now := some pkt })
    (hm : p.message.WellFormed) (hp : p.sent <= p.message.payload.length)
    (h : Carries id p pkt)
    (hconsumed : headerEnd + (s.piece p).length = consumed) :
    Follows (s.advance id p) consumed
      (takeChunk env st id pkt p.message.stamp.value headerEnd (s.piece p)) := by
  have hstored := storePayload_carries (s := s) h headerEnd
  simp only [takeChunk]
  split
  · rename_i st' hack
    rcases acknowledgeReceived_frame hack with ⟨side, last, hacked⟩
    rw [hconsumed]
    apply finishChunk_follows env hsim _ _ hm hp hstored
    · rw [hacked]
      exact hsize
    · rw [hacked]
      simp only [recordChunk, RtmpProtocol.setSlot, hslots,
        Function.update_idem, Function.update_self]
  · exact Or.inl ⟨_, [], rfl, List.nil_prefix⟩
  · exact Or.inl ⟨_, [], rfl, List.nil_prefix⟩

/-- Behind any complete header that opens the message, the chunk's body takes
both sides one step further. -/
theorem splitOnce_follows {s : Sender} {st : RtmpProtocol σ} {id : Nat}
    {p : Progress} (form : IdForm) (fmt : Fin 4) (header : Bytes)
    (hsim : Simulates s st) (hid : form.Fits id)
    (hheader : header.length + 1 = kHeaderLength fmt.val)
    (hm : p.message.WellFormed) (hp : p.sent <= p.message.payload.length)
    (hopen : forall b rest, Carries id p
      (openChunk env st id (kHeaderLength fmt.val)
        (b :: (header ++ rest))).2) (rest : Bytes) :
    Follows (s.advance id p)
      (form.basicHeader fmt id ++ (header ++
        (p.message.stamp.extension ++ s.piece p))).length
      (splitOnce env st (form.basicHeader fmt id ++ (header ++
        (p.message.stamp.extension ++ (s.piece p ++ rest))))) := by
  have hfmt := basicHeader_fmt form fmt hid (header ++
    (p.message.stamp.extension ++ (s.piece p ++ rest)))
  have hlength := basicHeader_length form fmt id
  rcases basicHeader_drop form fmt id (header ++
    (p.message.stamp.extension ++ (s.piece p ++ rest))) with ⟨b, hb⟩
  rw [splitOnce_complete env (basicHeader_complete form fmt hid _)
    (by rw [hfmt]; simp only [List.length_append]; omega), hfmt, hb]
  have hcarries := hopen b (p.message.stamp.extension ++ (s.piece p ++ rest))
  have hfront : kHeaderLength fmt.val + form.extra =
      (form.basicHeader fmt id ++ header).length := by
    rw [List.length_append]
    omega
  have hbody := readBody_carries env
    (openChunk env st id (kHeaderLength fmt.val) (b :: (header ++
      (p.message.stamp.extension ++ (s.piece p ++ rest))))).1
    hsim.chunkSize_eq hcarries hm hp (form.basicHeader fmt id ++ header) rest
  rw [List.append_assoc] at hbody
  rw [hfront, hbody]
  apply takeChunk_follows env hsim _ _ hm hp hcarries
  · simp only [List.length_append]
    omega
  · rfl
  · rfl

/-- One chunk of a correct sender. -/
theorem splitOnce_bytes {s : Sender} {st : RtmpProtocol σ} {c : Chunk}
    (hsound : s.Sound) (hsim : Simulates s st) (hc : s.Allows c)
    (rest : Bytes) :
    Follows (s.step c) (s.bytes c).length
      (splitOnce env st (s.bytes c ++ rest)) := by
  cases c with
  | start id form fmt m =>
      have hopen := openChunk_start env hsim hc
      rcases hc with ⟨hid, _, hm, _⟩
      have hfollows := splitOnce_follows env form fmt (m.header fmt) hsim hid
        (header_length m fmt) hm (Nat.zero_le _) hopen rest
      simpa [Sender.bytes, Sender.step, List.append_assoc, Lane.begin]
        using hfollows
  | next id form =>
      rcases hc with ⟨hid, p, hp⟩
      rcases hsound id p hp with ⟨hm, hlt⟩
      have hfollows := splitOnce_follows env form 3 [] hsim hid rfl hm
        (Nat.le_of_lt hlt) (fun b rest => openChunk_next env hsim hp b rest) rest
      simpa [Sender.bytes, Sender.step, hp, List.append_assoc] using hfollows

/-!
## A whole stream
-/

theorem bytes_ne_nil {s : Sender} {c : Chunk} (hc : s.Allows c) :
    s.bytes c ≠ [] := by
  intro hnil
  cases c with
  | start id form fmt m =>
      have hlength := basicHeader_length form fmt id
      simp only [Sender.bytes, List.append_eq_nil_iff] at hnil
      simp [hnil.1] at hlength
  | next id form =>
      rcases hc with ⟨_, p, hp⟩
      have hlength := basicHeader_length form 3 id
      simp only [Sender.bytes, hp, List.append_eq_nil_iff] at hnil
      simp [hnil.1] at hlength

/-- Up to the first handler that throws, the packets handed over are the
completed messages. -/
theorem splitRtmp_wire {s : Sender} {st : RtmpProtocol σ} {cs : List Chunk}
    (hsound : s.Sound) (hsim : Simulates s st) (hcs : s.WellFormed cs) :
    (exists st' pkts, splitRtmp env st (s.wire cs) = .failed st' pkts ∧
      pkts.map RtmpPacket.delivered <+: s.completed cs) ∨
    exists st' pkts, splitRtmp env st (s.wire cs) = .waiting st' pkts [] ∧
      pkts.map RtmpPacket.delivered = s.completed cs ∧
        Simulates (s.after cs) st' := by
  induction cs generalizing s st with
  | nil => exact Or.inr ⟨st, [], rfl, rfl, hsim⟩
  | cons c cs ih =>
      rcases hcs with ⟨hc, hrest⟩
      have hne : s.bytes c ++ (s.step c).1.wire cs ≠ [] := by
        simp [bytes_ne_nil hc]
      have hsound' := Sender.step_sound hsound hc
      simp only [Sender.wire, Sender.completed, Sender.after]
      rcases splitOnce_bytes env hsound hsim hc ((s.step c).1.wire cs) with
        ⟨st', pkts, hattempt, hpkts⟩ | ⟨st', pkts, hattempt, hpkts, hsim'⟩
      · have hfailed : splitRtmp env st (s.bytes c ++ (s.step c).1.wire cs) =
            .failed st' pkts := (chunkParser env).drain_failed hne hattempt
        exact Or.inl ⟨st', pkts, hfailed,
          hpkts.trans (List.prefix_append _ _)⟩
      · have hdone : splitRtmp env st (s.bytes c ++ (s.step c).1.wire cs) =
            (splitRtmp env st' ((s.step c).1.wire cs)).emit pkts := by
          have hdrain := (chunkParser env).drain_done hne hattempt
          rw [List.drop_left] at hdrain
          exact hdrain
        rw [hdone]
        rcases ih hsound' hsim' hrest with
          ⟨u, later, htail, hlater⟩ | ⟨u, later, htail, hlater, hsim''⟩
        · rw [htail]
          refine Or.inl ⟨u, pkts ++ later, rfl, ?_⟩
          rw [List.map_append, hpkts]
          exact (List.prefix_append_right_inj _).mpr hlater
        · rw [htail]
          refine Or.inr ⟨u, pkts ++ later, rfl, ?_, hsim''⟩
          rw [List.map_append, hpkts, hlater]

/-- Given these messages in this order, `handle_chunk` returns from each. -/
def ReturnsFrom (p : SendSide × σ) (items : List Delivered) : Prop :=
  forall pkts : List RtmpPacket, (forall pkt, pkt ∈ pkts -> Readable pkt) ->
    pkts.map RtmpPacket.delivered <+: items ->
      exists q, handleAll env p pkts = .done q

end Simulation

/-!
## Handlers that accept everything
-/

/-- Control messages that are long enough for a reader. -/
def ControlsWhole (items : List Delivered) : Prop :=
  forall item, item ∈ items ->
    item.typeId = msgSetChunk ∨ item.typeId = msgAck -> 4 <= item.payload.length

instance (items : List Delivered) : Decidable (ControlsWhole items) :=
  inferInstanceAs (Decidable (forall item, item ∈ items -> _))

theorem accepting_keepWindow : Env.accepting.KeepWindow where
  onProcessCmd := by
    rintro p pkt p' ⟨⟩
    rfl
  onProcessMetadata := by
    rintro p pkt p' ⟨⟩
    rfl
  processAvPacket := by
    rintro p pkt p' ⟨⟩
    rfl

theorem accepting_handleChunk {st : RtmpProtocol Unit} {pkt : RtmpPacket}
    (h : pkt.msgTypeId = msgSetChunk ∨ pkt.msgTypeId = msgAck ->
      4 <= pkt.buf.unread.length) :
    exists st', handleChunk .accepting st pkt = .done st' := by
  have hlength : pkt.buf.unread.length <= pkt.buf.unreadLength := by
    unfold FlatBuffer.unread
    exact List.length_take_le _ _
  unfold handleChunk
  split
  · rename_i hset
    have hfour := h (Or.inl hset)
    rw [if_neg (by omega)]
    exact ⟨_, rfl⟩
  · split
    · rename_i hack
      have hfour := h (Or.inr hack)
      rw [if_neg (by omega)]
      exact ⟨_, rfl⟩
    · split
      · exact ⟨_, rfl⟩
      · split
        · exact ⟨_, rfl⟩
        · split
          · exact ⟨_, rfl⟩
          · exact ⟨_, rfl⟩

theorem accepting_handling (p : SendSide × Unit) {pkt : RtmpPacket}
    (h : pkt.msgTypeId = msgSetChunk ∨ pkt.msgTypeId = msgAck ->
      4 <= pkt.buf.unread.length) :
    exists q, handling .accepting p pkt = .done q := by
  unfold handling
  rcases accepting_handleChunk h with ⟨st', hdone⟩
  rw [hdone]
  exact ⟨_, rfl⟩

theorem accepting_returnsFrom (p : SendSide × Unit) {items : List Delivered}
    (h : ControlsWhole items) : ReturnsFrom .accepting p items := by
  intro pkts hreadable hpkts
  have hwhole : ControlsWhole (pkts.map RtmpPacket.delivered) :=
    fun item hitem => h item (hpkts.subset hitem)
  clear hreadable hpkts
  induction pkts generalizing p with
  | nil => exact ⟨p, rfl⟩
  | cons pkt pkts ih =>
      have hpkt : pkt.msgTypeId = msgSetChunk ∨ pkt.msgTypeId = msgAck ->
          4 <= pkt.buf.unread.length := hwhole _ List.mem_cons_self
      rcases accepting_handling p hpkt with ⟨q, hq⟩
      rw [handleAll_cons hq]
      exact ih q fun item hitem => hwhole item (List.mem_cons_of_mem _ hitem)

/-!
## The messages handed over
-/

section Handed

variable {σ : Type} (env : Env σ)

theorem buffersValid_initial {st : RtmpProtocol σ}
    (hmap : st.chunkedDataMap = fun _ => {}) : BuffersValid st := by
  intro id pkt hpkt
  rw [hmap] at hpkt
  cases hpkt

/--
If the handlers do not throw, a new parser reads every well-formed chunk stream
to its end and hands over the messages that it completes, one packet for each, in
the order of completion.  On each chunk stream these are the messages begun, but
for one still in progress.
-/
theorem splitRtmp_demultiplexes (hkeep : env.KeepWindow) {st : RtmpProtocol σ}
    {cs : List Chunk} (hcs : Sender.WellFormed {} cs)
    (hsize : st.chunkSizeIn = kDefaultChunkLength)
    (hmap : st.chunkedDataMap = fun _ => {})
    (hwindow : st.side.windowsSize = 0)
    (hreturn : ReturnsFrom env (st.side, st.app) (Sender.completed {} cs)) :
    exists st' pkts side,
      splitRtmp env st (Sender.wire {} cs) = .waiting st' pkts [] ∧
        handleAll env (st.side, st.app) pkts = .done (side, st'.app) ∧
          pkts.map RtmpPacket.delivered = Sender.completed {} cs ∧
            forall id, Sender.begun {} id cs =
              Sender.onStream id (pkts.map RtmpPacket.delivered) ++
                (Sender.after {} cs).pending id := by
  have hhandles := splitRtmp_handles hkeep hwindow (buffersValid_initial hmap)
    (Sender.wire {} cs)
  rcases splitRtmp_wire env Sender.initial_sound
      (simulates_initial hsize hmap) hcs with
    ⟨st', pkts, hfailed, hpkts⟩ | ⟨st', pkts, hwaiting, hpkts, _⟩
  · rw [hfailed] at hhandles
    rcases hreturn pkts hhandles.1 hpkts with ⟨r, hall⟩
    exact absurd hall hhandles.not_handled
  · rw [hwaiting] at hhandles
    rcases hhandles with ⟨q, hall, hq⟩
    refine ⟨st', pkts, q.1, hwaiting, ?_, hpkts, ?_⟩
    · rw [hq.app]
      exact hall
    · intro id
      rw [hpkts]
      exact Sender.completed_conserves Sender.initial_sound hcs id

end Handed

theorem splitRtmp_demultiplexes_two :
    exists st' pkts side,
      splitRtmp .accepting { app := () } (Sender.wire {} twoVideoMessages) =
          .waiting st' pkts [] ∧
        handleAll .accepting ({}, ()) pkts = .done (side, st'.app) ∧
          pkts.map RtmpPacket.delivered = Sender.completed {} twoVideoMessages ∧
            forall id, Sender.begun {} id twoVideoMessages =
              Sender.onStream id (pkts.map RtmpPacket.delivered) ++
                (Sender.after {} twoVideoMessages).pending id := by
  have hwhole : ControlsWhole (Sender.completed {} twoVideoMessages) := by
    decide +kernel
  apply splitRtmp_demultiplexes .accepting accepting_keepWindow _ rfl rfl rfl
    (accepting_returnsFrom _ hwhole)
  refine ⟨⟨by decide, rfl, ?_, by simp⟩, ⟨by decide, rfl, ?_, ?_⟩, trivial⟩
  · constructor <;> decide
  · constructor <;> decide
  · intro _
    exact ⟨_, _, rfl, by constructor <;> exact fun _ => rfl⟩

end Rtmp
end Streaming
