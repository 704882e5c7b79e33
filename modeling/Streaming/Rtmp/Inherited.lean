import Streaming.Foundation.Agreement
import Streaming.Rtmp.Completion
import Streaming.Rtmp.Writing

/-!
# What headers supply

A header with `fmt` 0 supplies all header fields of a packet, one with `fmt` 1
all but the message stream id and what a timestamp delta is added to, and the
others take the rest from the packet before, if there was one.  Two parsers that
started from different fields come to the same where everything was supplied.
-/

namespace Streaming
namespace Rtmp

open Foundation Network Util

/-!
## What the headers have supplied
-/

/-- What is known of the packets on a chunk stream from the bytes alone. -/
inductive Known where
  | nothing
  /-- `msg_length`, `msg_type_id` and `ts_delta`. -/
  | length
  | all
  deriving DecidableEq

/-- What is known with one more header of this length. -/
def Known.learn (headerLength : Nat) (k : Known) : Known :=
  match headerLength with
  | 12 => .all
  | 8 => if k = .all then .all else .length
  | _ => k

/-- The length of the header at the front of the data, without extensions. -/
def headerLengthOf (data : Bytes) : Nat :=
  kHeaderLength (byteAt data 0 >>> 6)

/-- What is known of a chunk stream behind the looks that have come before. -/
def knownOf {σ : Type} (id : Nat) : List (RtmpProtocol σ × Bytes) -> Known
  | [] => .nothing
  | (_, data) :: before =>
      if chunkStreamOf data = id then
        (knownOf id before).learn (headerLengthOf data)
      else
        knownOf id before

/-- The same packet, as far as it is known.  The second one has the stream id
that it was created with as long as no other is known. -/
def PacketAlike (fields : HeaderFields) :
    Known -> RtmpPacket -> RtmpPacket -> Prop
  | .nothing, p, p' =>
      p'.chunkStreamId = p.chunkStreamId ∧ p'.isAbsStamp = p.isAbsStamp ∧
        p'.buf = p.buf ∧ p'.pktHeaderLength = p.pktHeaderLength ∧
        p'.msgStreamId = fields.msgStreamId
  | .length, p, p' =>
      p' = { p with
        msgStreamId := fields.msgStreamId
        timeStamp := p'.timeStamp }
  | .all, p, p' =>
      p' = { p with timeStamp := p'.timeStamp } ∧
        (p.isAbsStamp = true ∨ p'.timeStamp = p.timeStamp)

theorem PacketAlike.buffered {fields : HeaderFields} {k : Known}
    {p p' : RtmpPacket} (h : PacketAlike fields k p p') :
    p'.chunkStreamId = p.chunkStreamId ∧ p'.isAbsStamp = p.isAbsStamp ∧
      p'.buf = p.buf ∧ p'.pktHeaderLength = p.pktHeaderLength := by
  cases k with
  | nothing => exact ⟨h.1, h.2.1, h.2.2.1, h.2.2.2.1⟩
  | length =>
      unfold PacketAlike at h
      rw [h]
      exact ⟨rfl, rfl, rfl, rfl⟩
  | all =>
      rw [h.1]
      exact ⟨rfl, rfl, rfl, rfl⟩

/-- Where the length is known, so is all that decides how much is read. -/
theorem PacketAlike.sized {fields : HeaderFields} {k : Known}
    {p p' : RtmpPacket} (h : PacketAlike fields k p p') (hk : k ≠ .nothing) :
    p'.msgLength = p.msgLength ∧ p'.tsDelta = p.tsDelta := by
  cases k with
  | nothing => exact absurd rfl hk
  | length =>
      unfold PacketAlike at h
      rw [h]
      exact ⟨rfl, rfl⟩
  | all =>
      rw [h.1]
      exact ⟨rfl, rfl⟩

theorem PacketAlike.applyHeader {fields : HeaderFields} {k : Known}
    {p p' : RtmpPacket} (h : PacketAlike fields k p p') {l : Nat}
    (hl : l = 12 ∨ l = 8 ∨ l = 4 ∨ l = 1) (header : Bytes) :
    PacketAlike fields (k.learn l) (applyHeader l header p)
      (applyHeader l header p') := by
  rcases p with ⟨⟨id, stream, length, type, delta, stamp⟩, isAbs, buf, size⟩
  rcases p' with
    ⟨⟨id', stream', length', type', delta', stamp'⟩, isAbs', buf', size'⟩
  rcases h.buffered with ⟨hid, habs, hbuf, hsize⟩
  dsimp only at hid habs hbuf hsize
  subst hid habs hbuf hsize
  rcases hl with rfl | rfl | rfl | rfl
  · exact ⟨rfl, Or.inl rfl⟩
  · cases k with
    | nothing =>
        have hstream : stream' = fields.msgStreamId := h.2.2.2.2
        subst hstream
        exact rfl
    | length =>
        cases h
        exact rfl
    | all =>
        rcases h with ⟨hsame, hstamp⟩
        cases hsame
        exact ⟨rfl, hstamp⟩
  · cases k with
    | nothing => exact h
    | length =>
        cases h
        exact rfl
    | all =>
        rcases h with ⟨hsame, hstamp⟩
        cases hsame
        exact ⟨rfl, hstamp⟩
  · exact h

theorem PacketAlike.buffer {fields : HeaderFields} {k : Known}
    {p p' : RtmpPacket} (h : PacketAlike fields k p p') (buf : FlatBuffer)
    (size : Nat) :
    PacketAlike fields k { p with buf := buf, pktHeaderLength := size }
      { p' with buf := buf, pktHeaderLength := size } := by
  cases k with
  | nothing => exact ⟨h.1, h.2.1, rfl, rfl, h.2.2.2.2⟩
  | length =>
      unfold PacketAlike at h ⊢
      rw [h]
  | all =>
      refine ⟨?_, h.2⟩
      rw [h.1]

theorem storePayload_eq (pkt : RtmpPacket) (headerEnd : Nat) (payload : Bytes) :
    storePayload pkt headerEnd payload =
      { pkt with
        buf := if payload ≠ [] then pkt.buf.write payload else pkt.buf
        pktHeaderLength := pkt.pktHeaderLength + headerEnd +
          (if payload ≠ [] then pkt.buf.write payload
            else pkt.buf).unreadLength } := by
  rw [← storePayload_buf pkt headerEnd payload, ← storePayload_pktHeaderLength]
  unfold storePayload RtmpPacket.setPktHeaderLength RtmpPacket.size
  split <;> split <;> rfl

theorem PacketAlike.storePayload {fields : HeaderFields} {k : Known}
    {p p' : RtmpPacket} (h : PacketAlike fields k p p') (headerEnd : Nat)
    (payload : Bytes) :
    PacketAlike fields k (storePayload p headerEnd payload)
      (storePayload p' headerEnd payload) := by
  rcases h.buffered with ⟨_, _, hbuf, hsize⟩
  rw [storePayload_eq, storePayload_eq, hbuf, hsize]
  exact h.buffer _ _

theorem PacketAlike.stamped {fields : HeaderFields} {p p' : RtmpPacket}
    (h : PacketAlike fields .all p p') (timeStamp : Nat) :
    stampPacket p' timeStamp = stampPacket p timeStamp := by
  rcases h with ⟨hsame, habs | hstamp⟩
  · rw [hsame]
    unfold stampPacket
    rw [habs]
    rfl
  · rw [hsame, hstamp]

theorem PacketAlike.stampPacket {fields : HeaderFields} {k : Known}
    {p p' : RtmpPacket} (h : PacketAlike fields k p p') (timeStamp : Nat) :
    PacketAlike fields k (stampPacket p timeStamp)
      (stampPacket p' timeStamp) := by
  cases k with
  | nothing => exact h
  | length =>
      unfold PacketAlike at h
      rw [h]
      exact rfl
  | all =>
      rw [h.stamped]
      exact ⟨rfl, Or.inr rfl⟩

/-- The packet that a header on the chunk stream is read into. -/
def ready {σ : Type} (env : Env σ) (id : Nat) (slot : Slot) : RtmpPacket :=
  { nowPacket env id slot with chunkStreamId := id }

/-- Two chunk streams on which the same headers have been read. -/
structure SlotAlike {σ : Type} (env env' : Env σ) (id : Nat) (k : Known)
    (slot slot' : Slot) : Prop where
  packet : PacketAlike (env'.fresh id) k (ready env id slot)
    (ready env' id slot')
  untouched : k = .nothing -> slot = {} ∧ slot' = {}

section Looks

variable {σ : Type} {env env' : Env σ}

theorem slotAlike_new (env env' : Env σ) (id : Nat) :
    SlotAlike env env' id .nothing {} {} where
  packet := ⟨rfl, rfl, rfl, rfl, rfl⟩
  untouched := fun _ => ⟨rfl, rfl⟩

/-- The next message on a chunk stream starts with what the last one had. -/
theorem slotAlike_kept {id : Nat} {p p' : RtmpPacket} {k : Known}
    (h : PacketAlike (env'.fresh id) k p p') (hk : k ≠ .nothing)
    (hall : k = .all -> p' = p) :
    SlotAlike env env' id k { now := none, last := some p }
      { now := none, last := some p' } where
  packet := by
    cases k with
    | nothing => exact absurd rfl hk
    | length =>
        unfold PacketAlike at h
        rw [h]
        exact rfl
    | all =>
        rw [hall rfl]
        exact ⟨rfl, Or.inr rfl⟩
  untouched := fun h => absurd h hk

theorem slotAlike_now {id : Nat} {p p' : RtmpPacket} {k : Known}
    (h : PacketAlike (env'.fresh id) k p p') (hk : k ≠ .nothing)
    (last last' : Option RtmpPacket) :
    SlotAlike env env' id k { now := some p, last := last }
      { now := some p', last := last' } where
  packet := by
    cases k with
    | nothing => exact absurd rfl hk
    | length =>
        unfold PacketAlike at h
        rw [h]
        exact rfl
    | all =>
        refine ⟨?_, h.2⟩
        show { p' with chunkStreamId := id } = _
        rw [h.1]
        rfl
  untouched := fun h => absurd h hk

/-!
## One look
-/

/-- Both calls return, with the same changes, or neither does. -/
def EndAlike (st st' : RtmpProtocol σ) (o o' : Exit (RtmpProtocol σ)) : Prop :=
  (exists side app size,
      o = .done { st with side := side, app := app, chunkSizeIn := size } ∧
        o' = .done { st' with side := side, app := app, chunkSizeIn := size }) ∨
    ((forall t, o ≠ .done t) ∧ forall t, o' ≠ .done t)

theorem EndAlike.ite {st st' : RtmpProtocol σ}
    {o o' p p' : Exit (RtmpProtocol σ)} {c : Prop} [Decidable c]
    (h : EndAlike st st' o o') (hnot : EndAlike st st' p p') :
    EndAlike st st' (if c then o else p) (if c then o' else p') := by
  by_cases hc : c
  · rw [if_pos hc, if_pos hc]
    exact h
  · rw [if_neg hc, if_neg hc]
    exact hnot

theorem threw_alike (st st' : RtmpProtocol σ) (what : String) :
    EndAlike st st' (.threw what st) (.threw what st') :=
  Or.inr ⟨nofun, nofun⟩

section SameForHandlers

variable {st st' : RtmpProtocol σ} (hside : st'.side = st.side)
  (happ : st'.app = st.app) (hsize : st'.chunkSizeIn = st.chunkSizeIn)

include hside happ

theorem setChunkSize_alike (size : Nat) :
    EndAlike st st' (.done { st with chunkSizeIn := size })
      (.done { st' with chunkSizeIn := size }) :=
  Or.inl ⟨st.side, st.app, size, rfl, by rw [← hside, ← happ]⟩

include hsize

theorem done_alike : EndAlike st st' (.done st) (.done st') :=
  Or.inl ⟨st.side, st.app, st.chunkSizeIn, rfl, by
    rw [← hside, ← happ, ← hsize]⟩

theorem handle_alike
    (handler : SendSide × σ -> RtmpPacket -> Exit (SendSide × σ))
    (pkt : RtmpPacket) :
    EndAlike st st' (st.handle handler pkt) (st'.handle handler pkt) := by
  unfold RtmpProtocol.handle
  rw [hside, happ]
  cases handler (st.side, st.app) pkt with
  | done p =>
      refine Or.inl ⟨p.1, p.2, st.chunkSizeIn, rfl, ?_⟩
      rw [← hsize]
      rfl
  | threw what p => exact Or.inr ⟨nofun, nofun⟩
  | crashed => exact Or.inr ⟨nofun, nofun⟩

/-- What a message does is the same where handlers see the same. -/
theorem handleChunk_alike (hhandlers : env'.toHandlers = env.toHandlers)
    (pkt : RtmpPacket) :
    EndAlike st st' (handleChunk env st pkt) (handleChunk env' st' pkt) := by
  have hhandle := handle_alike hside happ hsize
  have hdone := done_alike hside happ hsize
  have hpush : env.canPush st'.app = env.canPush st.app := by
    rw [happ]
  unfold handleChunk
  rw [hhandlers, hpush]
  apply EndAlike.ite
  · exact (threw_alike _ _ _).ite (setChunkSize_alike hside happ _)
  apply EndAlike.ite
  · exact (threw_alike _ _ _).ite hdone
  apply EndAlike.ite
  · exact hhandle _ _
  apply EndAlike.ite
  · exact hhandle _ _
  apply EndAlike.ite
  · exact (hhandle _ _).ite (threw_alike _ _ _)
  · exact hdone

end SameForHandlers

namespace WholeChunk

variable {st st' : RtmpProtocol σ} {data : Bytes}

theorem recorded_slot (c : WholeChunk env st data) (id : Nat) :
    c.recorded.chunkedDataMap id =
      if id = c.id then
        { now := some c.stored, last := (st.chunkedDataMap c.id).last }
      else st.chunkedDataMap id := by
  unfold recorded recordChunk RtmpProtocol.setSlot
  dsimp only
  by_cases hid : id = c.id
  · subst hid
    rw [Function.update_self, c.opened_self, if_pos rfl]
  · rw [Function.update_of_ne hid, c.opened_ne env st hid, if_neg hid]

/-- The same chunk, read with other packets of the same lengths. -/
def carry (c : WholeChunk env st data)
    (hdelta : (c.toChunkHeader.packet env' st').tsDelta =
      (c.packet env st).tsDelta)
    (hmore : min st'.chunkSizeIn
        (remainMsgLen (c.toChunkHeader.packet env' st')) =
      min st.chunkSizeIn (remainMsgLen (c.packet env st))) :
    WholeChunk env' st' data :=
  ⟨c.toChunkHeader, c.timeStamp, c.bodyStart, by
    rw [hdelta]
    exact c.extended, by
    rw [hmore]
    exact c.whole⟩

/-- The payload is the same as well. -/
theorem carry_stored {fields : HeaderFields} {k : Known}
    (c : WholeChunk env st data)
    (hdelta : (c.toChunkHeader.packet env' st').tsDelta =
      (c.packet env st).tsDelta)
    (hmore : min st'.chunkSizeIn
        (remainMsgLen (c.toChunkHeader.packet env' st')) =
      min st.chunkSizeIn (remainMsgLen (c.packet env st)))
    (h : PacketAlike fields k (c.packet env st)
      (c.toChunkHeader.packet env' st')) :
    PacketAlike fields k c.stored (c.carry hdelta hmore).stored := by
  have hmoreSame : (c.carry hdelta hmore).more = c.more := hmore
  have hpayload : (c.carry hdelta hmore).payload = c.payload := by
    unfold payload
    rw [hmoreSame]
    rfl
  unfold stored
  rw [hpayload]
  exact h.storePayload _ _

end WholeChunk

/-- Two runs behind the same looks. -/
structure Alike (env env' : Env σ) (before : List (RtmpProtocol σ × Bytes))
    (st st' : RtmpProtocol σ) : Prop where
  window : st.side.windowsSize = 0
  side : exists id, st'.side = { st.side with msgStreamId := id }
  app : st'.app = st.app
  chunkSizeIn : st'.chunkSizeIn = st.chunkSizeIn
  slots : forall id, SlotAlike env env' id (knownOf id before)
    (st.chunkedDataMap id) (st'.chunkedDataMap id)

theorem Alike.window' {before : List (RtmpProtocol σ × Bytes)}
    {st st' : RtmpProtocol σ} (h : Alike env env' before st st') :
    st'.side.windowsSize = 0 := by
  rcases h.side with ⟨streamId, hside⟩
  rw [hside]
  exact h.window

theorem ChunkHeader.packet_alike {st st' : RtmpProtocol σ} {data : Bytes}
    (h : ChunkHeader data) {k : Known}
    (hslot : SlotAlike env env' h.id k (st.chunkedDataMap h.id)
      (st'.chunkedDataMap h.id)) :
    PacketAlike (env'.fresh h.id) (k.learn h.length) (h.packet env st)
      (h.packet env' st') := by
  rw [h.packet_eq, h.packet_eq]
  exact hslot.packet.applyHeader h.length_cases _

theorem knownOf_self {data : Bytes} (h : ChunkHeader data)
    (st : RtmpProtocol σ) (before : List (RtmpProtocol σ × Bytes)) :
    knownOf h.id ((st, data) :: before) =
      (knownOf h.id before).learn h.length := by
  rw [knownOf, if_pos h.chunkStreamOf_eq]
  rfl

theorem knownOf_ne {data : Bytes} (h : ChunkHeader data)
    (st : RtmpProtocol σ) (before : List (RtmpProtocol σ × Bytes)) {id : Nat}
    (hid : id ≠ h.id) : knownOf id ((st, data) :: before) = knownOf id before := by
  rw [knownOf, if_neg]
  rw [h.chunkStreamOf_eq]
  exact Ne.symm hid

/-- A header is only read where a length is known, unless its own timestamp is
still to come, and only messages of which all is known are handed over. -/
structure Supplied (env : Env σ) (before : List (RtmpProtocol σ × Bytes))
    (st : RtmpProtocol σ) (data : Bytes) : Prop where
  header : forall h : ChunkHeader data,
    (knownOf h.id before).learn h.length = .nothing ->
      h.length = 4 ∧
        extendedTimestamp (loadBe24 (h.bytes.drop 1)) data h.size = none
  message : forall c : WholeChunk env st data, c.handed ≠ [] ->
    (knownOf c.id before).learn c.length = .all

/-- Only the chunk stream of the chunk has changed. -/
structure Moved {data : Bytes} (h : ChunkHeader data) (slot : Slot)
    (st t : RtmpProtocol σ) : Prop where
  self : t.chunkedDataMap h.id = slot
  other : forall id, id ≠ h.id -> t.chunkedDataMap id = st.chunkedDataMap id

theorem Alike.slots_moved {before : List (RtmpProtocol σ × Bytes)}
    {st st' t t' : RtmpProtocol σ} (halike : Alike env env' before st st')
    {data : Bytes} {h : ChunkHeader data} {slot slot' : Slot}
    (hmoved : Moved h slot st t) (hmoved' : Moved h slot' st' t')
    (hslot : SlotAlike env env' h.id ((knownOf h.id before).learn h.length)
      slot slot') (id : Nat) :
    SlotAlike env env' id (knownOf id ((st, data) :: before))
      (t.chunkedDataMap id) (t'.chunkedDataMap id) := by
  by_cases hid : id = h.id
  · subst hid
    rw [knownOf_self, hmoved.self, hmoved'.self]
    exact hslot
  · rw [knownOf_ne h st before hid, hmoved.other id hid, hmoved'.other id hid]
    exact halike.slots id

theorem WholeChunk.recorded_moved {st : RtmpProtocol σ} {data : Bytes}
    (c : WholeChunk env st data) : Moved c.toChunkHeader
      { now := some c.stored, last := (st.chunkedDataMap c.id).last } st
      c.recorded where
  self := by
    rw [c.recorded_slot, if_pos rfl]
  other := by
    intro id hid
    rw [c.recorded_slot, if_neg hid]

theorem WholeChunk.kept_moved {st : RtmpProtocol σ} {data : Bytes}
    (c : WholeChunk env st data) : Moved c.toChunkHeader
      { now := none, last := some c.finished } st
      (keepContext c.recorded c.id c.finished) where
  self := Function.update_self _ _ _
  other := by
    intro id hid
    exact (Function.update_of_ne hid _ _).trans (c.recorded_moved.other id hid)

/-- Keeping a packet as context changes nothing of the sending side but the
message stream id. -/
theorem Alike.kept_side {before : List (RtmpProtocol σ × Bytes)}
    {st st' : RtmpProtocol σ} {data : Bytes}
    (halike : Alike env env' before st st') (c : WholeChunk env st data)
    (c' : WholeChunk env' st' data) (pkt pkt' : RtmpPacket) :
    (keepContext c'.recorded c'.id pkt').side =
      { (keepContext c.recorded c.id pkt).side with
        msgStreamId := pkt'.msgStreamId } := by
  rcases halike.side with ⟨streamId, hside⟩
  have hkeep' : (keepContext c'.recorded c'.id pkt').side =
      { st'.side with msgStreamId := pkt'.msgStreamId } := rfl
  rw [hkeep', hside]
  rfl

/-- A message that is the same in both runs does the same in both. -/
theorem deliver_alike (hkeep : env.KeepWindow)
    (hhandlers : env'.toHandlers = env.toHandlers)
    {before : List (RtmpProtocol σ × Bytes)} {st st' : RtmpProtocol σ}
    {data : Bytes} (halike : Alike env env' before st st')
    (c : WholeChunk env st data) (c' : WholeChunk env' st' data)
    (hconsumed : c'.consumed = c.consumed)
    (hkept' : Moved c.toChunkHeader { now := none, last := some c.finished } st'
      (keepContext c'.recorded c'.id c.finished))
    (hfinished : PacketAlike (env'.fresh c.id)
      ((knownOf c.id before).learn c.length) c.finished c.finished)
    (hk : (knownOf c.id before).learn c.length ≠ .nothing) :
    Attempt.Agree (Alike env env' ((st, data) :: before))
      (deliver env (keepContext c.recorded c.id c.finished) c.finished c.consumed)
      (deliver env' (keepContext c'.recorded c'.id c.finished) c.finished
        c'.consumed) := by
  have hside : (keepContext c'.recorded c'.id c.finished).side =
      (keepContext c.recorded c.id c.finished).side :=
    halike.kept_side c c' c.finished c.finished
  rcases handleChunk_alike hside halike.app halike.chunkSizeIn hhandlers
      c.finished with
    ⟨side, app, size, hdone, hdone'⟩ | ⟨hnot, hnot'⟩
  · unfold deliver
    rw [hdone, hdone']
    refine ⟨rfl, hconsumed.symm, ?_⟩
    exact {
      window := (handleChunk_window hkeep hdone).trans halike.window
      side := ⟨side.msgStreamId, rfl⟩
      app := rfl
      chunkSizeIn := rfl
      slots := halike.slots_moved
        ⟨c.kept_moved.self, c.kept_moved.other⟩
        ⟨hkept'.self, hkept'.other⟩
        (slotAlike_kept hfinished hk fun _ => rfl) }
  · rcases deliver_of_not_done hnot with ⟨t, hfailed⟩
    rcases deliver_of_not_done hnot' with ⟨t', hfailed'⟩
    rw [hfailed, hfailed']
    exact rfl

/-- The whole chunk in the one run and in the other. -/
theorem whole_alike (hkeep : env.KeepWindow)
    (hhandlers : env'.toHandlers = env.toHandlers)
    {before : List (RtmpProtocol σ × Bytes)} {st st' : RtmpProtocol σ}
    {data : Bytes} (halike : Alike env env' before st st')
    (c : WholeChunk env st data) (c' : WholeChunk env' st' data)
    (hid : c'.toChunkHeader = c.toChunkHeader)
    (htime : c'.timeStamp = c.timeStamp) (hconsumed : c'.consumed = c.consumed)
    (hstored : PacketAlike (env'.fresh c.id)
      ((knownOf c.id before).learn c.length) c.stored c'.stored)
    (hk : (knownOf c.id before).learn c.length ≠ .nothing)
    (hall : c.handed ≠ [] -> (knownOf c.id before).learn c.length = .all) :
    Attempt.Agree (Alike env env' ((st, data) :: before))
      (splitOnce env st data) (splitOnce env' st' data) := by
  have hsame : c'.Completes <-> c.Completes := by
    unfold WholeChunk.Completes
    rw [(hstored.sized hk).1, hstored.buffered.2.2.1]
  have hempty : c'.stored.msgLength = c.stored.msgLength := (hstored.sized hk).1
  have hrecorded' : Moved c.toChunkHeader
      { now := some c'.stored, last := (st'.chunkedDataMap c'.id).last } st'
      c'.recorded := hid ▸ c'.recorded_moved
  have hkept' : Moved c.toChunkHeader
      { now := none, last := some c'.finished } st'
      (keepContext c'.recorded c'.id c'.finished) := hid ▸ c'.kept_moved
  have hfinished : PacketAlike (env'.fresh c.id)
      ((knownOf c.id before).learn c.length) c.finished c'.finished := by
    unfold WholeChunk.finished
    rw [htime]
    exact hstored.stampPacket _
  have hequal : (knownOf c.id before).learn c.length = .all ->
      c'.finished = c.finished := by
    intro hknown
    rw [hknown] at hstored
    unfold WholeChunk.finished
    rw [htime, hstored.stamped]
  have hends := c.ends halike.window
  have hends' := c'.ends halike.window'
  generalize splitOnce env st data = look at hends ⊢
  generalize splitOnce env' st' data = look' at hends' ⊢
  cases hends with
  | stored hopen =>
      cases hends' with
      | empty hcomplete _ => exact absurd (hsame.mp hcomplete) hopen
      | handed hcomplete _ => exact absurd (hsame.mp hcomplete) hopen
      | stored _ =>
          refine ⟨rfl, hconsumed.symm, ?_⟩
          exact {
            window := halike.window
            side := halike.side
            app := halike.app
            chunkSizeIn := halike.chunkSizeIn
            slots := halike.slots_moved c.recorded_moved hrecorded'
              (slotAlike_now hstored hk _ _) }
  | empty hcomplete hzero =>
      cases hends' with
      | stored hopen => exact absurd (hsame.mpr hcomplete) hopen
      | handed _ hne => exact absurd (hempty.trans hzero) hne
      | empty _ _ =>
          refine ⟨rfl, hconsumed.symm, ?_⟩
          exact {
            window := halike.window
            side := ⟨_, halike.kept_side c c' c.finished c'.finished⟩
            app := halike.app
            chunkSizeIn := halike.chunkSizeIn
            slots := halike.slots_moved c.kept_moved hkept'
              (slotAlike_kept hfinished hk hequal) }
  | handed hcomplete hne =>
      cases hends' with
      | stored hopen => exact absurd (hsame.mpr hcomplete) hopen
      | empty _ hzero => exact absurd (hempty.symm.trans hzero) hne
      | handed _ _ =>
          have hhanded : c.handed ≠ [] := by
            unfold WholeChunk.handed
            rw [if_pos ⟨hcomplete, hne⟩]
            exact List.cons_ne_nil _ _
          have hsamePacket := hequal (hall hhanded)
          rw [hsamePacket] at hkept' hfinished ⊢
          exact deliver_alike hkeep hhandlers halike c c' hconsumed hkept'
            hfinished hk

theorem carry_conditions {st st' : RtmpProtocol σ} {data : Bytes}
    {h : ChunkHeader data} {fields : HeaderFields} {k : Known}
    (halike : PacketAlike fields k (h.packet env st) (h.packet env' st'))
    (hk : k ≠ .nothing) (hsize : st'.chunkSizeIn = st.chunkSizeIn) :
    (h.packet env' st').tsDelta = (h.packet env st).tsDelta ∧
      min st'.chunkSizeIn (remainMsgLen (h.packet env' st')) =
        min st.chunkSizeIn (remainMsgLen (h.packet env st)) := by
  rcases halike.sized hk with ⟨hlength, hdelta⟩
  refine ⟨hdelta, ?_⟩
  unfold remainMsgLen
  rw [hsize, hlength, halike.buffered.2.2.1]

theorem ChunkHeader.packet_tsDelta {st : RtmpProtocol σ} {data : Bytes}
    {h : ChunkHeader data} (hl : h.length = 4) :
    (h.packet env st).tsDelta = loadBe24 (h.bytes.drop 1) := by
  rw [h.packet_eq, hl]
  rfl

/-- A look that finds what it needs is the same in both runs. -/
theorem alike_look (hkeep : env.KeepWindow)
    (hhandlers : env'.toHandlers = env.toHandlers)
    {before : List (RtmpProtocol σ × Bytes)} {st st' : RtmpProtocol σ}
    {data : Bytes} (halike : Alike env env' before st st')
    (hsupplied : Supplied env before st data) :
    Attempt.Agree (Alike env env' ((st, data) :: before))
      (splitOnce env st data) (splitOnce env' st' data) := by
  have hneedMore : forall {t t' : RtmpProtocol σ},
      splitOnce env st data = .needMore t ->
        splitOnce env' st' data = .needMore t' ->
          Attempt.Agree (Alike env env' ((st, data) :: before))
            (splitOnce env st data) (splitOnce env' st' data) := by
    intro t t' h h'
    rw [h, h']
    trivial
  by_cases hheader : IsEmpty (ChunkHeader data)
  · rcases splitOnce_of_isEmpty env st hheader with ⟨_, h⟩
    rcases splitOnce_of_isEmpty env' st' hheader with ⟨_, h'⟩
    exact hneedMore h h'
  rcases not_isEmpty_iff.mp hheader with ⟨header⟩
  have hpacket := header.packet_alike (halike.slots header.id)
  by_cases hk : (knownOf header.id before).learn header.length = .nothing
  · -- only the extended timestamp is missing, whatever the length is
    rcases hsupplied.header header hk with ⟨hl, hnone⟩
    have hcut : forall (env : Env σ) (st : RtmpProtocol σ),
        header.CutOff env st := by
      intro env st timeStamp bodyStart hext
      rw [ChunkHeader.packet_tsDelta hl, hnone] at hext
      cases hext
    exact hneedMore (header.splitOnce_of_cutOff (hcut env st))
      (header.splitOnce_of_cutOff (hcut env' st'))
  · rcases carry_conditions hpacket hk halike.chunkSizeIn with ⟨hdelta, hmore⟩
    by_cases hwhole : IsEmpty (WholeChunk env st data)
    · have hwhole' : IsEmpty (WholeChunk env' st' data) := by
        constructor
        intro c'
        have hsame := Subsingleton.elim c'.toChunkHeader header
        subst hsame
        exact hwhole.false (c'.carry hdelta.symm hmore.symm)
      rcases splitOnce_of_not_whole hwhole with ⟨t, h⟩
      rcases splitOnce_of_not_whole hwhole' with ⟨t', h'⟩
      exact hneedMore h h'
    · rcases not_isEmpty_iff.mp hwhole with ⟨c⟩
      have hsame := Subsingleton.elim c.toChunkHeader header
      subst hsame
      apply whole_alike hkeep hhandlers halike c (c.carry hdelta hmore) rfl rfl
      · have hmoreSame : (c.carry hdelta hmore).more = c.more := hmore
        unfold WholeChunk.consumed
        rw [hmoreSame]
        rfl
      · exact c.carry_stored hdelta hmore hpacket
      · exact hk
      · exact hsupplied.message c

end Looks

end Rtmp
end Streaming
