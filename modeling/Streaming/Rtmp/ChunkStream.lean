import Streaming.Util.Bytes

/-!
# Chunk streams as a sender writes them

RTMP messages are cut into chunks, and the chunks of different chunk streams
are interleaved.  A chunk header may leave out the fields that are the same as
in the message before it on its chunk stream.  This module says what a correct
sender may write and which messages it has thereby sent.  No parser is
mentioned here.
-/

namespace Streaming
namespace Rtmp

open Util

/-!
## Messages
-/

/-- The timestamp field of a header, with the extended timestamp behind it. -/
structure Stamp where
  field : Nat
  extended : Nat
  deriving DecidableEq, Repr

namespace Stamp

/-- The timestamp or timestamp delta in effect. -/
def value (stamp : Stamp) : Nat :=
  if stamp.field = 0xFFFFFF then stamp.extended else stamp.field

/-- The extended timestamp is present when the field has all bits set. -/
def extension (stamp : Stamp) : Bytes :=
  if stamp.field = 0xFFFFFF then setBe32 stamp.extended else []

end Stamp

structure Message where
  stamp : Stamp
  typeId : Nat
  streamId : Nat
  payload : Bytes
  deriving DecidableEq, Repr

/-- The value a Set Chunk Size message carries. -/
def Message.chunkSize (m : Message) : Nat :=
  loadBe32 m.payload

/-- Every field fits its place in the header, and a chunk size is in range. -/
structure Message.WellFormed (m : Message) : Prop where
  field_lt : m.stamp.field < 16777216
  extended_lt : m.stamp.extended < 4294967296
  typeId_lt : m.typeId < 256
  streamId_lt : m.streamId < 4294967296
  length_lt : m.payload.length < 16777216
  chunkSize_range : m.typeId = 1 -> m.payload ≠ [] ->
    4 <= m.payload.length ∧ 1 <= m.chunkSize ∧ m.chunkSize <= 0x7FFFFFFF

/-- What the receiver is told about one message. -/
structure Delivered where
  chunkStreamId : Nat
  typeId : Nat
  streamId : Nat
  length : Nat
  timestamp : Nat
  payload : Bytes
  deriving DecidableEq, Repr

def Message.delivered (m : Message) (id timestamp : Nat) : Delivered where
  chunkStreamId := id
  typeId := m.typeId
  streamId := m.streamId
  length := m.payload.length
  timestamp := timestamp
  payload := m.payload

/-!
## Headers
-/

/-- The three forms of the basic header. -/
inductive IdForm where
  | oneByte
  | twoBytes
  | threeBytes
  deriving DecidableEq, Repr

namespace IdForm

/-- The chunk stream ids that a form can write. -/
def Fits : IdForm -> Nat -> Prop
  | oneByte, id => 2 <= id ∧ id <= 63
  | twoBytes, id => 64 <= id ∧ id <= 319
  | threeBytes, id => 64 <= id ∧ id <= 65599

instance (form : IdForm) (id : Nat) : Decidable (form.Fits id) :=
  match form with
  | oneByte => inferInstanceAs (Decidable (2 <= id ∧ id <= 63))
  | twoBytes => inferInstanceAs (Decidable (64 <= id ∧ id <= 319))
  | threeBytes => inferInstanceAs (Decidable (64 <= id ∧ id <= 65599))

/-- How many bytes the form takes behind the first one. -/
def extra : IdForm -> Nat
  | oneByte => 0
  | twoBytes => 1
  | threeBytes => 2

def basicHeader (fmt : Fin 4) (id : Nat) : IdForm -> Bytes
  | oneByte => [UInt8.ofNat (fmt.val * 64 + id)]
  | twoBytes => [UInt8.ofNat (fmt.val * 64), UInt8.ofNat (id - 64)]
  | threeBytes =>
      [UInt8.ofNat (fmt.val * 64 + 1), UInt8.ofNat ((id - 64) % 256),
        UInt8.ofNat ((id - 64) / 256)]

end IdForm

/-- The message header of each `fmt`, without the extended timestamp. -/
def Message.header (m : Message) : Fin 4 -> Bytes
  | 0 =>
      setBe24 m.stamp.field ++
        (setBe24 m.payload.length ++
          (UInt8.ofNat m.typeId :: setLe32 m.streamId))
  | 1 =>
      setBe24 m.stamp.field ++
        (setBe24 m.payload.length ++ [UInt8.ofNat m.typeId])
  | 2 => setBe24 m.stamp.field
  | 3 => []

/-!
## The sender
-/

/-- A message that has been begun: its timestamp and the bytes already sent. -/
structure Progress where
  message : Message
  timestamp : Nat
  sent : Nat
  deriving DecidableEq, Repr

/-- One chunk stream at the sender. -/
structure Lane where
  /-- The last complete message and its timestamp. -/
  previous : Option (Message × Nat) := none
  current : Option Progress := none

structure Sender where
  chunkSize : Nat := 128
  lane : Nat -> Lane := fun _ => {}

inductive Chunk where
  | start (id : Nat) (form : IdForm) (fmt : Fin 4) (message : Message)
  | next (id : Nat) (form : IdForm)

/-- The message that opens with a chunk of this `fmt`. -/
def Lane.begin (lane : Lane) (fmt : Fin 4) (message : Message) : Progress where
  message := message
  timestamp :=
    match fmt, lane.previous with
    | 0, _ => message.stamp.value
    | _, some (_, timestamp) => (timestamp + message.stamp.value) % 2 ^ 32
    | _, none => message.stamp.value
  sent := 0

/-- What a header of this `fmt` leaves out must be as in the message before. -/
structure Inherits (fmt : Fin 4) (prev message : Message) : Prop where
  streamId_eq : 1 <= fmt.val -> message.streamId = prev.streamId
  typeId_eq : 2 <= fmt.val -> message.typeId = prev.typeId
  length_eq : 2 <= fmt.val -> message.payload.length = prev.payload.length
  field_eq : 3 <= fmt.val -> message.stamp.field = prev.stamp.field

namespace Sender

/-- The chunks a correct sender may write next. -/
def Allows (s : Sender) : Chunk -> Prop
  | .start id form fmt message =>
      form.Fits id ∧ (s.lane id).current = none ∧ message.WellFormed ∧
        (fmt ≠ 0 -> exists prev timestamp,
          (s.lane id).previous = some (prev, timestamp) ∧
            Inherits fmt prev message)
  | .next id form =>
      form.Fits id ∧ exists p, (s.lane id).current = some p

/-- The payload bytes of the next chunk of a message. -/
def piece (s : Sender) (p : Progress) : Bytes :=
  (p.message.payload.drop p.sent).take s.chunkSize

/-- The bytes of one chunk. -/
def bytes (s : Sender) : Chunk -> Bytes
  | .start id form fmt message =>
      form.basicHeader fmt id ++ (message.header fmt ++
        (message.stamp.extension ++
          s.piece ((s.lane id).begin fmt message)))
  | .next id form =>
      match (s.lane id).current with
      | some p =>
          form.basicHeader 3 id ++ (p.message.stamp.extension ++ s.piece p)
      | none => []

def setLane (s : Sender) (id : Nat) (lane : Lane) : Sender :=
  { s with lane := Function.update s.lane id lane }

/-- Count a chunk of a message, and note the message once it is complete. -/
def advance (s : Sender) (id : Nat) (p : Progress) : Sender × List Delivered :=
  let p' := { p with sent := p.sent + (s.piece p).length }
  if p'.sent = p.message.payload.length then
    let s' := s.setLane id
      { previous := some (p.message, p.timestamp), current := none }
    if p.message.payload = [] then (s', [])
    else
      -- a new chunk size holds from here on, for every message in progress
      ({ s' with
          chunkSize :=
            if p.message.typeId = 1 then p.message.chunkSize
            else s.chunkSize },
        [p.message.delivered id p.timestamp])
  else
    (s.setLane id { s.lane id with current := some p' }, [])

/-- The sender after a chunk, and the message that the chunk completes. -/
def step (s : Sender) : Chunk -> Sender × List Delivered
  | .start id _ fmt message => s.advance id ((s.lane id).begin fmt message)
  | .next id _ =>
      match (s.lane id).current with
      | some p => s.advance id p
      | none => (s, [])

/-- Every chunk is one that the sender may write where it stands. -/
def WellFormed (s : Sender) : List Chunk -> Prop
  | [] => True
  | c :: cs => s.Allows c ∧ (s.step c).1.WellFormed cs

/-- The byte stream that the chunks make up. -/
def wire (s : Sender) : List Chunk -> Bytes
  | [] => []
  | c :: cs => s.bytes c ++ (s.step c).1.wire cs

/-- The non-empty messages, in the order in which they are completed. -/
def completed (s : Sender) : List Chunk -> List Delivered
  | [] => []
  | c :: cs => (s.step c).2 ++ (s.step c).1.completed cs

/-- The sender after all of its chunks. -/
def after (s : Sender) : List Chunk -> Sender
  | [] => s
  | c :: cs => (s.step c).1.after cs

theorem wellFormed_append {s : Sender} {cs ds : List Chunk} :
    s.WellFormed (cs ++ ds) <-> s.WellFormed cs ∧ (s.after cs).WellFormed ds := by
  induction cs generalizing s with
  | nil => exact ⟨fun h => ⟨trivial, h⟩, fun h => h.2⟩
  | cons c cs ih =>
      simp only [List.cons_append, WellFormed, after, ih, and_assoc]

theorem wire_append (s : Sender) (cs ds : List Chunk) :
    s.wire (cs ++ ds) = s.wire cs ++ (s.after cs).wire ds := by
  induction cs generalizing s with
  | nil => rfl
  | cons c cs ih =>
      simp only [List.cons_append, wire, after, ih, List.append_assoc]

theorem completed_append (s : Sender) (cs ds : List Chunk) :
    s.completed (cs ++ ds) = s.completed cs ++ (s.after cs).completed ds := by
  induction cs generalizing s with
  | nil => rfl
  | cons c cs ih =>
      simp only [List.cons_append, completed, after, ih, List.append_assoc]

theorem after_append (s : Sender) (cs ds : List Chunk) :
    s.after (cs ++ ds) = (s.after cs).after ds := by
  induction cs generalizing s with
  | nil => rfl
  | cons c cs ih => exact ih _

/-!
## Every message once

On each chunk stream the non-empty messages that have been begun are those that
have been completed and the one in progress, in the same order.
-/

/-- The message in progress on a chunk stream. -/
def pending (s : Sender) (id : Nat) : List Delivered :=
  match (s.lane id).current with
  | some p => [p.message.delivered id p.timestamp]
  | none => []

/-- The non-empty messages that a chunk begins on a chunk stream. -/
def opens (s : Sender) (id : Nat) : Chunk -> List Delivered
  | .start lane _ fmt message =>
      if lane = id ∧ message.payload ≠ [] then
        [message.delivered id ((s.lane id).begin fmt message).timestamp]
      else []
  | .next _ _ => []

def begun (s : Sender) (id : Nat) : List Chunk -> List Delivered
  | [] => []
  | c :: cs => s.opens id c ++ (s.step c).1.begun id cs

/-- A message in progress is well formed and has bytes left to send. -/
def Sound (s : Sender) : Prop :=
  forall id p, (s.lane id).current = some p ->
    p.message.WellFormed ∧ p.sent < p.message.payload.length

theorem initial_sound : Sound {} := by
  intro id p h
  cases h

theorem piece_length_le (s : Sender) {p : Progress}
    (hp : p.sent <= p.message.payload.length) :
    p.sent + (s.piece p).length <= p.message.payload.length := by
  simp only [piece, List.length_take, List.length_drop]
  omega

theorem setLane_lane (s : Sender) (id : Nat) (lane : Lane) (other : Nat) :
    (s.setLane id lane).lane other =
      if other = id then lane else s.lane other := by
  simp only [setLane, Function.update_apply]

theorem advance_sound {s : Sender} (hs : s.Sound) (id : Nat) {p : Progress}
    (hm : p.message.WellFormed) (hp : p.sent <= p.message.payload.length) :
    (s.advance id p).1.Sound := by
  have hle := s.piece_length_le hp
  intro other q hq
  unfold advance at hq
  simp only at hq
  split at hq
  · -- the message is complete and its chunk stream idle
    have hlane : (if other = id then
        ({ previous := some (p.message, p.timestamp), current := none } : Lane)
          else s.lane other).current = some q := by
      split at hq
      · rw [← setLane_lane]
        exact hq
      · rw [← setLane_lane]
        exact hq
    split at hlane
    · cases hlane
    · exact hs other q hlane
  · rw [setLane_lane] at hq
    split at hq
    · cases hq
      constructor
      · exact hm
      · simp only
        omega
    · exact hs other q hq

theorem step_sound {s : Sender} (hs : s.Sound) {c : Chunk} (hc : s.Allows c) :
    (s.step c).1.Sound := by
  cases c with
  | start id form fmt message =>
      rcases hc with ⟨_, _, hm, _⟩
      exact advance_sound hs id hm (Nat.zero_le _)
  | next id form =>
      rcases hc with ⟨_, p, hp⟩
      rcases hs id p hp with ⟨hm, hlt⟩
      simp only [step, hp]
      exact advance_sound hs id hm (Nat.le_of_lt hlt)

/-- The messages of one chunk stream. -/
def onStream (id : Nat) (ds : List Delivered) : List Delivered :=
  ds.filter fun d => d.chunkStreamId = id

theorem onStream_append (id : Nat) (xs ys : List Delivered) :
    onStream id (xs ++ ys) = onStream id xs ++ onStream id ys :=
  List.filter_append ..

theorem onStream_delivered (id other : Nat) (m : Message) (timestamp : Nat) :
    onStream other [m.delivered id timestamp] =
      if id = other then [m.delivered id timestamp] else [] := by
  by_cases h : id = other
  · simp [onStream, Message.delivered, h]
  · simp [onStream, Message.delivered, h]

theorem pending_congr {s t : Sender} {id : Nat}
    (h : s.lane id = t.lane id) : s.pending id = t.pending id := by
  unfold pending
  rw [h]

/-- A chunk moves its message to the completed ones or keeps it in progress. -/
theorem advance_conserves (s : Sender) (id other : Nat) {p : Progress}
    (hp : p.sent <= p.message.payload.length) :
    onStream other (s.advance id p).2 ++ (s.advance id p).1.pending other =
      if id = other then
        if p.message.payload = [] then []
        else [p.message.delivered id p.timestamp]
      else s.pending other := by
  have hle := s.piece_length_le hp
  by_cases hid : id = other
  · subst hid
    rw [if_pos rfl]
    by_cases hdone :
        p.sent + (s.piece p).length = p.message.payload.length
    · by_cases hempty : p.message.payload = []
      · simp [advance, hdone, hempty, onStream, pending, setLane]
      · simp [advance, hdone, hempty, onStream_delivered, pending, setLane]
    · have hne : p.message.payload ≠ [] := by
        intro hnil
        rw [hnil] at hdone hle
        simp only [List.length_nil] at hdone hle
        omega
      simp [advance, hdone, hne, onStream, pending, setLane]
  · rw [if_neg hid]
    have hlane : (s.advance id p).1.lane other = s.lane other := by
      unfold advance
      simp only
      split
      · split
        · rw [setLane_lane, if_neg (Ne.symm hid)]
        · exact (s.setLane_lane id _ other).trans (if_neg (Ne.symm hid))
      · rw [setLane_lane, if_neg (Ne.symm hid)]
    rw [pending_congr hlane]
    have hnone : onStream other (s.advance id p).2 = [] := by
      unfold advance
      simp only
      split
      · split
        · rfl
        · rw [onStream_delivered, if_neg hid]
      · rfl
    rw [hnone, List.nil_append]

theorem step_conserves {s : Sender} (hs : s.Sound) {c : Chunk}
    (hc : s.Allows c) (id : Nat) :
    s.pending id ++ s.opens id c =
      onStream id (s.step c).2 ++ (s.step c).1.pending id := by
  cases c with
  | start lane form fmt message =>
      rcases hc with ⟨_, hidle, _, _⟩
      simp only [step, opens]
      rw [s.advance_conserves lane id (Nat.zero_le _)]
      by_cases hid : lane = id
      · subst hid
        by_cases hempty : message.payload = []
        · simp [pending, hidle, hempty, Lane.begin]
        · simp [pending, hidle, hempty, Lane.begin]
      · simp [hid]
  | next lane form =>
      rcases hc with ⟨_, p, hp⟩
      have hlt := (hs lane p hp).2
      have hne : p.message.payload ≠ [] :=
        List.ne_nil_of_length_pos (Nat.lt_of_le_of_lt (Nat.zero_le _) hlt)
      simp only [step, hp, opens, List.append_nil]
      rw [s.advance_conserves lane id (Nat.le_of_lt hlt)]
      by_cases hid : lane = id
      · subst hid
        simp [pending, hp, hne]
      · simp [hid]

theorem completed_conserves {s : Sender} (hs : s.Sound) {cs : List Chunk}
    (hcs : s.WellFormed cs) (id : Nat) :
    s.pending id ++ s.begun id cs =
      onStream id (s.completed cs) ++ (s.after cs).pending id := by
  induction cs generalizing s with
  | nil => simp [begun, completed, after, onStream]
  | cons c cs ih =>
      rcases hcs with ⟨hc, hrest⟩
      have hstep := step_conserves hs hc id
      have htail := ih (step_sound hs hc) hrest
      simp only [begun, completed, after]
      rw [← List.append_assoc, hstep, List.append_assoc, htail,
        onStream_append, List.append_assoc]

end Sender

/-- Two video messages, the second without any header field of its own. -/
def twoVideoMessages : List Chunk :=
  let message : Message := {
    stamp := ⟨40, 0⟩, typeId := 9, streamId := 1, payload := [0x17, 0] }
  [.start 70 .twoBytes 0 message, .start 70 .threeBytes 3 message]

/-- The first chunk of a message, with all of the message header. -/
def Message.firstChunk (m : Message) (id : Nat) : Chunk :=
  .start id .oneByte 0 m

end Rtmp
end Streaming
