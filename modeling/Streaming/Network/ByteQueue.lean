import Streaming.Foundation.BigEndian
import Streaming.Foundation.Refinement
import Streaming.Network.FlatBuffer

/-!
# The flat buffer as a queue of bytes

Whatever is done to the indexes and the storage, a buffer is a queue: bytes are
appended to it and taken from its front.  The queue says what a call returns,
or that it throws.
-/

namespace Streaming
namespace Network

open Foundation Util

/-- The widths of the integers that can be read. -/
inductive IntWidth where
  | uint8
  | uint16
  | uint32
  | uint64
  deriving DecidableEq, Repr

namespace IntWidth

/-- `sizeof`. -/
def size : IntWidth -> Nat
  | uint8 => 1
  | uint16 => 2
  | uint32 => 4
  | uint64 => 8

end IntWidth

inductive BufferAnswer where
  | nothing
  | number (x : Nat)
  | text (s : Bytes)
  deriving DecidableEq, Repr

inductive BufferOp where
  | write (bytes : Bytes)
  | consumeOrFail (len : Nat)
  | safeConsume (len : Nat)
  | reset
  | peek (width : IntWidth)
  | read (width : IntWidth)
  | toString (len : Nat)
  /-- `socket_read_length`, and bytes that the socket then stores. -/
  | receive (n : Nat) (bytes : { bytes : Bytes // bytes.length <= n })

/-!
## What the buffer does
-/

namespace FlatBuffer

def peekInt : IntWidth -> EStateM String FlatBuffer Nat
  | .uint8 => peekUint8
  | .uint16 => peekUint16
  | .uint32 => peekUint32
  | .uint64 => peekUint64

def readInt : IntWidth -> EStateM String FlatBuffer Nat
  | .uint8 => readUint8
  | .uint16 => readUint16
  | .uint32 => readUint32
  | .uint64 => readUint64

def perform : BufferOp -> EStateM String FlatBuffer BufferAnswer
  | .write bytes => do modify fun b => b.write bytes; return .nothing
  | .consumeOrFail len => do consumeOrFail len; return .nothing
  | .safeConsume len => do modify fun b => b.safeConsume len; return .nothing
  | .reset => do modify FlatBuffer.reset; return .nothing
  | .peek width => do return .number (<- peekInt width)
  | .read width => do return .number (<- readInt width)
  | .toString len => do return .text (<- readString len)
  | .receive n bytes => do
      let _ <- socketReadLength n
      modify fun b => b.fill bytes.val
      socketConsume bytes.val.length
      return .nothing

inductive CopyKind where
  | construct
  | assign
  deriving DecidableEq, Repr

def copy : CopyKind -> FlatBuffer -> FlatBuffer -> FlatBuffer
  | .construct, _, other => copyConstruct other
  | .assign, b, other => b.copyAssign other

/-- A call returns, or it throws; the text of an exception is left out. -/
def call (op : BufferOp) (b : FlatBuffer) : Option BufferAnswer × FlatBuffer :=
  match perform op b with
  | .ok answer b => (some answer, b)
  | .error _ b => (none, b)

end FlatBuffer

/-!
## What a queue does
-/

/-- The bytes, first in, first out, and how much the storage holds.  The latter
only decides whether a read of the socket is turned down. -/
structure ByteQueue where
  bytes : List UInt8
  capacity : Nat

namespace ByteQueue

/-- Even with all bytes at the front of the storage there is no room for so many
more, and the storage has reached its limit. -/
def Full (q : ByteQueue) (n : Nat) : Prop :=
  q.capacity - q.bytes.length < n ∧ FlatBuffer.kMaxCacheSize < q.capacity

instance (q : ByteQueue) (n : Nat) : Decidable (q.Full n) :=
  inferInstanceAs (Decidable (_ ∧ _))

/-- Take bytes from the front, if there are as many. -/
def dequeue (q : ByteQueue) (n : Nat) (answer : List UInt8 -> BufferAnswer) :
    Option BufferAnswer × ByteQueue :=
  if n <= q.bytes.length then
    (some (answer (q.bytes.take n)), { q with bytes := q.bytes.drop n })
  else
    (none, q)

/-- Append bytes, with the storage enlarged for them or not. -/
def enqueue (q : ByteQueue) (bytes : List UInt8) (room : Nat) (grows : Bool) :
    ByteQueue where
  bytes := q.bytes ++ bytes
  capacity := if grows then 2 * q.capacity + room else q.capacity

/-- Append what the socket stores when room has been made for so many bytes. -/
def receive (q : ByteQueue) (n : Nat) (bytes : List UInt8) :
    Option BufferAnswer × ByteQueue :=
  if q.Full n then (none, q)
  else
    (some .nothing,
      q.enqueue bytes n (decide (q.capacity - q.bytes.length < n)))

/-- What a call does.  Where the bytes lie in the storage is not said here, so
writing may find that the storage has to be enlarged. -/
def perform (q : ByteQueue) (grows : Bool) :
    BufferOp -> Option BufferAnswer × ByteQueue
  | .write bytes => (some .nothing, q.enqueue bytes bytes.length grows)
  | .consumeOrFail len => q.dequeue len fun _ => .nothing
  | .safeConsume len => (some .nothing, { q with bytes := q.bytes.drop len })
  | .reset => (some .nothing, { q with bytes := [] })
  | .peek width =>
      ((q.dequeue width.size fun front => .number (bigEndianValue front)).1, q)
  | .read width =>
      q.dequeue width.size fun front => .number (bigEndianValue front)
  | .toString len => q.dequeue len .text
  | .receive n bytes => q.receive n bytes.val

/-- A call does what the queue says. -/
def Allowed (q : ByteQueue) (op : BufferOp) (answer : Option BufferAnswer)
    (q' : ByteQueue) : Prop :=
  exists grows, (answer, q') = q.perform grows op

/-!
## Integers
-/

theorem value_take_one {data : Bytes} (h : 1 <= data.length) :
    bigEndianValue (data.take 1) = byteAt data 0 := by
  rcases data with _ | ⟨a, data⟩
  · cases h
  · simp [bigEndianValue]

theorem value_take_two {data : Bytes} (h : 2 <= data.length) :
    bigEndianValue (data.take 2) = loadBe16 data := by
  rcases data with _ | ⟨a, _ | ⟨b, data⟩⟩
  · simp at h
  · simp at h
  · rw [loadBe16, or_byte _ _ (byteAt_lt _ 1)]
    simp [bigEndianValue]
    omega

theorem value_take_four {data : Bytes} (h : 4 <= data.length) :
    bigEndianValue (data.take 4) = loadBe32 data := by
  have hsplit : data.take 4 = data.take 2 ++ (data.drop 2).take 2 := by
    rw [← List.take_add]
  have hback : 2 <= (data.drop 2).length := by
    rw [List.length_drop]
    omega
  have hthird : byteAt (data.drop 2) 0 = byteAt data 2 := byteAt_drop data 2 0
  have hfourth : byteAt (data.drop 2) 1 = byteAt data 3 := byteAt_drop data 2 1
  rw [hsplit, bigEndianValue_append, value_take_two (by omega), value_take_two hback,
    List.length_take, Nat.min_eq_left hback, loadBe32_eq, loadBe16, loadBe16,
    or_byte _ _ (byteAt_lt _ 1), or_byte _ _ (byteAt_lt _ 1), hthird, hfourth]
  omega

theorem value_take_eight {data : Bytes} (h : 8 <= data.length) :
    bigEndianValue (data.take 8) =
      (loadBe32 data <<< 32) ||| loadBe32 (data.drop 4) := by
  have hsplit : data.take 8 = data.take 4 ++ (data.drop 4).take 4 := by
    rw [← List.take_add]
  have hback : 4 <= (data.drop 4).length := by
    rw [List.length_drop]
    omega
  rw [hsplit, bigEndianValue_append, value_take_four (by omega), value_take_four hback,
    List.length_take, Nat.min_eq_left hback,
    ← Nat.shiftLeft_add_eq_or_of_lt (loadBe32_lt _), Nat.shiftLeft_eq,
    show 256 ^ 4 = 2 ^ 32 from rfl]

/-- The queue throws only where it changes nothing. -/
theorem perform_none {q q' : ByteQueue} {grows : Bool} {op : BufferOp}
    (h : q.perform grows op = (none, q')) : q' = q := by
  have hdequeue : forall n answer, q.dequeue n answer = (none, q') -> q' = q := by
    intro n answer h
    unfold dequeue at h
    split at h
    · cases h
    · cases h
      rfl
  cases op with
  | consumeOrFail len => exact hdequeue len (fun _ => .nothing) h
  | peek width => exact (congrArg Prod.snd h).symm
  | read width =>
      exact hdequeue width.size (fun front => .number (bigEndianValue front)) h
  | toString len => exact hdequeue len .text h
  | write bytes => cases h
  | safeConsume len => cases h
  | reset => cases h
  | receive n bytes =>
      change q.receive n bytes.val = (none, q') at h
      unfold receive at h
      split at h
      · cases h
        rfl
      · cases h

end ByteQueue

/-!
## One call
-/

namespace FlatBuffer

theorem take_unread {b : FlatBuffer} {n : Nat} (h : n <= b.unreadLength) :
    b.unread.take n = b.data.take n := by
  rw [unread, List.take_take, Nat.min_eq_left h]

theorem Valid.unreadLength_le {b : FlatBuffer} (hb : b.Valid) :
    b.unreadLength <= b.data.length := by
  rw [← hb.unread_length]
  exact List.length_take_le' ..

theorem peekInt_of_le {b : FlatBuffer} (hb : b.Valid) {width : IntWidth}
    (h : width.size <= b.unreadLength) :
    peekInt width b = .ok (bigEndianValue (b.unread.take width.size)) b := by
  have hdata := hb.unreadLength_le
  have hlen := Nat.le_trans h hdata
  rw [take_unread h]
  cases width with
  | uint8 =>
      exact (if_neg (Nat.not_lt.mpr h)).trans
        (congrArg (EStateM.Result.ok · b) (ByteQueue.value_take_one hlen).symm)
  | uint16 =>
      exact (if_neg (Nat.not_lt.mpr h)).trans
        (congrArg (EStateM.Result.ok · b) (ByteQueue.value_take_two hlen).symm)
  | uint32 =>
      exact (peekUint32_of_le h).trans
        (congrArg (EStateM.Result.ok · b) (ByteQueue.value_take_four hlen).symm)
  | uint64 =>
      exact (peekUint64_of_le h).trans
        (congrArg (EStateM.Result.ok · b) (ByteQueue.value_take_eight hlen).symm)

theorem peekInt_of_lt {b : FlatBuffer} {width : IntWidth}
    (h : b.unreadLength < width.size) :
    peekInt width b = .error "not enough data" b := by
  cases width with
  | uint8 => exact if_pos h
  | uint16 => exact if_pos h
  | uint32 => exact if_pos h
  | uint64 => exact peekUint64_of_lt h

theorem readInt_eq (width : IntWidth) :
    readInt width = (do
      let x <- peekInt width
      consumeOrFail width.size
      return x) := by
  cases width <;> rfl

theorem readInt_of_le {b : FlatBuffer} (hb : b.Valid) {width : IntWidth}
    (h : width.size <= b.unreadLength) :
    readInt width b = .ok (bigEndianValue (b.unread.take width.size))
      (b.safeConsume width.size) := by
  rw [readInt_eq, bind_of_ok (peekInt_of_le hb h),
    bind_of_ok (consumeOrFail_of_le h)]
  rfl

theorem readInt_of_lt {b : FlatBuffer} {width : IntWidth}
    (h : b.unreadLength < width.size) :
    readInt width b = .error "not enough data" b := by
  rw [readInt_eq]
  exact bind_of_error (peekInt_of_lt h)

theorem readUint16_of_le {b : FlatBuffer} (hb : b.Valid)
    (h : 2 <= b.unreadLength) :
    readUint16 b = .ok (bigEndianValue (b.unread.take 2)) (b.safeConsume 2) := by
  show readInt .uint16 b = _
  exact readInt_of_le hb h

theorem readUint16_of_lt {b : FlatBuffer} (h : b.unreadLength < 2) :
    readUint16 b = .error "not enough data" b := by
  show readInt .uint16 b = _
  exact readInt_of_lt h

theorem readUint32_of_le {b : FlatBuffer} (hb : b.Valid)
    (h : 4 <= b.unreadLength) :
    readUint32 b = .ok (bigEndianValue (b.unread.take 4)) (b.safeConsume 4) := by
  show readInt .uint32 b = _
  exact readInt_of_le hb h

theorem safeConsume_unreadLength {b : FlatBuffer} (hb : b.Valid) {len : Nat}
    (h : len <= b.unreadLength) :
    (b.safeConsume len).unreadLength = b.unreadLength - len := by
  rw [← (safeConsume_valid hb len).unread_length, safeConsume_unread h,
    List.length_drop, hb.unread_length]

theorem readString_of_le {b : FlatBuffer} {len : Nat}
    (h : len <= b.unreadLength) :
    readString len b = .ok (b.unread.take len) (b.safeConsume len) := by
  unfold readString
  rw [if_neg (Nat.not_lt.mpr h), bind_of_ok (consumeOrFail_of_le h),
    take_unread h]
  rfl

theorem safeConsume_unread_drop {b : FlatBuffer} (hb : b.Valid) (len : Nat) :
    (b.safeConsume len).unread = b.unread.drop len := by
  rcases Nat.lt_or_ge b.unreadLength len with hlt | hle
  · have hall : b.unread.length <= len := by
      rw [hb.unread_length]
      exact Nat.le_of_lt hlt
    unfold safeConsume
    rw [if_neg (Nat.not_le.mpr hlt), reset_unread, List.drop_of_length_le hall]
  · exact safeConsume_unread hle

theorem write_capacity (b : FlatBuffer) (bytes : Bytes) :
    (b.write bytes).capacity =
      if b.writableBytes < bytes.length then 2 * b.capacity + bytes.length
      else b.capacity := by
  unfold write ensureWritableBytes
  by_cases hfull : b.writableBytes < bytes.length
  · rw [if_pos hfull, if_pos hfull]
    unfold grow
    rw [if_pos hfull]
    simp only [fill, Nat.shiftLeft_eq]
    omega
  · rw [if_neg hfull, if_neg hfull]
    rfl

theorem safeConsume_capacity (b : FlatBuffer) (len : Nat) :
    (b.safeConsume len).capacity = b.capacity := by
  unfold safeConsume
  split <;> rfl

/-- The buffer holds the bytes of the queue. -/
structure Represents (b : FlatBuffer) (q : ByteQueue) : Prop where
  valid : b.Valid
  unread_eq : b.unread = q.bytes
  capacity_eq : b.capacity = q.capacity

theorem Represents.unreadLength_eq {b : FlatBuffer} {q : ByteQueue}
    (h : Represents b q) : b.unreadLength = q.bytes.length := by
  rw [← h.valid.unread_length, h.unread_eq]

theorem Represents.safeConsume {b : FlatBuffer} {q : ByteQueue}
    (h : Represents b q) (len : Nat) :
    Represents (b.safeConsume len) { q with bytes := q.bytes.drop len } where
  valid := safeConsume_valid h.valid len
  unread_eq := by
    rw [safeConsume_unread_drop h.valid, h.unread_eq]
  capacity_eq := (safeConsume_capacity b len).trans h.capacity_eq

/-- The buffer answers as the queue does and holds what the queue holds. -/
def Matches (outcome : Option BufferAnswer × FlatBuffer)
    (expected : Option BufferAnswer × ByteQueue) : Prop :=
  outcome.1 = expected.1 ∧ Represents outcome.2 expected.2

/-- Calls that take bytes from the front, or throw. -/
theorem matches_dequeue {b : FlatBuffer} {q : ByteQueue} (hb : Represents b q)
    {op : BufferOp} {n : Nat} {answer : List UInt8 -> BufferAnswer}
    (hok : n <= b.unreadLength ->
      perform op b = .ok (answer (b.unread.take n)) (b.safeConsume n))
    (hthrow : b.unreadLength < n -> exists what, perform op b = .error what b) :
    Matches (call op b) (q.dequeue n answer) := by
  unfold call ByteQueue.dequeue
  rw [← hb.unreadLength_eq, ← hb.unread_eq]
  rcases Nat.lt_or_ge b.unreadLength n with hlt | hle
  · rcases hthrow hlt with ⟨what, hwhat⟩
    rw [hwhat, if_neg (Nat.not_le.mpr hlt)]
    exact ⟨rfl, hb⟩
  · rw [hok hle, if_pos hle]
    refine ⟨rfl, ?_⟩
    rw [hb.unread_eq]
    exact hb.safeConsume n

theorem matches_consumeOrFail {b : FlatBuffer} {q : ByteQueue}
    (hb : Represents b q) (len : Nat) :
    Matches (call (.consumeOrFail len) b)
      (q.dequeue len fun _ => .nothing) := by
  apply matches_dequeue hb
  · intro hle
    exact bind_of_ok (consumeOrFail_of_le hle)
  · intro hlt
    exact ⟨_, bind_of_error (if_neg (Nat.not_le.mpr hlt))⟩

theorem call_peek {b : FlatBuffer} {q : ByteQueue} (hb : Represents b q)
    (width : IntWidth) :
    call (.peek width) b =
      ((q.dequeue width.size fun front => .number (bigEndianValue front)).1,
        b) := by
  unfold call ByteQueue.dequeue
  rw [← hb.unreadLength_eq, ← hb.unread_eq]
  rcases Nat.lt_or_ge b.unreadLength width.size with hlt | hle
  · rw [show perform (.peek width) b = .error "not enough data" b from
      bind_of_error (peekInt_of_lt hlt), if_neg (Nat.not_le.mpr hlt)]
  · rw [show perform (.peek width) b =
      .ok (.number (bigEndianValue (b.unread.take width.size))) b from
      bind_of_ok (peekInt_of_le hb.valid hle), if_pos hle]

theorem matches_read {b : FlatBuffer} {q : ByteQueue} (hb : Represents b q)
    (width : IntWidth) :
    Matches (call (.read width) b)
      (q.dequeue width.size fun front => .number (bigEndianValue front)) := by
  apply matches_dequeue hb
  · intro hle
    exact bind_of_ok (readInt_of_le hb.valid hle)
  · intro hlt
    exact ⟨_, bind_of_error (readInt_of_lt hlt)⟩

theorem matches_toString {b : FlatBuffer} {q : ByteQueue} (hb : Represents b q)
    (len : Nat) :
    Matches (call (.toString len) b) (q.dequeue len .text) := by
  apply matches_dequeue hb
  · intro hle
    exact bind_of_ok (readString_of_le hle)
  · intro hlt
    exact ⟨_, bind_of_error (if_pos hlt)⟩

/-!
## Bytes from the socket
-/

theorem moveUnreadToBegin_represents {b : FlatBuffer} {q : ByteQueue}
    (hb : Represents b q) : Represents b.moveUnreadToBegin q where
  valid := moveUnreadToBegin_valid hb.valid
  unread_eq := (moveUnreadToBegin_unread hb.valid).trans hb.unread_eq
  capacity_eq := hb.capacity_eq

theorem Represents.moved_writableBytes {b : FlatBuffer} {q : ByteQueue}
    (hb : Represents b q) :
    b.moveUnreadToBegin.writableBytes = q.capacity - q.bytes.length := by
  rw [← hb.unreadLength_eq, ← hb.capacity_eq]
  rfl

/-- There is room when all bytes are moved to the front if there is room before
that. -/
theorem Represents.writableBytes_le {b : FlatBuffer} {q : ByteQueue}
    (hb : Represents b q) : b.writableBytes <= q.capacity - q.bytes.length := by
  rw [← hb.unreadLength_eq, ← hb.capacity_eq]
  unfold writableBytes unreadLength
  omega

/-- `socket_read_length` throws on a full queue, and on no other it does. -/
theorem socketReadLength_represents {b : FlatBuffer} {q : ByteQueue}
    (hb : Represents b q) (n : Nat) :
    (q.Full n ∧ exists what b',
      socketReadLength n b = .error what b' ∧ Represents b' q) ∨
    ¬ q.Full n ∧ exists b', socketReadLength n b = .ok n b' ∧
      n <= b'.writableBytes ∧ Represents b'
        (q.enqueue [] n (decide (q.capacity - q.bytes.length < n))) := by
  have hmoved := hb.moved_writableBytes
  have hbefore := hb.writableBytes_le
  have hkeeps : forall b', n <= q.capacity - q.bytes.length ->
      Represents b' q -> Represents b'
        (q.enqueue [] n (decide (q.capacity - q.bytes.length < n))) := by
    intro b' hroom hb'
    unfold ByteQueue.enqueue
    rw [decide_eq_false (Nat.not_lt.mpr hroom), List.append_nil]
    exact hb'
  have hlength := readLength b n
  generalize socketReadLength n b = result at hlength ⊢
  cases hlength with
  | fits h =>
      have hroom := Nat.le_trans h hbefore
      exact Or.inr ⟨fun hfull => Nat.not_lt.mpr hroom hfull.1, b, rfl, h,
        hkeeps b hroom hb⟩
  | moves _ h =>
      have hroom := h
      rw [hmoved] at hroom
      exact Or.inr ⟨fun hfull => Nat.not_lt.mpr hroom hfull.1, _, rfl, h,
        hkeeps _ hroom (moveUnreadToBegin_represents hb)⟩
  | grows h =>
      have hvalid := moveUnreadToBegin_valid hb.valid
      have hnarrow := h.1
      have hsmall := h.2.2
      rw [hmoved] at hnarrow
      rw [hb.capacity_eq] at hsmall
      refine Or.inr ⟨fun hfull => Nat.not_lt.mpr hsmall hfull.2, _, rfl,
        grow_writableBytes hvalid h.1, ?_⟩
      unfold ByteQueue.enqueue
      rw [decide_eq_true hnarrow, List.append_nil]
      constructor
      · exact grow_valid hvalid n
      · exact (grow_unread hvalid n).trans
          (moveUnreadToBegin_represents hb).unread_eq
      · rw [if_pos rfl, grow_capacity h, hb.capacity_eq]
  | fails what hroom =>
      refine Or.inl ⟨⟨?_, ?_⟩, what, _, rfl, moveUnreadToBegin_represents hb⟩
      · rw [← hmoved]
        exact Nat.lt_of_not_le fun h => hroom (Or.inr (Or.inl h))
      · rw [← hb.capacity_eq]
        exact Nat.lt_of_not_le fun h => hroom (Or.inr (Or.inr h))

theorem matches_receive {b : FlatBuffer} {q : ByteQueue} (hb : Represents b q)
    (n : Nat) (bytes : { bytes : Bytes // bytes.length <= n }) :
    Matches (call (.receive n bytes) b) (q.receive n bytes.val) := by
  unfold ByteQueue.receive
  rcases socketReadLength_represents hb n with
    ⟨hfull, what, t, hlength, ht⟩ | ⟨hfull, t, hlength, hroom, ht⟩
  · have hcall : call (.receive n bytes) b = (none, t) := by
      unfold call
      rw [show perform (.receive n bytes) b = .error what t from
        bind_of_error hlength]
    rw [hcall, if_pos hfull]
    exact ⟨rfl, ht⟩
  · have hfits : bytes.val.length <= t.writableBytes :=
      Nat.le_trans bytes.property hroom
    rcases fill_advance ht.valid hfits with ⟨hvalid, happend⟩
    have hconsume : socketConsume bytes.val.length (t.fill bytes.val) =
        .ok () { t.fill bytes.val with
          writeIndex := t.writeIndex + bytes.val.length } :=
      if_neg (Nat.not_lt.mpr hfits)
    have hcall : call (.receive n bytes) b = (some .nothing,
        { t.fill bytes.val with
          writeIndex := t.writeIndex + bytes.val.length }) := by
      unfold call
      rw [show perform (.receive n bytes) b =
        EStateM.bind (socketConsume bytes.val.length) (fun _ => pure .nothing)
          (t.fill bytes.val) from bind_of_ok hlength]
      unfold EStateM.bind
      rw [hconsume]
      rfl
    rw [hcall, if_neg hfull]
    refine ⟨rfl, hvalid, ?_, ht.capacity_eq⟩
    rw [happend, ht.unread_eq]
    simp only [ByteQueue.enqueue, List.append_nil]

/-- Whatever the buffer's indexes, it does what its unread bytes say. -/
theorem refines_byteQueue : Refines Represents call ByteQueue.Allowed := by
  intro op b q hb
  have hmatch : forall grows, Matches (call op b) (q.perform grows op) ->
      exists q', ByteQueue.Allowed q op (call op b).1 q' ∧
        Represents (call op b).2 q' :=
    fun grows h => ⟨_, ⟨grows, Prod.ext h.1 rfl⟩, h.2⟩
  cases op with
  | write bytes =>
      refine hmatch (decide (b.writableBytes < bytes.length)) ⟨rfl, ?_⟩
      constructor
      · exact write_valid hb.valid bytes
      · rw [show (call (.write bytes) b).2 = b.write bytes from rfl,
          write_unread hb.valid, hb.unread_eq]
        rfl
      · rw [show (call (.write bytes) b).2 = b.write bytes from rfl,
          write_capacity, hb.capacity_eq]
        simp [ByteQueue.perform, ByteQueue.enqueue]
  | consumeOrFail len => exact hmatch false (matches_consumeOrFail hb len)
  | safeConsume len => exact hmatch false ⟨rfl, hb.safeConsume len⟩
  | reset =>
      exact hmatch false ⟨rfl, reset_valid hb.valid, reset_unread b, hb.capacity_eq⟩
  | peek width =>
      refine hmatch false ?_
      rw [call_peek hb]
      exact ⟨rfl, hb⟩
  | read width => exact hmatch false (matches_read hb width)
  | toString len => exact hmatch false (matches_toString hb len)
  | receive n bytes => exact hmatch false (matches_receive hb n bytes)

/-!
## Any number of buffers
-/

theorem copy_represents (kind : CopyKind) (b : FlatBuffer) {other : FlatBuffer}
    {q : ByteQueue} (h : Represents other q) : Represents (copy kind b other) q := by
  have hvalid := h.valid
  cases kind with
  | construct =>
      exact ⟨⟨hvalid.read_le_write, hvalid.write_le_capacity,
        hvalid.capacity_eq⟩, h.unread_eq, h.capacity_eq⟩
  | assign =>
      exact ⟨⟨hvalid.read_le_write, hvalid.write_le_capacity,
        hvalid.capacity_eq⟩, h.unread_eq, h.capacity_eq⟩

/-- A call that throws leaves the unread bytes as they are. -/
theorem call_throws {b b' : FlatBuffer} (hb : b.Valid) {op : BufferOp}
    (h : call op b = (none, b')) : b'.unread = b.unread := by
  have hself : Represents b ⟨b.unread, b.capacity⟩ := ⟨hb, rfl, rfl⟩
  rcases refines_byteQueue op b _ hself with ⟨q', ⟨grows, hallowed⟩, hq'⟩
  rw [h] at hallowed hq'
  rw [hq'.unread_eq, ByteQueue.perform_none hallowed.symm]

theorem peekInt_keeps {b : FlatBuffer} (hb : b.Valid) (width : IntWidth) :
    resultState (peekInt width b) = b := by
  rcases Nat.lt_or_ge b.unreadLength width.size with hlt | hle
  · rw [peekInt_of_lt hlt]
    rfl
  · rw [peekInt_of_le hb hle]
    rfl

/-- Buffers of any initial sizes, called and copied in any order. -/
theorem buffers_are_byteQueues {index : Type} [DecidableEq index]
    (sizes : index -> Nat) (ops : List (FamilyOp index BufferOp CopyKind)) :
    let reached := answers (familyStep call copy) ops
      fun i => create (sizes i)
    exists queues,
      AllowsAll (familyAllowed ByteQueue.Allowed) (fun i => ⟨[], sizes i⟩) ops
        reached.1 queues ∧
      (forall i, (reached.2 i).Valid ∧
        (reached.2 i).unread = (queues i).bytes ∧
          (reached.2 i).capacity = (queues i).capacity) ∧
      (forall i width,
        resultState (peekInt width (reached.2 i)) = reached.2 i) ∧
      forall i op b', call op (reached.2 i) = (none, b') ->
        b'.unread = (reached.2 i).unread := by
  have hstart : forall i : index,
      Represents (create (sizes i)) ⟨[], sizes i⟩ :=
    fun i => ⟨create_valid (sizes i), create_unread (sizes i), rfl⟩
  rcases (refines_byteQueue.family fun kind target _ _ h =>
      copy_represents kind target h).all ops hstart with
    ⟨queues, hallowed, hrelated⟩
  refine ⟨queues, hallowed, ?_, ?_, ?_⟩
  · intro i
    exact ⟨(hrelated i).valid, (hrelated i).unread_eq, (hrelated i).capacity_eq⟩
  · intro i width
    exact peekInt_keeps (hrelated i).valid width
  · intro i op b' hthrow
    exact call_throws (hrelated i).valid hthrow

/-- Two of the three bytes written are read, three more come from the socket, for
which the storage is enlarged, and a copy gives its bytes out. -/
def receiveOps : List (FamilyOp Nat BufferOp CopyKind) :=
  [.call 0 (.write [1, 2, 3]), .call 0 (.read .uint16),
    .call 0 (.receive 8 ⟨[4, 5, 6], Nat.le_add_right 3 5⟩), .copy .construct 1 0,
    .call 1 (.consumeOrFail 9), .call 1 (.toString 2)]

theorem buffers_are_byteQueues_receive :
    exists queues : Nat -> ByteQueue,
      AllowsAll (familyAllowed ByteQueue.Allowed) (fun _ => ⟨[], 4⟩) receiveOps
        [some (some .nothing), some (some (.number 258)), some (some .nothing),
          none, some none, some (some (.text [3, 4]))] queues ∧
      queues 0 = ⟨[3, 4, 5, 6], 16⟩ ∧ queues 1 = ⟨[5, 6], 16⟩ := by
  rcases buffers_are_byteQueues (fun _ : Nat => 4) receiveOps with
    ⟨queues, hallowed, hreached, _⟩
  refine ⟨queues, hallowed, ?_, ?_⟩
  · rcases hreached 0 with ⟨_, hbytes, hcapacity⟩
    cases hqueue : queues 0
    rw [hqueue] at hbytes hcapacity
    cases hbytes
    cases hcapacity
    rfl
  · rcases hreached 1 with ⟨_, hbytes, hcapacity⟩
    cases hqueue : queues 1
    rw [hqueue] at hbytes hcapacity
    cases hbytes
    cases hcapacity
    rfl

end FlatBuffer

end Network
end Streaming
