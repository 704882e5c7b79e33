import Streaming.Foundation.Checked
import Streaming.Network.ByteQueue

/-!
# Reads of the flat buffer, checked

Every load through `data()` is checked against what is unread.  The copies of
the readers, which check, and the readers themselves do the same, so that no
load goes past the write index.
-/

namespace Streaming
namespace Network

open Foundation Util

namespace FlatBuffer

abbrev CheckedRead := EStateM (Stop String) FlatBuffer

/-- Load the first `n` bytes, all of which must be unread. -/
def loadFront (n : Nat) : CheckedRead Bytes := fun b =>
  match loadAt b.unread 0 n with
  | some bytes => .ok bytes b
  | none => .error .outside b

/-- The peeks that make one load. -/
def checkedPeek (n : Nat) (decode : Bytes -> Nat) : CheckedRead Nat := do
  if (<- get).unreadLength < n then
    throw (.threw "not enough data")
  else
    return decode (<- loadFront n)

def checkedPeekUint8 : CheckedRead Nat :=
  checkedPeek 1 (byteAt · 0)

def checkedPeekUint16 : CheckedRead Nat :=
  checkedPeek 2 loadBe16

def checkedPeekUint32 : CheckedRead Nat :=
  checkedPeek 4 loadBe32

def checkedPeekUint64 : CheckedRead Nat := do
  if (<- get).unreadLength < 8 then
    throw (.threw "not enough data")
  else
    let first <- checkedPeekUint32
    loadsNothing (consumeOrFail 4)
    let second <- checkedPeekUint32
    modify fun b => b.unreadBytes 4
    return (first <<< 32) ||| second

/-- Look at an integer and step over it. -/
def checkedReadInt (n : Nat) (peek : CheckedRead Nat) : CheckedRead Nat := do
  let x <- peek
  loadsNothing (consumeOrFail n)
  return x

def checkedReadUint8 : CheckedRead Nat :=
  checkedReadInt 1 checkedPeekUint8

def checkedReadUint16 : CheckedRead Nat :=
  checkedReadInt 2 checkedPeekUint16

def checkedReadUint64 : CheckedRead Nat :=
  checkedReadInt 8 checkedPeekUint64

def checkedReadString (len : Nat) : CheckedRead Bytes := do
  if len > (<- get).unreadLength then
    throw (.threw "not enough data")
  else
    let s <- loadFront len
    loadsNothing (consumeOrFail len)
    return s

/-!
## The loads are of unread bytes
-/

/-- A well-formed buffer with the end of the payload still to be read. -/
structure Inside (payload : Bytes) (b : FlatBuffer) : Prop where
  valid : b.Valid
  suffix : b.unread <:+ payload

variable {payload : Bytes}

theorem Valid.inside {b : FlatBuffer} (hb : b.Valid) : Inside b.unread b :=
  ⟨hb, List.suffix_rfl⟩

theorem Inside.safeConsume {b : FlatBuffer} (hb : Inside payload b)
    (len : Nat) : Inside payload (b.safeConsume len) := by
  constructor
  · exact safeConsume_valid hb.valid len
  · rw [safeConsume_unread_drop hb.valid]
    exact (List.drop_suffix len b.unread).trans hb.suffix

theorem inside_consumeOrFail (len : Nat) (b : FlatBuffer)
    (hb : Inside payload b) :
    Inside payload (resultState (consumeOrFail len b)) := by
  rcases Nat.lt_or_ge b.unreadLength len with hlt | hle
  · unfold consumeOrFail
    rw [if_neg (Nat.not_le.mpr hlt)]
    exact hb
  · rw [consumeOrFail_of_le hle]
    exact hb.safeConsume len

theorem checkedConsume_of_le {b : FlatBuffer} {len : Nat}
    (h : len <= b.unreadLength) :
    loadsNothing (consumeOrFail len) b = .ok () (b.safeConsume len) := by
  unfold loadsNothing
  rw [consumeOrFail_of_le h]
  rfl

theorem loadFront_of_le {b : FlatBuffer} (hb : b.Valid) {n : Nat}
    (h : n <= b.unreadLength) : loadFront n b = .ok (b.data.take n) b := by
  have hlength := hb.unread_length
  unfold loadFront
  rw [loadAt_eq (by omega), List.drop_zero, ← take_unread h]

theorem checkedPeek_of_le {b : FlatBuffer} (hb : b.Valid) {n : Nat}
    (h : n <= b.unreadLength) (decode : Bytes -> Nat) :
    checkedPeek n decode b = .ok (decode (b.data.take n)) b := by
  unfold checkedPeek
  rw [get_bind, if_neg (Nat.not_lt.mpr h),
    bind_of_ok (loadFront_of_le hb h)]
  rfl

theorem checkedPeek_of_lt {b : FlatBuffer} {n : Nat} (h : b.unreadLength < n)
    (decode : Bytes -> Nat) :
    checkedPeek n decode b = .error (.threw "not enough data") b := by
  unfold checkedPeek
  rw [get_bind, if_pos h]
  rfl

/-- A peek that decodes no more than it has checked. -/
theorem mirrors_peek {n : Nat} {decode : Bytes -> Nat}
    (hdecode : forall data, decode (data.take n) = decode data) :
    Mirrors (Inside payload)
      (fun b => if b.unreadLength < n then .error "not enough data" b
        else .ok (decode b.data) b)
      (checkedPeek n decode) := by
  intro b hb
  beta_reduce
  rcases Nat.lt_or_ge b.unreadLength n with hlt | hle
  · rw [if_pos hlt, checkedPeek_of_lt hlt]
    exact ⟨rfl, hb⟩
  · rw [if_neg (Nat.not_lt.mpr hle), checkedPeek_of_le hb.valid hle, hdecode]
    exact ⟨rfl, hb⟩

theorem mirrors_peekUint8 :
    Mirrors (Inside payload) peekUint8 checkedPeekUint8 :=
  mirrors_peek fun _ => byteAt_take (by decide)

theorem mirrors_peekUint16 :
    Mirrors (Inside payload) peekUint16 checkedPeekUint16 :=
  mirrors_peek fun data => by
    unfold loadBe16
    rw [byteAt_take (by decide), byteAt_take (by decide)]

/-- The second half is looked at from behind the first, and the buffer is back
where it was before anything else is read. -/
theorem mirrors_peekUint64 :
    Mirrors (Inside payload) peekUint64 checkedPeekUint64 := by
  intro b hb
  unfold checkedPeekUint64
  rw [get_bind]
  rcases Nat.lt_or_ge b.unreadLength 8 with hlt | hle
  · rw [if_pos hlt, peekUint64_of_lt hlt]
    exact ⟨rfl, hb⟩
  · have hhalf : 4 <= b.unreadLength := by omega
    have hrest : 4 <= (b.safeConsume 4).unreadLength := by
      rw [safeConsume_unreadLength hb.valid hhalf]
      omega
    unfold checkedPeekUint32
    rw [if_neg (Nat.not_lt.mpr hle),
      bind_of_ok (checkedPeek_of_le hb.valid hhalf loadBe32),
      bind_of_ok (checkedConsume_of_le hhalf),
      bind_of_ok (checkedPeek_of_le (safeConsume_valid hb.valid 4) hrest
        loadBe32), loadBe32_take, loadBe32_take, safeConsume_data hhalf,
      peekUint64_of_le hle]
    constructor
    · change EStateM.Result.ok _ ((b.safeConsume 4).unreadBytes 4) = _
      rw [unreadBytes_safeConsume hhalf]
      rfl
    · exact hb

theorem mirrors_readInt {n : Nat} {peek : EStateM String FlatBuffer Nat}
    {peek' : CheckedRead Nat} (hpeek : Mirrors (Inside payload) peek peek') :
    Mirrors (Inside payload)
      (do let x <- peek; consumeOrFail n; return x)
      (checkedReadInt n peek') :=
  hpeek.bind fun x =>
    (Mirrors.loadsNothing (inside_consumeOrFail n)).bind fun _ =>
      Mirrors.pure x

theorem mirrors_readUint8 :
    Mirrors (Inside payload) readUint8 checkedReadUint8 :=
  mirrors_readInt mirrors_peekUint8

theorem mirrors_readUint16 :
    Mirrors (Inside payload) readUint16 checkedReadUint16 :=
  mirrors_readInt mirrors_peekUint16

theorem mirrors_readUint64 :
    Mirrors (Inside payload) readUint64 checkedReadUint64 :=
  mirrors_readInt mirrors_peekUint64

theorem mirrors_readString (len : Nat) :
    Mirrors (Inside payload) (readString len) (checkedReadString len) := by
  intro b hb
  unfold checkedReadString
  rw [get_bind]
  rcases Nat.lt_or_ge b.unreadLength len with hlt | hle
  · unfold readString
    rw [if_pos hlt, if_pos hlt]
    exact ⟨rfl, hb⟩
  · rw [if_neg (Nat.not_lt.mpr hle), bind_of_ok (loadFront_of_le hb.valid hle),
      bind_of_ok (checkedConsume_of_le hle), readString_of_le hle, take_unread hle]
    exact ⟨rfl, hb.safeConsume len⟩

/-!
## What has been read
-/

/-- The bytes of an integer, and what is behind them. -/
theorem readInt_unread (width : IntWidth) {b b' : FlatBuffer} (hb : b.Valid)
    {x : Nat} (h : readInt width b = .ok x b') :
    b.unread = bigEndian width.size x ++ b'.unread := by
  rcases Nat.lt_or_ge b.unreadLength width.size with hlt | hle
  · rw [readInt_of_lt hlt] at h
    cases h
  · have hlength : (b.unread.take width.size).length = width.size := by
      rw [List.length_take, hb.unread_length, Nat.min_eq_left hle]
    have hbytes := bigEndian_bigEndianValue (b.unread.take width.size)
    rw [hlength] at hbytes
    rw [readInt_of_le hb hle] at h
    cases h
    rw [hbytes, safeConsume_unread hle, List.take_append_drop]

theorem readString_unread {len : Nat} {b b' : FlatBuffer} {s : Bytes}
    (h : readString len b = .ok s b') : b.unread = s ++ b'.unread := by
  rcases Nat.lt_or_ge b.unreadLength len with hlt | hle
  · unfold readString at h
    rw [if_pos hlt] at h
    cases h
  · rw [readString_of_le hle] at h
    cases h
    rw [safeConsume_unread hle, List.take_append_drop]

end FlatBuffer

end Network
end Streaming
