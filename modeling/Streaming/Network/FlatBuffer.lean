import Streaming.Foundation.Frame
import Streaming.Util.Bytes

/-!
# The flat buffer

`flat_buffer` is a byte array with a read and a write index.  The indexes are
kept as the class keeps them, so that snapshots, compaction and growth can be
followed; the bytes between them are the unread bytes.
-/

namespace Streaming
namespace Network

open Foundation Util

structure FlatBuffer where
  storage : Bytes
  capacity : Nat
  readIndex : Nat
  writeIndex : Nat
  capacityTemp : Nat := 0
  readIndexTemp : Nat := 0
  writeIndexTemp : Nat := 0
  deriving DecidableEq, Repr

/-- Copy bytes over the part of a byte array that starts at an offset. -/
def blit (mem : Bytes) (offset : Nat) (src : Bytes) : Bytes :=
  mem.take offset ++ src ++ mem.drop (offset + src.length)

/-- `new char[n]`.  The bytes are indeterminate in C++ and 0 here. -/
def newChars (n : Nat) : Bytes :=
  List.replicate n 0

namespace FlatBuffer

def kInitialSize : Nat := 1024

def create (initialSize : Nat := kInitialSize) : FlatBuffer where
  storage := newChars initialSize
  capacity := initialSize
  readIndex := 0
  writeIndex := 0

/-- The copy constructor, which leaves the snapshot behind. -/
def copyConstruct (other : FlatBuffer) : FlatBuffer where
  storage := other.storage
  capacity := other.capacity
  readIndex := other.readIndex
  writeIndex := other.writeIndex

/-- The copy `operator=`, which keeps the snapshot of the target. -/
def copyAssign (b other : FlatBuffer) : FlatBuffer :=
  { b with
    storage := other.storage
    capacity := other.capacity
    readIndex := other.readIndex
    writeIndex := other.writeIndex }

/-- The memory from the read index on, as `data()` points to it. -/
def data (b : FlatBuffer) : Bytes :=
  b.storage.drop b.readIndex

def unreadLength (b : FlatBuffer) : Nat :=
  b.writeIndex - b.readIndex

/-- The unread bytes themselves. -/
def unread (b : FlatBuffer) : Bytes :=
  b.data.take b.unreadLength

def writableBytes (b : FlatBuffer) : Nat :=
  b.capacity - b.writeIndex

/-- Move the unread bytes to the front of the storage. -/
def moveUnreadToBegin (b : FlatBuffer) : FlatBuffer :=
  { b with
    storage := blit b.storage 0 b.unread
    readIndex := 0
    writeIndex := b.unreadLength }

/-- Make room for `len` more bytes. -/
def grow (b : FlatBuffer) (len : Nat) : FlatBuffer :=
  if b.writableBytes < len then
    { b with
      storage := blit (newChars ((b.capacity <<< 1) + len)) 0 b.unread
      readIndex := 0
      writeIndex := b.unreadLength
      capacity := (b.capacity <<< 1) + len }
  else
    b.moveUnreadToBegin

def ensureWritableBytes (b : FlatBuffer) (n : Nat) : FlatBuffer :=
  if b.writableBytes < n then b.grow n else b

/-- Bytes stored at the write index, which is not moved. -/
def fill (b : FlatBuffer) (bytes : Bytes) : FlatBuffer :=
  { b with storage := blit b.storage b.writeIndex bytes }

def write (b : FlatBuffer) (bytes : Bytes) : FlatBuffer :=
  let b := (b.ensureWritableBytes bytes.length).fill bytes
  { b with writeIndex := b.writeIndex + bytes.length }

def reset (b : FlatBuffer) : FlatBuffer :=
  { b with readIndex := 0, writeIndex := 0 }

def safeConsume (b : FlatBuffer) (len : Nat) : FlatBuffer :=
  if len <= b.unreadLength then
    { b with readIndex := b.readIndex + len }
  else
    b.reset

def captureSnapshot (b : FlatBuffer) : FlatBuffer :=
  { b with
    capacityTemp := b.capacity
    readIndexTemp := b.readIndex
    writeIndexTemp := b.writeIndex }

def restoreSnapshot (b : FlatBuffer) : FlatBuffer :=
  { b with
    capacity := b.capacityTemp
    readIndex := b.readIndexTemp
    writeIndex := b.writeIndexTemp }

/-!
## Operations that throw
-/

def requireLengthOrFail (len : Nat) : EStateM String FlatBuffer Unit := fun b =>
  if len > b.unreadLength then
    .error s!"flat_buffer {b.unreadLength} does not contain the required length {len}" b
  else
    .ok () b

def consumeOrFail (len : Nat) : EStateM String FlatBuffer Unit := fun b =>
  if len <= b.unreadLength then
    .ok () { b with readIndex := b.readIndex + len }
  else
    .error s!"flat_buffer cannot consume {len} bytes, unread length = {b.unreadLength}" b

def peekUint8 : EStateM String FlatBuffer Nat := fun b =>
  if b.unreadLength < 1 then .error "not enough data" b
  else .ok (byteAt b.data 0) b

def readUint8 : EStateM String FlatBuffer Nat := do
  let x <- peekUint8
  consumeOrFail 1
  return x

def peekUint16 : EStateM String FlatBuffer Nat := fun b =>
  if b.unreadLength < 2 then .error "not enough data" b
  else .ok (loadBe16 b.data) b

def readUint16 : EStateM String FlatBuffer Nat := do
  let x <- peekUint16
  consumeOrFail 2
  return x

def peekUint32 : EStateM String FlatBuffer Nat := fun b =>
  if b.unreadLength < 4 then .error "not enough data" b
  else .ok (loadBe32 b.data) b

def readUint32 : EStateM String FlatBuffer Nat := do
  let x <- peekUint32
  consumeOrFail 4
  return x

def unreadBytes (b : FlatBuffer) (len : Nat) : FlatBuffer :=
  { b with readIndex := if len > b.readIndex then 0 else b.readIndex - len }

/-- The read index is moved and moved back. -/
def peekUint64 : EStateM String FlatBuffer Nat := do
  if (<- get).unreadLength < 8 then
    throw "not enough data"
  let first <- peekUint32
  consumeOrFail 4
  let second <- peekUint32
  modify fun b => b.unreadBytes 4
  return (first <<< 32) ||| second

def readUint64 : EStateM String FlatBuffer Nat := do
  let x <- peekUint64
  consumeOrFail 8
  return x

/-- `to_string`, which reads a string of the given length. -/
def readString (len : Nat) : EStateM String FlatBuffer Bytes := fun b =>
  if len > b.unreadLength then .error "not enough data" b
  else (do consumeOrFail len; return b.data.take len) b

/-- `kMaxCacheSize` of `socket_read_length`. -/
def kMaxCacheSize : Nat := 4 * 1024 * 1024

/-- Make room for the next read of a session. -/
def socketReadLength (n : Nat) : EStateM String FlatBuffer Nat := fun b =>
  if n <= b.writableBytes then .ok n b
  else
    let b := b.moveUnreadToBegin
    if n <= b.writableBytes then .ok n b
    else if b.capacity > kMaxCacheSize then
      .error "session read buffer has reached limit, client is sending too much data" b
    else .ok n (b.grow n)

def socketConsume (n : Nat) : EStateM String FlatBuffer Unit := fun b =>
  if n > b.writableBytes then .error "session write_index is out of range" b
  else .ok () { b with writeIndex := b.writeIndex + n }

/-!
## Well-formed buffers
-/

/-- The indexes are in order and stay inside the storage. -/
structure Valid (b : FlatBuffer) : Prop where
  read_le_write : b.readIndex <= b.writeIndex
  write_le_capacity : b.writeIndex <= b.capacity
  capacity_eq : b.capacity = b.storage.length

theorem create_valid (n : Nat) : (create n).Valid :=
  ⟨Nat.le_refl 0, Nat.zero_le n, by simp [create, newChars]⟩

@[simp] theorem create_unread (n : Nat) : (create n).unread = [] := by
  simp [create, unread, unreadLength]

theorem Valid.unread_length {b : FlatBuffer} (hb : b.Valid) :
    b.unread.length = b.unreadLength := by
  have h1 := hb.read_le_write
  have h2 := hb.write_le_capacity
  have h3 := hb.capacity_eq
  simp only [unread, data, unreadLength, List.length_take, List.length_drop]
  omega

end FlatBuffer

/-!
## Copying into storage
-/

theorem blit_length {mem src : Bytes} {offset : Nat}
    (hroom : offset + src.length <= mem.length) :
    (blit mem offset src).length = mem.length := by
  simp only [blit, List.length_append, List.length_take, List.length_drop]
  omega

theorem take_blit_front {mem src : Bytes} {n : Nat} (hn : src.length = n) :
    (blit mem 0 src).take n = src := by
  simp [blit, ← hn]

/-- A copy to the write index appends to the bytes before it. -/
theorem take_drop_blit {mem src : Bytes} {r w : Nat} (hrw : r <= w)
    (hroom : w + src.length <= mem.length) :
    ((blit mem w src).drop r).take (w + src.length - r) =
      (mem.drop r).take (w - r) ++ src := by
  have htake : (mem.take w ++ src).length = w + src.length := by
    simp only [List.length_append, List.length_take]
    omega
  have hfront : (blit mem w src).take (w + src.length) = mem.take w ++ src := by
    rw [blit, List.take_append_of_le_length (by omega), ← htake,
      List.take_length]
  rw [← List.drop_take, hfront, ← List.drop_take,
    List.drop_append_of_le_length]
  simp only [List.length_take]
  omega

namespace FlatBuffer

theorem moveUnreadToBegin_valid {b : FlatBuffer} (hb : b.Valid) :
    b.moveUnreadToBegin.Valid := by
  have h1 := hb.read_le_write
  have h2 := hb.write_le_capacity
  have h3 := hb.capacity_eq
  have hlen := hb.unread_length
  refine ⟨Nat.zero_le _, ?_, ?_⟩
  · simp only [moveUnreadToBegin, unreadLength]
    omega
  · simp only [moveUnreadToBegin]
    rw [blit_length (by simp only [unreadLength] at hlen; omega)]
    exact h3

theorem moveUnreadToBegin_unread {b : FlatBuffer} (hb : b.Valid) :
    b.moveUnreadToBegin.unread = b.unread :=
  take_blit_front hb.unread_length

theorem grow_valid {b : FlatBuffer} (hb : b.Valid) (len : Nat) :
    (b.grow len).Valid := by
  have h1 := hb.read_le_write
  have h2 := hb.write_le_capacity
  have hlen := hb.unread_length
  unfold grow
  split
  · refine ⟨Nat.zero_le _, ?_, ?_⟩
    · simp only [unreadLength, Nat.shiftLeft_eq]
      omega
    · simp only
      rw [blit_length]
      · simp [newChars]
      · simp only [newChars, List.length_replicate, hlen, unreadLength,
          Nat.shiftLeft_eq]
        omega
  · exact moveUnreadToBegin_valid hb

theorem grow_unread {b : FlatBuffer} (hb : b.Valid) (len : Nat) :
    (b.grow len).unread = b.unread := by
  unfold grow
  split
  · exact take_blit_front hb.unread_length
  · exact moveUnreadToBegin_unread hb

theorem grow_writableBytes {b : FlatBuffer} (hb : b.Valid) {len : Nat}
    (hfull : b.writableBytes < len) : len <= (b.grow len).writableBytes := by
  have h1 := hb.read_le_write
  have h2 := hb.write_le_capacity
  unfold grow
  rw [if_pos hfull]
  simp only [writableBytes, unreadLength, Nat.shiftLeft_eq]
  omega

/-- Storing bytes that fit and moving the write index appends them. -/
theorem fill_advance {b : FlatBuffer} (hb : b.Valid) {bytes : Bytes}
    (hroom : bytes.length <= b.writableBytes) :
    let b' := { b.fill bytes with writeIndex := b.writeIndex + bytes.length }
    b'.Valid ∧ b'.unread = b.unread ++ bytes := by
  have h1 := hb.read_le_write
  have h2 := hb.write_le_capacity
  have h3 := hb.capacity_eq
  simp only [writableBytes] at hroom
  refine ⟨⟨?_, ?_, ?_⟩, ?_⟩
  · simp only [fill]
    omega
  · simp only [fill]
    omega
  · simp only [fill]
    rw [blit_length (by omega), h3]
  · exact take_drop_blit h1 (by omega)

theorem ensureWritableBytes_spec {b : FlatBuffer} (hb : b.Valid) (n : Nat) :
    (b.ensureWritableBytes n).Valid ∧
      (b.ensureWritableBytes n).unread = b.unread ∧
      n <= (b.ensureWritableBytes n).writableBytes := by
  unfold ensureWritableBytes
  split
  · rename_i hfull
    exact ⟨grow_valid hb n, grow_unread hb n, grow_writableBytes hb hfull⟩
  · exact ⟨hb, rfl, by omega⟩

theorem write_valid {b : FlatBuffer} (hb : b.Valid) (bytes : Bytes) :
    (b.write bytes).Valid := by
  obtain ⟨hvalid, _, hroom⟩ := ensureWritableBytes_spec hb bytes.length
  exact (fill_advance hvalid hroom).1

theorem write_unread {b : FlatBuffer} (hb : b.Valid) (bytes : Bytes) :
    (b.write bytes).unread = b.unread ++ bytes := by
  obtain ⟨hvalid, hsame, hroom⟩ := ensureWritableBytes_spec hb bytes.length
  rw [← hsame]
  exact (fill_advance hvalid hroom).2

theorem safeConsume_valid {b : FlatBuffer} (hb : b.Valid) (len : Nat) :
    (b.safeConsume len).Valid := by
  have h1 := hb.read_le_write
  have h2 := hb.write_le_capacity
  have h3 := hb.capacity_eq
  unfold safeConsume
  split
  · rename_i hle
    simp only [unreadLength] at hle
    exact ⟨by simp only; omega, h2, h3⟩
  · exact ⟨Nat.le_refl 0, Nat.zero_le _, h3⟩

/-- Consuming never takes writable bytes away. -/
theorem safeConsume_writableBytes (b : FlatBuffer) (len : Nat) :
    b.writableBytes <= (b.safeConsume len).writableBytes := by
  unfold safeConsume
  split
  · exact Nat.le_refl _
  · simp only [writableBytes, reset]
    omega

theorem safeConsume_unread {b : FlatBuffer} {len : Nat}
    (hle : len <= b.unreadLength) :
    (b.safeConsume len).unread = b.unread.drop len := by
  unfold safeConsume
  rw [if_pos hle]
  simp only [unread, data, unreadLength, List.drop_take, List.drop_drop]
  congr 1
  omega

theorem reset_valid {b : FlatBuffer} (hb : b.Valid) : b.reset.Valid :=
  ⟨Nat.le_refl 0, Nat.zero_le _, hb.capacity_eq⟩

theorem reset_unread (b : FlatBuffer) : b.reset.unread = [] := by
  simp [reset, unread, unreadLength]

theorem requireLengthOrFail_ok {len : Nat} {b b' : FlatBuffer} {u : Unit}
    (h : requireLengthOrFail len b = .ok u b') :
    b' = b ∧ len <= b.unreadLength := by
  unfold requireLengthOrFail at h
  split at h
  · cases h
  · rename_i hle
    cases h
    exact ⟨rfl, Nat.not_lt.mp hle⟩

theorem consumeOrFail_of_le {b : FlatBuffer} {len : Nat}
    (h : len <= b.unreadLength) :
    consumeOrFail len b = .ok () (b.safeConsume len) := by
  unfold consumeOrFail safeConsume
  rw [if_pos h, if_pos h]

theorem consumeOrFail_ok {len : Nat} {b b' : FlatBuffer} {u : Unit}
    (h : consumeOrFail len b = .ok u b') :
    b' = b.safeConsume len ∧ len <= b.unreadLength := by
  unfold consumeOrFail at h
  split at h
  · rename_i hle
    cases h
    exact ⟨(if_pos hle).symm, hle⟩
  · cases h

/-- A buffer that holds just the bytes. -/
def ofBytes (bytes : Bytes) : FlatBuffer :=
  (create bytes.length).write bytes

theorem ofBytes_valid (bytes : Bytes) : (ofBytes bytes).Valid :=
  write_valid (create_valid _) bytes

@[simp] theorem ofBytes_unread (bytes : Bytes) :
    (ofBytes bytes).unread = bytes := by
  rw [ofBytes, write_unread (create_valid _), create_unread, List.nil_append]

theorem socketReadLength_spec {b b' : FlatBuffer} (hb : b.Valid) {n m : Nat}
    (h : socketReadLength n b = .ok m b') :
    m = n ∧ b'.Valid ∧ b'.unread = b.unread ∧ n <= b'.writableBytes := by
  have hmoveValid := moveUnreadToBegin_valid hb
  have hmoveUnread := moveUnreadToBegin_unread hb
  simp only [socketReadLength] at h
  split at h
  · cases h
    exact ⟨rfl, hb, rfl, by assumption⟩
  · split at h
    · cases h
      exact ⟨rfl, hmoveValid, hmoveUnread, by assumption⟩
    · split at h
      · cases h
      · cases h
        exact ⟨rfl, grow_valid hmoveValid n,
          (grow_unread hmoveValid n).trans hmoveUnread,
          grow_writableBytes hmoveValid (by omega)⟩

/-- The buffer has room for a read, or may still grow to make some. -/
def RoomFor (b : FlatBuffer) (n : Nat) : Prop :=
  n <= b.writableBytes ∨ n <= b.moveUnreadToBegin.writableBytes ∨
    b.capacity <= kMaxCacheSize

theorem socketReadLength_ok {b : FlatBuffer} {n : Nat} (h : b.RoomFor n) :
    exists b', socketReadLength n b = .ok n b' := by
  unfold socketReadLength
  by_cases hfits : n <= b.writableBytes
  · exact ⟨b, if_pos hfits⟩
  · rw [if_neg hfits]
    by_cases hmoved : n <= b.moveUnreadToBegin.writableBytes
    · exact ⟨_, if_pos hmoved⟩
    · have hcapacity : ¬ b.moveUnreadToBegin.capacity > kMaxCacheSize :=
        Nat.not_lt.mpr ((h.resolve_left hfits).resolve_left hmoved)
      refine ⟨b.moveUnreadToBegin.grow n, ?_⟩
      simp only [if_neg hmoved, if_neg hcapacity]

/-- `socket_read_length` comes to its `grow`. -/
def GrowsFor (b : FlatBuffer) (n : Nat) : Prop :=
  b.moveUnreadToBegin.writableBytes < n ∧ b.writableBytes < n ∧
    b.capacity <= kMaxCacheSize

instance (b : FlatBuffer) (n : Nat) : Decidable (b.GrowsFor n) :=
  inferInstanceAs (Decidable (_ ∧ _))

/-- The four ways through `socket_read_length`. -/
inductive ReadLength (b : FlatBuffer) (n : Nat) :
    EStateM.Result String FlatBuffer Nat -> Prop where
  | fits (h : n <= b.writableBytes) : ReadLength b n (.ok n b)
  | moves (hfull : b.writableBytes < n)
      (h : n <= b.moveUnreadToBegin.writableBytes) :
      ReadLength b n (.ok n b.moveUnreadToBegin)
  | grows (h : b.GrowsFor n) : ReadLength b n (.ok n (b.moveUnreadToBegin.grow n))
  | fails (what : String) (hroom : ¬ b.RoomFor n) :
      ReadLength b n (.error what b.moveUnreadToBegin)

theorem readLength (b : FlatBuffer) (n : Nat) :
    ReadLength b n (FlatBuffer.socketReadLength n b) := by
  simp only [FlatBuffer.socketReadLength]
  split
  · exact ReadLength.fits (by assumption)
  · rename_i hfull
    split
    · exact ReadLength.moves (Nat.not_le.mp hfull) (by assumption)
    · rename_i hmoved
      split
      · rename_i hlarge
        apply ReadLength.fails
        rintro (hfits | hfits | hsmall)
        · exact hfull hfits
        · exact hmoved hfits
        · exact Nat.not_le.mpr hlarge hsmall
      · rename_i hsmall
        exact ReadLength.grows ⟨Nat.not_le.mp hmoved, Nat.not_le.mp hfull,
          Nat.not_lt.mp hsmall⟩

theorem grow_capacity {b : FlatBuffer} {n : Nat} (h : b.GrowsFor n) :
    (b.moveUnreadToBegin.grow n).capacity = 2 * b.capacity + n := by
  unfold grow
  rw [if_pos h.1]
  simp only [moveUnreadToBegin, Nat.shiftLeft_eq]
  omega

/-!
## Looking at what is unread
-/

theorem peekUint32_of_le {b : FlatBuffer} (h : 4 <= b.unreadLength) :
    peekUint32 b = .ok (loadBe32 b.data) b :=
  if_neg (Nat.not_lt.mpr h)

theorem consumeOrFail_unreadLength {len : Nat} {b b' : FlatBuffer} {u : Unit}
    (h : consumeOrFail len b = .ok u b') :
    b'.unreadLength = b.unreadLength - len := by
  unfold consumeOrFail at h
  split at h
  · cases h
    exact Nat.sub_add_eq b.writeIndex b.readIndex len
  · cases h

theorem safeConsume_data {b : FlatBuffer} {len : Nat}
    (h : len <= b.unreadLength) :
    (b.safeConsume len).data = b.data.drop len := by
  unfold safeConsume
  rw [if_pos h, data, data, List.drop_drop]

/-- What has been consumed can be brought back. -/
theorem unreadBytes_safeConsume {b : FlatBuffer} {len : Nat}
    (h : len <= b.unreadLength) : (b.safeConsume len).unreadBytes len = b := by
  unfold safeConsume unreadBytes
  rw [if_pos h]
  dsimp only
  rw [if_neg (by omega), Nat.add_sub_cancel]

/-- Between the two halves the read index is moved, and then moved back. -/
theorem peekUint64_of_le {b : FlatBuffer} (h : 8 <= b.unreadLength) :
    peekUint64 b =
      .ok ((loadBe32 b.data <<< 32) ||| loadBe32 (b.data.drop 4)) b := by
  have hhalf : 4 <= b.unreadLength := by omega
  have hrest : 4 <= (b.safeConsume 4).unreadLength := by
    rw [consumeOrFail_unreadLength (consumeOrFail_of_le hhalf)]
    omega
  unfold peekUint64
  rw [get_bind, if_neg (Nat.not_lt.mpr h)]
  beta_reduce
  rw [bind_of_ok (peekUint32_of_le hhalf),
    bind_of_ok (consumeOrFail_of_le hhalf),
    bind_of_ok (peekUint32_of_le hrest), safeConsume_data hhalf]
  change EStateM.Result.ok _ ((b.safeConsume 4).unreadBytes 4) = _
  rw [unreadBytes_safeConsume hhalf]

theorem peekUint64_of_lt {b : FlatBuffer} (h : b.unreadLength < 8) :
    peekUint64 b = .error "not enough data" b := by
  unfold peekUint64
  rw [get_bind, if_pos h]
  rfl

/-- What is unread is at the front of `data`. -/
theorem exists_data_eq {b : FlatBuffer} {front back : Bytes}
    (h : b.unread = front ++ back) : exists more, b.data = front ++ more := by
  have hsplit : b.unread ++ b.data.drop b.unreadLength = b.data :=
    List.take_append_drop b.unreadLength b.data
  refine ⟨back ++ b.data.drop b.unreadLength, ?_⟩
  rw [← List.append_assoc, ← h]
  exact hsplit.symm

theorem Valid.length_le {b : FlatBuffer} (hb : b.Valid) {front back : Bytes}
    (h : b.unread = front ++ back) : front.length <= b.unreadLength := by
  rw [← hb.unread_length, h, List.length_append]
  exact Nat.le_add_right _ _

theorem loadBe32_data {b : FlatBuffer} (hlen : 4 <= b.unread.length) :
    loadBe32 b.data = loadBe32 b.unread := by
  have hsplit : b.unread ++ b.data.drop b.unreadLength = b.data :=
    List.take_append_drop b.unreadLength b.data
  rw [← hsplit]
  exact loadBe32_append_left _ hlen

/-!
## What reading leaves alone
-/

/-- Nothing but the read index may have moved. -/
def OnlyRead (b b' : FlatBuffer) : Prop :=
  b' = { b with readIndex := b'.readIndex }

instance : Std.Refl OnlyRead where
  refl _ := rfl

instance : IsTrans FlatBuffer OnlyRead where
  trans b b' b'' h h' := by
    unfold OnlyRead at h h' ⊢
    rw [h', h]

theorem requireLengthOrFail_onlyRead (len : Nat) :
    Keeps OnlyRead (requireLengthOrFail len) := by
  intro b u b' h
  unfold requireLengthOrFail at h
  split at h
  · cases h
  · cases h
    exact Std.Refl.refl b

theorem consumeOrFail_onlyRead (len : Nat) :
    Keeps OnlyRead (consumeOrFail len) := by
  intro b u b' h
  unfold consumeOrFail at h
  split at h
  · cases h
    rfl
  · cases h

theorem readUint16_onlyRead : Keeps OnlyRead readUint16 := by
  apply Keeps.bind
  · intro b u b' h
    unfold peekUint16 at h
    split at h
    · cases h
    · cases h
      exact Std.Refl.refl b
  · intro x
    exact (consumeOrFail_onlyRead 2).bind fun _ => Keeps.pure x

theorem readUint32_onlyRead : Keeps OnlyRead readUint32 := by
  apply Keeps.bind
  · intro b u b' h
    unfold peekUint32 at h
    split at h
    · cases h
    · cases h
      exact Std.Refl.refl b
  · intro x
    exact (consumeOrFail_onlyRead 4).bind fun _ => Keeps.pure x

/-- Whatever has been read since, the snapshot brings the buffer back. -/
theorem restoreSnapshot_of_onlyRead {b b' : FlatBuffer}
    (h : OnlyRead b.captureSnapshot b') :
    b'.restoreSnapshot = b.captureSnapshot := by
  rw [h]
  rfl

end FlatBuffer

end Network
end Streaming
