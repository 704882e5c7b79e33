import Streaming.Foundation.Run
import Streaming.Network.Session

/-!
# Where a read stores its bytes

`do_read` passes the write position of the buffer and the length of the read
in one call, and C++ may evaluate either argument first.  The length makes room
for the read, so that the position may be that of a moment before.
-/

namespace Streaming
namespace Network

open Foundation Util

/-- The argument of `boost::asio::buffer` that is evaluated first. -/
inductive FirstArgument where
  | writeBegin
  | socketReadLength
  deriving DecidableEq, Repr

theorem FirstArgument.socketReadLength_of_ne (first : FirstArgument)
    (h : first ≠ writeBegin) : first = socketReadLength := by
  cases first with
  | writeBegin => exact absurd rfl h
  | socketReadLength => rfl

/-- A pointer into the storage of the buffer.  Every `new char[]` gives a
storage with a number of its own. -/
structure Destination where
  allocation : Nat
  offset : Nat
  deriving DecidableEq, Repr

/-- The buffer of a session and the read that is pending. -/
structure Reader where
  buffer : FlatBuffer := FlatBuffer.create kMaxBufferCacheSize
  allocation : Nat := 0
  destination : Option Destination := none
  deriving DecidableEq, Repr

inductive ReaderEvent where
  | doRead (first : FirstArgument)
  /-- The read completes, and its handler calls `socket_consume`. -/
  | received (bytes : Bytes)
  /-- `on_recv` takes bytes from the buffer. -/
  | consume (len : Nat)

namespace FlatBuffer

/-- Moving nothing makes no room. -/
theorem readIndex_pos_of_moves {b : FlatBuffer} {n : Nat}
    (hfull : b.writableBytes < n)
    (h : n <= b.moveUnreadToBegin.writableBytes) : 0 < b.readIndex := by
  simp only [writableBytes, moveUnreadToBegin, unreadLength] at hfull h
  omega

end FlatBuffer

namespace Reader

/-- `write_begin()` -/
def writeBegin (r : Reader) : Destination :=
  { allocation := r.allocation, offset := r.buffer.writeIndex }

/-- `socket_read_length`, with the storage that the buffer has then. -/
def socketReadLength (r : Reader) : EStateM.Result String Reader Nat :=
  let allocation :=
    if r.buffer.GrowsFor kSocketReadSize then r.allocation + 1
    else r.allocation
  match FlatBuffer.socketReadLength kSocketReadSize r.buffer with
  | .ok n buffer => .ok n { r with buffer := buffer, allocation := allocation }
  | .error what buffer => .error what { r with buffer := buffer }

/-- `session::do_read` on an open socket.  When `socket_read_length` throws, no
read is started. -/
def doRead (r : Reader) (first : FirstArgument) : Reader :=
  let before := r.writeBegin
  match r.socketReadLength with
  | .ok _ r =>
      match first with
      | .writeBegin => { r with destination := some before }
      | .socketReadLength => { r with destination := some r.writeBegin }
  | .error _ r => r

/-- The socket stores bytes.  What goes to a storage that is gone, or behind the
end of the storage, is not seen in the buffer. -/
def store (r : Reader) (destination : Destination) (bytes : Bytes) : FlatBuffer :=
  if destination.allocation = r.allocation then
    { r.buffer with
      storage := (blit r.buffer.storage destination.offset bytes).take
        r.buffer.storage.length }
  else
    r.buffer

def step (r : Reader) : ReaderEvent -> Option Reader
  | .doRead first => if r.destination = none then some (r.doRead first) else none
  | .received bytes =>
      match r.destination with
      | none => none
      | some destination =>
          if bytes.length <= kSocketReadSize then
            match FlatBuffer.socketConsume bytes.length
                (r.store destination bytes) with
            | .ok _ buffer =>
                some { r with buffer := buffer, destination := none }
            | .error _ buffer =>
                some { r with buffer := buffer, destination := none }
          else none
  | .consume len =>
      if r.destination = none then
        some { r with buffer := r.buffer.safeConsume len }
      else none

/-- The most that a buffer can grow to. -/
def maxCapacity : Nat := 8 * 1024 * 1024 + 4096

/-- A pending read goes to the write position, where there is room for it; what
it receives is behind everything that is unread; and the capacity is bounded. -/
structure Right (r : Reader) : Prop where
  lands : forall destination, r.destination = some destination ->
    destination = r.writeBegin ∧ kSocketReadSize <= r.buffer.writableBytes
  arrives : forall bytes r', r.step (.received bytes) = some r' ->
    r'.buffer.unread = r.buffer.unread ++ bytes
  bounded : r.buffer.capacity <= maxCapacity

/-- The length comes first, or nothing is moved for it, or it throws. -/
def Careful (r : Reader) : ReaderEvent -> Prop
  | .doRead first =>
      first = .socketReadLength ∨ kSocketReadSize <= r.buffer.writableBytes ∨
        ¬ r.buffer.RoomFor kSocketReadSize
  | _ => True

/-!
## Every run
-/

/-- What holds whatever the arguments' order. -/
structure Sound (r : Reader) : Prop where
  valid : r.buffer.Valid
  bounded : r.buffer.capacity <= maxCapacity

theorem start_sound : Sound {} :=
  ⟨FlatBuffer.create_valid kMaxBufferCacheSize, by decide⟩

/-- The reader behind `socket_read_length`. -/
def readied (r : Reader) (buffer : FlatBuffer) : Reader :=
  { r with
    buffer := buffer
    allocation :=
      if r.buffer.GrowsFor kSocketReadSize then r.allocation + 1
      else r.allocation }

theorem doRead_of_ok {r : Reader} {n : Nat} {buffer : FlatBuffer}
    (h : FlatBuffer.socketReadLength kSocketReadSize r.buffer = .ok n buffer)
    (first : FirstArgument) :
    r.doRead first =
      { r.readied buffer with
        destination := some
          (if first = .writeBegin then r.writeBegin
          else (r.readied buffer).writeBegin) } := by
  unfold doRead socketReadLength
  rw [h]
  cases first <;> rfl

theorem doRead_of_error {r : Reader} {what : String} {buffer : FlatBuffer}
    (h : FlatBuffer.socketReadLength kSocketReadSize r.buffer =
      .error what buffer) (first : FirstArgument) :
    r.doRead first = { r with buffer := buffer } := by
  unfold doRead socketReadLength
  rw [h]

theorem doRead_sound {r : Reader} (hr : r.Sound) (first : FirstArgument) :
    (r.doRead first).Sound := by
  have hmoved := FlatBuffer.moveUnreadToBegin_valid hr.valid
  have hlength := FlatBuffer.readLength r.buffer kSocketReadSize
  generalize hresult : FlatBuffer.socketReadLength kSocketReadSize r.buffer =
    result at hlength
  cases hlength with
  | fits =>
      rw [doRead_of_ok hresult]
      exact ⟨hr.valid, hr.bounded⟩
  | moves =>
      rw [doRead_of_ok hresult]
      exact ⟨hmoved, hr.bounded⟩
  | grows h =>
      rw [doRead_of_ok hresult]
      refine ⟨FlatBuffer.grow_valid hmoved _, ?_⟩
      have hsmall : r.buffer.capacity <= 4 * 1024 * 1024 := h.2.2
      have hsize : kSocketReadSize = 4096 := rfl
      simp only [readied, FlatBuffer.grow_capacity h, maxCapacity]
      omega
  | fails =>
      rw [doRead_of_error hresult]
      exact ⟨hmoved, hr.bounded⟩

theorem store_storage (r : Reader) (destination : Destination) (bytes : Bytes) :
    (r.store destination bytes).storage.length = r.buffer.storage.length := by
  unfold store
  split
  · simp only [blit, List.length_take, List.length_append, List.length_drop]
    omega
  · rfl

theorem store_indexes (r : Reader) (destination : Destination) (bytes : Bytes) :
    r.store destination bytes =
      { r.buffer with storage := (r.store destination bytes).storage } := by
  unfold store
  split <;> rfl

theorem store_valid {r : Reader} (hr : r.buffer.Valid)
    (destination : Destination) (bytes : Bytes) :
    (r.store destination bytes).Valid := by
  have hlen := store_storage r destination bytes
  rw [store_indexes]
  exact ⟨hr.read_le_write, hr.write_le_capacity, hr.capacity_eq.trans hlen.symm⟩

theorem store_capacity (r : Reader) (destination : Destination) (bytes : Bytes) :
    (r.store destination bytes).capacity = r.buffer.capacity := by
  rw [store_indexes]

theorem step_sound {r r' : Reader} {e : ReaderEvent} (hr : r.Sound)
    (h : r.step e = some r') : r'.Sound := by
  cases e with
  | doRead first =>
      simp only [step] at h
      split at h
      · cases h
        exact doRead_sound hr first
      · cases h
  | received bytes =>
      simp only [step] at h
      cases hdestination : r.destination with
      | none =>
          rw [hdestination] at h
          cases h
      | some destination =>
          have hvalid := store_valid hr.valid destination bytes
          have hcapacity := store_capacity r destination bytes
          have hbounded := hr.bounded
          rw [← hcapacity] at hbounded
          simp only [hdestination, FlatBuffer.socketConsume] at h
          split at h
          · split at h
            · rename_i hconsume
              split at hconsume
              · cases hconsume
              · rename_i hroom
                cases hconsume
                cases h
                have hwrite := hvalid.write_le_capacity
                have hread := hvalid.read_le_write
                simp only [FlatBuffer.writableBytes] at hroom
                exact ⟨⟨by simp only; omega, by simp only; omega,
                  hvalid.capacity_eq⟩, hbounded⟩
            · rename_i hconsume
              split at hconsume
              · cases hconsume
                cases h
                exact ⟨hvalid, hbounded⟩
              · cases hconsume
          · cases h
  | consume len =>
      simp only [step] at h
      split at h
      · cases h
        refine ⟨FlatBuffer.safeConsume_valid hr.valid len, ?_⟩
        rw [show (r.buffer.safeConsume len).capacity = r.buffer.capacity by
          unfold FlatBuffer.safeConsume; split <;> rfl]
        exact hr.bounded
      · cases h

/-!
## Where the read goes
-/

def Lands (r : Reader) : Prop :=
  forall destination, r.destination = some destination ->
    destination = r.writeBegin ∧ kSocketReadSize <= r.buffer.writableBytes

/-- A careful call, and no other, gives the position that the buffer has when
the read is started. -/
theorem doRead_lands_iff {r : Reader} (hr : r.Sound)
    (hnone : r.destination = none) (first : FirstArgument) :
    (r.doRead first).Lands <-> r.Careful (.doRead first) := by
  have hmoved := FlatBuffer.moveUnreadToBegin_valid hr.valid
  have hlength := FlatBuffer.readLength r.buffer kSocketReadSize
  generalize hresult : FlatBuffer.socketReadLength kSocketReadSize r.buffer =
    result at hlength
  cases hlength with
  | fits h =>
      have hsame : (r.readied r.buffer).writeBegin = r.writeBegin := by
        have hnot : ¬ r.buffer.GrowsFor kSocketReadSize :=
          fun hgrows => Nat.not_lt.mpr h hgrows.2.1
        unfold readied writeBegin
        rw [if_neg hnot]
      rw [doRead_of_ok hresult, hsame, ite_self]
      constructor
      · exact fun _ => Or.inr (Or.inl h)
      · rintro _ destination hdestination
        cases hdestination
        exact ⟨hsame.symm, h⟩
  | moves hfull h =>
      have hpos := FlatBuffer.readIndex_pos_of_moves hfull h
      have hread := hr.valid.read_le_write
      rw [doRead_of_ok hresult]
      constructor
      · intro hlands
        rcases hlands _ rfl with ⟨heq, _⟩
        split at heq
        · have hoffset : r.buffer.writeIndex = r.buffer.unreadLength :=
            congrArg Destination.offset heq
          simp only [FlatBuffer.unreadLength] at hoffset
          omega
        · rename_i hfirst
          exact Or.inl (first.socketReadLength_of_ne hfirst)
      · rintro (rfl | hfits | hroom) destination hdestination
        · cases hdestination
          exact ⟨rfl, h⟩
        · omega
        · exact absurd (Or.inr (Or.inl h)) hroom
  | grows h =>
      rw [doRead_of_ok hresult]
      constructor
      · intro hlands
        rcases hlands _ rfl with ⟨heq, _⟩
        split at heq
        · have hallocation := congrArg Destination.allocation heq
          simp only [writeBegin, readied, if_pos h] at hallocation
          omega
        · rename_i hfirst
          exact Or.inl (first.socketReadLength_of_ne hfirst)
      · rintro (rfl | hfits | hroom) destination hdestination
        · cases hdestination
          exact ⟨rfl, FlatBuffer.grow_writableBytes hmoved h.1⟩
        · exact absurd h.2.1 (Nat.not_lt.mpr hfits)
        · exact absurd (Or.inr (Or.inr h.2.2)) hroom
  | fails what hroom =>
      rw [doRead_of_error hresult]
      constructor
      · exact fun _ => Or.inr (Or.inr hroom)
      · intro _ destination hdestination
        exact absurd (hnone.symm.trans hdestination) (by simp)

theorem store_writeBegin {r : Reader} (hr : r.Sound) {bytes : Bytes}
    (hfits : bytes.length <= r.buffer.writableBytes) :
    r.store r.writeBegin bytes = r.buffer.fill bytes := by
  have hwrite := hr.valid.write_le_capacity
  have hcapacity := hr.valid.capacity_eq
  have hlength : (blit r.buffer.storage r.buffer.writeIndex bytes).length =
      r.buffer.storage.length := by
    apply blit_length
    simp only [FlatBuffer.writableBytes] at hfits
    omega
  have hcurrent : r.writeBegin.allocation = r.allocation := rfl
  unfold store FlatBuffer.fill
  rw [if_pos hcurrent, ← hlength]
  simp only [writeBegin, List.take_length]

/-- Bytes that are stored at the write position are the last unread ones. -/
theorem arrives_of_lands {r r' : Reader} (hr : r.Sound) (hlands : r.Lands)
    {bytes : Bytes} (h : r.step (.received bytes) = some r') :
    r'.buffer.unread = r.buffer.unread ++ bytes := by
  simp only [step] at h
  cases hdestination : r.destination with
  | none =>
      rw [hdestination] at h
      cases h
  | some destination =>
      rcases hlands destination hdestination with ⟨rfl, hroom⟩
      simp only [hdestination] at h
      split at h
      · rename_i hlen
        have hfits : bytes.length <= r.buffer.writableBytes := by
          omega
        have hconsume : FlatBuffer.socketConsume bytes.length
            (r.buffer.fill bytes) = .ok () { r.buffer.fill bytes with
              writeIndex := r.buffer.writeIndex + bytes.length } :=
          if_neg (Nat.not_lt.mpr hfits)
        rw [store_writeBegin hr hfits, hconsume] at h
        cases h
        exact (FlatBuffer.fill_advance hr.valid hfits).2
      · cases h

theorem right_of_lands {r : Reader} (hr : r.Sound) (h : r.Lands) : r.Right :=
  ⟨h, fun _ _ hstep => arrives_of_lands hr h hstep, hr.bounded⟩

/-- A step that is not `do_read` leaves no read pending. -/
theorem step_lands {r r' : Reader} {e : ReaderEvent} (hr : r.Sound)
    (hcareful : r.Careful e) (h : r.step e = some r') : r'.Lands := by
  cases e with
  | doRead first =>
      simp only [step] at h
      split at h
      · rename_i hnone
        cases h
        exact (doRead_lands_iff hr hnone first).mpr hcareful
      · cases h
  | received bytes =>
      have hdone : r'.destination = none := by
        simp only [step] at h
        split at h
        · cases h
        · split at h
          · split at h <;> cases h <;> rfl
          · cases h
      intro destination hdestination
      exact absurd (hdone.symm.trans hdestination) (by simp)
  | consume len =>
      have hidle : r'.destination = none := by
        simp only [step] at h
        split at h
        · rename_i hnone
          cases h
          exact hnone
        · cases h
      intro destination hdestination
      exact absurd (hidle.symm.trans hdestination) (by simp)

/-- A run in which every state is right makes careful calls only, and the other
way round; the capacity is bounded in any case. -/
theorem reads_right_iff {es : List ReaderEvent} {r : Reader}
    (h : run step {} es = some r) :
    ((forall front back t, es = front ++ back ->
      run step {} front = some t -> t.Right) <-> Meets Careful step {} es) ∧
      r.buffer.capacity <= maxCapacity := by
  refine ⟨⟨?_, ?_⟩, (run_keeps step_sound start_sound h).bounded⟩
  · intro hright
    refine meets_of_good (I := Sound) ?_ ?_ start_sound h hright
    · intro r e r' hr _ hstep
      exact step_sound hr hstep
    · intro r e r' hr hstep hright
      cases e with
      | doRead first =>
          simp only [step] at hstep
          split at hstep
          · rename_i hnone
            cases hstep
            exact (doRead_lands_iff hr hnone first).mp hright.lands
          · cases hstep
      | received bytes => trivial
      | consume len => trivial
  · intro hmeets front back t heq hfront
    subst heq
    have hkept := run_keeps_of_meets (I := fun r => r.Sound ∧ r.Lands) Careful
      (fun hr hcareful hstep =>
        ⟨step_sound hr.1 hstep, step_lands hr.1 hcareful hstep⟩)
      ⟨start_sound, fun _ hdestination => by cases hdestination⟩
      hmeets.front hfront
    exact right_of_lands hkept.1 hkept.2

/-- A full read and one more byte, of which nothing is consumed. -/
def unconsumed : List ReaderEvent :=
  [.doRead .socketReadLength, .received (List.replicate 4096 0),
    .doRead .socketReadLength, .received [0]]

/-- The buffer grows for a read whose length comes first; all is consumed, and
the next read, which takes the position first, fits. -/
def consumed : List ReaderEvent :=
  unconsumed ++ [.doRead .socketReadLength, .received [0], .consume 4098,
    .doRead .writeBegin, .received [1, 2, 3]]

theorem reads_right_iff_consumed :
    exists r, run step {} consumed = some r ∧ r.buffer.unread = [1, 2, 3] ∧
      ((forall front back t, consumed = front ++ back ->
        run step {} front = some t -> t.Right) <->
          Meets Careful step {} consumed) ∧
      r.buffer.capacity <= maxCapacity := by
  have hunread : (run step {} consumed).map (fun r => r.buffer.unread) =
      some [1, 2, 3] := by
    decide +kernel
  rcases Option.map_eq_some_iff.mp hunread with ⟨r, hrun, hr⟩
  exact ⟨r, hrun, hr, reads_right_iff hrun⟩

/-- The buffer grows for the next read, which goes to the old storage. -/
theorem not_right_unconsumed :
    exists r, run step {} (unconsumed ++ [.doRead .writeBegin]) = some r ∧
      ¬ r.Right := by
  have hindexes : (run step {} unconsumed).map (fun r =>
      (r.destination, r.buffer.writableBytes, r.buffer.capacity)) =
      some (none, 4095, 8192) := by
    decide +kernel
  rcases Option.map_eq_some_iff.mp hindexes with ⟨r, hrun, hr⟩
  simp only [Prod.mk.injEq] at hr
  rcases hr with ⟨hnone, hfull, hcapacity⟩
  have hstep : r.step (.doRead .writeBegin) = some (r.doRead .writeBegin) :=
    if_pos hnone
  refine ⟨r.doRead .writeBegin, run_snoc.mpr ⟨r, hrun, hstep⟩, ?_⟩
  intro hright
  rcases (doRead_lands_iff (run_keeps step_sound start_sound hrun) hnone _).mp
    hright.lands with hfirst | hfits | hroom
  · cases hfirst
  · rw [hfull] at hfits
    exact absurd hfits (by decide)
  · apply hroom
    right
    right
    rw [hcapacity]
    decide

end Reader

end Network
end Streaming
