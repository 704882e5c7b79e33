import Mathlib.Data.Finset.Basic
import Mathlib.Data.Finset.Lattice.Lemmas

/-!
# The packet dispatcher

`packet_dispatcher` keeps the most recent packets and passes every packet on to
the readers that have registered.  `distribute` consists of three sections with
a lock each; they are separate operations here, so that other threads can be
placed between them.  A reader is never null, `regist_reader` sees to that.
-/

namespace Streaming
namespace Media

structure ClientReader (T : Type) where
  isRegistered : Bool := false
  /-- The packets that `read_cb_` was called with, in order. -/
  read : List T := []
  /-- The arguments that `detach_cb_` was called with. -/
  detached : List Bool := []

namespace ClientReader

variable {T : Type}

def onRead (pkt : T) (c : ClientReader T) : ClientReader T :=
  { c with read := c.read ++ [pkt] }

def setRegistered (isRegistered : Bool) (c : ClientReader T) : ClientReader T :=
  { c with isRegistered := isRegistered }

def detach (c : ClientReader T) (isNormal : Bool := false) : ClientReader T :=
  if c.isRegistered then { c with detached := c.detached ++ [isNormal] } else c

end ClientReader

/-- Apply an operation to every reader of a set. -/
def onEach {T R : Type} [DecidableEq R] (clients : Finset R)
    (f : ClientReader T -> ClientReader T) (readers : R -> ClientReader T) :
    R -> ClientReader T :=
  fun r => if r ∈ clients then f (readers r) else readers r

structure PacketDispatcher (T R : Type) where
  maxSize : Nat
  packetList : List T := []
  newClients : Finset R := ∅
  oldClients : Finset R := ∅
  /-- The readers that exist, registered or not. -/
  readers : R -> ClientReader T := fun _ => {}

namespace PacketDispatcher

variable {T R : Type} [DecidableEq R]

def kMaxPacketCacheSize : Nat := 1024
def kMinPacketCacheSize : Nat := 32

def create (maxSize : Nat := kMaxPacketCacheSize) : PacketDispatcher T R where
  maxSize := if maxSize < kMinPacketCacheSize then kMinPacketCacheSize else maxSize

def registReader (d : PacketDispatcher T R) (r : R) : PacketDispatcher T R :=
  { d with
    readers := Function.update d.readers r ((d.readers r).setRegistered true)
    newClients := insert r d.newClients }

def deregistReader (d : PacketDispatcher T R) (r : R) : PacketDispatcher T R :=
  { d with newClients := d.newClients.erase r }

/-- `client_reader::leave`, for a reader of this dispatcher. -/
def leave (d : PacketDispatcher T R) (r : R) : PacketDispatcher T R :=
  if !(d.readers r).isRegistered then d else d.deregistReader r

/-!
## The three sections of `distribute`
-/

/-- Dispatch this single packet to old clients. -/
def dispatchOld (d : PacketDispatcher T R) (pkt : T) : PacketDispatcher T R :=
  { d with readers := onEach d.oldClients (ClientReader.onRead pkt) d.readers }

/-- The loop that drops packets from the front while the list is full. -/
def makeRoom (maxSize : Nat) : List T -> List T
  | [] => []
  | pkt :: pkts =>
      if (pkt :: pkts).length >= maxSize then makeRoom maxSize pkts
      else pkt :: pkts

/-- Emplace the packet at the back of the packet list. -/
def cachePacket (d : PacketDispatcher T R) (pkt : T) (isIdr : Bool) :
    PacketDispatcher T R :=
  { d with
    packetList := (if isIdr then [] else makeRoom d.maxSize d.packetList) ++ [pkt] }

/-- Distribute the cached packets to new clients and merge two clients. -/
def mergeClients (d : PacketDispatcher T R) : PacketDispatcher T R :=
  if d.newClients = ∅ then d
  else
    { d with
      readers := d.packetList.foldl
        (fun readers pkt =>
          onEach d.newClients (ClientReader.onRead pkt) readers) d.readers
      oldClients := d.oldClients ∪ d.newClients
      newClients := ∅ }

def distribute (d : PacketDispatcher T R) (pkt : T) (isIdr : Bool := false) :
    PacketDispatcher T R :=
  ((d.dispatchOld pkt).cachePacket pkt isIdr).mergeClients

/-- The argument is not passed on to the readers. -/
def detachAllReaders (d : PacketDispatcher T R) (_isNormal : Bool := false) :
    PacketDispatcher T R :=
  if d.newClients = ∅ ∧ d.oldClients = ∅ then d
  else
    let detachEach := fun clients =>
      onEach clients fun c : ClientReader T => c.detach.setRegistered false
    { d with
      readers := detachEach d.oldClients (detachEach d.newClients d.readers)
      newClients := ∅
      oldClients := ∅ }

/-!
## What the operations do to one reader
-/

omit [DecidableEq R] in
theorem create_maxSize_pos (maxSize : Nat) :
    0 < (create maxSize : PacketDispatcher T R).maxSize := by
  unfold create
  simp only
  split
  · exact Nat.zero_lt_succ _
  · rename_i h
    exact Nat.lt_of_lt_of_le (Nat.zero_lt_succ _) (Nat.le_of_not_lt h)

theorem onEach_of_mem {clients : Finset R} {r : R} (hr : r ∈ clients)
    (f : ClientReader T -> ClientReader T) (readers : R -> ClientReader T) :
    onEach clients f readers r = f (readers r) := if_pos hr

theorem onEach_of_not_mem {clients : Finset R} {r : R} (hr : r ∉ clients)
    (f : ClientReader T -> ClientReader T) (readers : R -> ClientReader T) :
    onEach clients f readers r = readers r := if_neg hr

/-- The loop over the cached packets gives each new client all of them. -/
theorem foldl_onEach (clients : Finset R) (pkts : List T)
    (readers : R -> ClientReader T) (r : R) :
    pkts.foldl (fun readers pkt =>
        onEach clients (ClientReader.onRead pkt) readers) readers r =
      if r ∈ clients then
        { readers r with read := (readers r).read ++ pkts }
      else readers r := by
  induction pkts generalizing readers with
  | nil => simp
  | cons pkt pkts ih =>
      rw [List.foldl_cons, ih]
      by_cases hr : r ∈ clients
      · simp [hr, onEach, ClientReader.onRead]
      · simp [hr, onEach]

theorem mergeClients_readers (d : PacketDispatcher T R) (r : R) :
    d.mergeClients.readers r =
      if r ∈ d.newClients then
        { d.readers r with read := (d.readers r).read ++ d.packetList }
      else d.readers r := by
  unfold mergeClients
  by_cases hnew : d.newClients = ∅
  · rw [if_pos hnew]
    simp [hnew]
  · rw [if_neg hnew]
    exact foldl_onEach d.newClients d.packetList d.readers r

theorem mergeClients_oldClients (d : PacketDispatcher T R) :
    d.mergeClients.oldClients = d.oldClients ∪ d.newClients := by
  unfold mergeClients
  by_cases hnew : d.newClients = ∅
  · rw [if_pos hnew, hnew, Finset.union_empty]
  · rw [if_neg hnew]

theorem mergeClients_newClients (d : PacketDispatcher T R) :
    d.mergeClients.newClients = ∅ := by
  unfold mergeClients
  by_cases hnew : d.newClients = ∅
  · rw [if_pos hnew, hnew]
  · rw [if_neg hnew]

theorem mergeClients_packetList (d : PacketDispatcher T R) :
    d.mergeClients.packetList = d.packetList := by
  unfold mergeClients
  split <;> rfl

theorem leave_newClients_subset (d : PacketDispatcher T R) (r : R) :
    (d.leave r).newClients ⊆ d.newClients := by
  unfold leave
  split
  · exact Finset.Subset.refl _
  · exact Finset.erase_subset r d.newClients

theorem mem_leave_newClients_of_ne {d : PacketDispatcher T R} {r other : R}
    (hne : other ≠ r) :
    other ∈ (d.leave r).newClients <-> other ∈ d.newClients := by
  unfold leave
  split
  · exact Iff.rfl
  · simp only [deregistReader, Finset.mem_erase]
    exact and_iff_right hne

/-- Leaving touches nothing but the set of new clients. -/
theorem leave_frame (d : PacketDispatcher T R) (r : R) :
    (d.leave r).readers = d.readers ∧
      (d.leave r).oldClients = d.oldClients ∧
        (d.leave r).packetList = d.packetList ∧
          (d.leave r).maxSize = d.maxSize := by
  unfold leave
  split <;> exact ⟨rfl, rfl, rfl, rfl⟩

end PacketDispatcher

end Media
end Streaming
