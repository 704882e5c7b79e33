import Mathlib.Data.Finset.Basic
import Streaming.Foundation.Run
import Streaming.Network.FlatBuffer

/-!
# Sessions

A session lives as long as its entry in the `session_map_` of its manager.  It
reads and writes asynchronously; its handlers run one after the other, while
other components may send through it or shut it down at any time.
-/

namespace Streaming
namespace Network

open Foundation Util

def kMaxBufferCacheSize : Nat := 8 * 1024
def kSocketReadSize : Nat := kMaxBufferCacheSize / 2

/-- A session and the keys of its manager's `session_map_`. -/
structure Session where
  id : String
  sessionMap : Finset String
  buffer : FlatBuffer := FlatBuffer.create kMaxBufferCacheSize
  socketOpen : Bool := true
  isClosed : Bool := false
  /-- The handler of a read is running. -/
  running : Bool := false
  /-- An `async_read_some` is pending. -/
  reading : Bool := false
  /-- The `is_close` flags of the pending `async_write` calls. -/
  writing : List Bool := []

/-- How a synchronous `boost::asio::write` ends. -/
inductive WriteResult where
  | written
  | aborted
  | failed
  deriving DecidableEq, Repr

namespace Session

/-- `session::stop` -/
def stop (s : Session) : Session :=
  if s.isClosed then s
  else { s with socketOpen := false, isClosed := true }

/-- `session_manager::stop` -/
def managerStop (s : Session) : Session :=
  if s.id ∈ s.sessionMap then
    { s.stop with sessionMap := s.sessionMap.erase s.id }
  else
    s

/-- `session_manager::erase`; the test is the one in the source. -/
def managerErase (s : Session) (sessionId : String) : Session :=
  if sessionId ≠ "" then s
  else { s with sessionMap := s.sessionMap.erase sessionId }

/-- `session_manager::stop_all` -/
def managerStopAll (s : Session) : Session :=
  if s.id ∈ s.sessionMap then { s.stop with sessionMap := ∅ }
  else { s with sessionMap := ∅ }

/-- `session::shutdown`, called by other classes. -/
def shutdown (s : Session) : Session :=
  s.stop.managerErase s.id

/-- `session::do_read`.  An exception from `socket_read_length` leaves the
handler, and no read is started. -/
def doRead (s : Session) : Session :=
  if !s.socketOpen then { s with running := false }
  else
    match FlatBuffer.socketReadLength kSocketReadSize s.buffer with
    | .ok _ buffer =>
        { s with buffer := buffer, running := false, reading := true }
    | .error _ buffer => { s with buffer := buffer, running := false }

/-- `session::do_write` -/
def doWrite (s : Session) (isAsync isClose : Bool) (result : WriteResult) :
    Session :=
  if !s.socketOpen then s
  else if isAsync then { s with writing := s.writing ++ [isClose] }
  else
    match result with
    | .written => if isClose then s.managerStop else s
    | .aborted => s
    | .failed => s.managerStop

def sessionId (sessionPrefix : String) (rawFd : Nat) : String :=
  s!"{sessionPrefix}-client_socket({rawFd})"

/-- A session as the accept handler leaves it after `start()`. -/
def start (sessionPrefix : String) (rawFd : Nat) (others : Finset String) :
    Session :=
  let id := sessionId sessionPrefix rawFd
  doRead { id := id, sessionMap := insert id others, running := true }

end Session

/-!
## Runs of a session

Boost.Asio completes the pending operations of a closed socket with an error.
-/

inductive SessionEvent where
  /-- A read completes, and its handler begins with `on_recv`. -/
  | received (bytes : Bytes)
  | readFails
  /-- The parser consumes bytes of the buffer. -/
  | parserConsumes (len : Nat)
  /-- The parser throws, and `on_recv` catches the exception. -/
  | parserThrows
  /-- `on_recv` has returned, and the handler goes on with `do_read`. -/
  | parserReturns
  | send (isAsync isClose : Bool) (result : WriteResult)
  | written (i : Nat)
  | writeFails (i : Nat)
  /-- Another component calls `shutdown`. -/
  | shutdown
  | stopAll

namespace Session

def step (s : Session) : SessionEvent -> Option Session
  | .received bytes =>
      if s.reading ∧ s.socketOpen ∧ !s.running ∧
          bytes.length <= kSocketReadSize then
        match FlatBuffer.socketConsume bytes.length (s.buffer.fill bytes) with
        | .ok _ buffer =>
            some { s with buffer := buffer, reading := false, running := true }
        | .error _ buffer => some { s with buffer := buffer, reading := false }
      else none
  | .readFails =>
      if s.reading ∧ !s.running then
        some (managerStop { s with reading := false })
      else none
  | .parserConsumes len =>
      if s.running then some { s with buffer := s.buffer.safeConsume len }
      else none
  | .parserThrows => if s.running then some s.shutdown else none
  | .parserReturns => if s.running then some s.doRead else none
  | .send isAsync isClose result => some (s.doWrite isAsync isClose result)
  | .written i =>
      match s.writing[i]? with
      | some isClose =>
          if s.socketOpen then
            let s := { s with writing := s.writing.eraseIdx i }
            some (if isClose then s.managerStop else s)
          else none
      | none => none
  | .writeFails i =>
      match s.writing[i]? with
      | some _ => some (managerStop { s with writing := s.writing.eraseIdx i })
      | none => none
  | .shutdown => some s.shutdown
  | .stopAll => some s.managerStopAll

/-- Some asynchronous operation of the session is pending. -/
def Pending (s : Session) : Prop :=
  s.reading = true ∨ s.writing ≠ []

/-- With no handler running and nothing pending, the session is closed and its
manager has let it go. -/
def Released (s : Session) : Prop :=
  s.running = false -> ¬ s.Pending ->
    s.isClosed = true ∧ s.id ∉ s.sessionMap

/--
`shutdown` relies on a pending operation to complete with an error and remove
the entry, and `do_read` on the buffer having room or being allowed to grow.
-/
def Safe (s : Session) : SessionEvent -> Prop
  | .parserThrows => s.id ∉ s.sessionMap ∨ s.Pending
  | .shutdown => s.id ∉ s.sessionMap ∨ s.Pending
  | .parserReturns => s.socketOpen = true -> s.buffer.RoomFor kSocketReadSize
  | _ => True

/-!
## What keeps a session from leaking
-/

/-- While the manager holds a session, something will still happen to it. -/
structure Invariant (s : Session) : Prop where
  open_iff : s.socketOpen = !s.isClosed
  active : s.id ∈ s.sessionMap -> s.isClosed = false ->
    s.running = true ∨ s.reading = true
  closing : s.id ∈ s.sessionMap -> s.isClosed = true -> s.Pending
  removed : s.id ∉ s.sessionMap -> s.isClosed = true
  buffer_valid : s.buffer.Valid
  room : s.reading = true -> kSocketReadSize <= s.buffer.writableBytes

theorem Invariant.released {s : Session} (h : s.Invariant) : s.Released := by
  intro hrunning hpending
  have hgone : s.id ∉ s.sessionMap := by
    intro hmem
    cases hclosed : s.isClosed with
    | true => exact hpending (h.closing hmem hclosed)
    | false =>
        rcases h.active hmem hclosed with hrun | hread
        · rw [hrunning] at hrun
          cases hrun
        · exact hpending (Or.inl hread)
  constructor
  · exact h.removed hgone
  · exact hgone

/-- A session that has left the map is closed, and no step brings it back. -/
theorem invariant_of_removed {s : Session} (hopen : s.socketOpen = !s.isClosed)
    (hclosed : s.isClosed = true) (hgone : s.id ∉ s.sessionMap)
    (hvalid : s.buffer.Valid)
    (hroom : s.reading = true -> kSocketReadSize <= s.buffer.writableBytes) :
    s.Invariant :=
  ⟨hopen, fun hmem => absurd hmem hgone, fun hmem => absurd hmem hgone,
    fun _ => hclosed, hvalid, hroom⟩

theorem stop_isClosed (s : Session) : s.stop.isClosed = true := by
  unfold stop
  split
  · assumption
  · rfl

theorem stop_open {s : Session} (h : s.socketOpen = !s.isClosed) :
    s.stop.socketOpen = !s.stop.isClosed := by
  unfold stop
  split
  · exact h
  · rfl

/-- Stopping changes nothing but the socket and the flag. -/
theorem stop_frame (s : Session) :
    s.stop.id = s.id ∧ s.stop.sessionMap = s.sessionMap ∧
      s.stop.buffer = s.buffer ∧ s.stop.reading = s.reading ∧
        s.stop.writing = s.writing := by
  unfold stop
  split <;> exact ⟨rfl, rfl, rfl, rfl, rfl⟩

/-- The manager's `stop` ends a session for good. -/
theorem managerStop_invariant {s : Session}
    (hopen : s.socketOpen = !s.isClosed)
    (hremoved : s.id ∉ s.sessionMap -> s.isClosed = true)
    (hvalid : s.buffer.Valid)
    (hroom : s.reading = true -> kSocketReadSize <= s.buffer.writableBytes) :
    s.managerStop.Invariant := by
  rcases s.stop_frame with ⟨hid, _, hbuffer, hreading, _⟩
  unfold managerStop
  by_cases hmem : s.id ∈ s.sessionMap
  · rw [if_pos hmem]
    apply invariant_of_removed
    · exact stop_open hopen
    · exact stop_isClosed s
    · simp only [hid, Finset.mem_erase, ne_eq, not_true_eq_false, false_and,
        not_false_eq_true]
    · simp only [hbuffer]
      exact hvalid
    · simp only [hbuffer, hreading]
      exact hroom
  · rw [if_neg hmem]
    exact invariant_of_removed hopen (hremoved hmem) hmem hvalid hroom

theorem shutdown_invariant {s : Session} (hs : s.Invariant)
    (hsafe : s.id ∉ s.sessionMap ∨ s.Pending) : s.shutdown.Invariant := by
  rcases s.stop_frame with ⟨hid, hmap, hbuffer, hreading, hwriting⟩
  have hclosed := stop_isClosed s
  have hpending : s.stop.Pending <-> s.Pending := by
    unfold Pending
    rw [hreading, hwriting]
  unfold shutdown managerErase
  split
  · constructor
    · exact stop_open hs.open_iff
    · intro _ hopen
      rw [hclosed] at hopen
      cases hopen
    · intro hmem _
      rw [hid, hmap] at hmem
      exact hpending.mpr (hsafe.resolve_left (not_not.mpr hmem))
    · intro _
      exact hclosed
    · rw [hbuffer]
      exact hs.buffer_valid
    · rw [hbuffer, hreading]
      exact hs.room
  · apply invariant_of_removed
    · exact stop_open hs.open_iff
    · exact hclosed
    · simp only [hid, Finset.mem_erase, ne_eq, not_true_eq_false, false_and,
        not_false_eq_true]
    · simp only [hbuffer]
      exact hs.buffer_valid
    · simp only [hbuffer, hreading]
      exact hs.room

theorem managerStopAll_invariant {s : Session} (hs : s.Invariant) :
    s.managerStopAll.Invariant := by
  rcases s.stop_frame with ⟨_, _, hbuffer, hreading, _⟩
  unfold managerStopAll
  by_cases hmem : s.id ∈ s.sessionMap
  · rw [if_pos hmem]
    apply invariant_of_removed
    · exact stop_open hs.open_iff
    · exact stop_isClosed s
    · exact Finset.notMem_empty _
    · simp only [hbuffer]
      exact hs.buffer_valid
    · simp only [hbuffer, hreading]
      exact hs.room
  · rw [if_neg hmem]
    exact invariant_of_removed hs.open_iff (hs.removed hmem)
      (Finset.notMem_empty _) hs.buffer_valid hs.room

theorem doRead_invariant {s : Session} (hopen : s.socketOpen = !s.isClosed)
    (hclosing : s.id ∈ s.sessionMap -> s.isClosed = true -> s.Pending)
    (hremoved : s.id ∉ s.sessionMap -> s.isClosed = true)
    (hvalid : s.buffer.Valid)
    (hreading : s.reading = true -> kSocketReadSize <= s.buffer.writableBytes)
    (hroom : s.socketOpen = true -> s.buffer.RoomFor kSocketReadSize) :
    s.doRead.Invariant := by
  unfold doRead
  by_cases hsocket : s.socketOpen = true
  · have hclosed : s.isClosed = false := by
      simpa [hsocket] using hopen
    rcases FlatBuffer.socketReadLength_ok (hroom hsocket) with ⟨b, hlength⟩
    rcases FlatBuffer.socketReadLength_spec hvalid hlength with
      ⟨_, hvalid', _, hroom'⟩
    rw [if_neg (by simp [hsocket]), hlength]
    constructor
    · exact hopen
    · intro _ _
      exact Or.inr rfl
    · intro _ h
      rw [hclosed] at h
      cases h
    · exact hremoved
    · exact hvalid'
    · intro _
      exact hroom'
  · have hclosed : s.isClosed = true := by
      simpa [hsocket] using hopen
    rw [if_pos (by simp [hsocket])]
    constructor
    · exact hopen
    · intro _ h
      rw [hclosed] at h
      cases h
    · exact hclosing
    · exact hremoved
    · exact hvalid
    · exact hreading

theorem start_invariant (sessionPrefix : String) (rawFd : Nat)
    (others : Finset String) :
    (start sessionPrefix rawFd others).Invariant := by
  apply doRead_invariant
  · rfl
  · intro _ h
    cases h
  · intro h
    exact absurd (Finset.mem_insert_self _ _) h
  · exact FlatBuffer.create_valid _
  · intro h
    cases h
  · intro _
    exact Or.inl (show 8 * 1024 / 2 <= 8 * 1024 - 0 by omega)

/-!
## Every run
-/

theorem received_invariant {s : Session} (hs : s.Invariant) {bytes : Bytes}
    (hreading : s.reading = true) (hsocket : s.socketOpen = true)
    (hlength : bytes.length <= kSocketReadSize) {s' : Session}
    (h : (match FlatBuffer.socketConsume bytes.length (s.buffer.fill bytes) with
      | .ok _ buffer =>
          some { s with buffer := buffer, reading := false, running := true }
      | .error _ buffer => some { s with buffer := buffer, reading := false }) =
        some s') : s'.Invariant := by
  have hroom : bytes.length <= s.buffer.writableBytes :=
    hlength.trans (hs.room hreading)
  rcases FlatBuffer.fill_advance hs.buffer_valid hroom with ⟨hvalid, _⟩
  have hfits : ¬ bytes.length > (s.buffer.fill bytes).writableBytes :=
    Nat.not_lt.mpr hroom
  have hclosed : s.isClosed = false := by
    simpa [hsocket] using hs.open_iff
  simp only [FlatBuffer.socketConsume, if_neg hfits, Option.some.injEq] at h
  rw [← h]
  constructor
  · exact hs.open_iff
  · intro _ _
    exact Or.inl rfl
  · intro _ h
    rw [hclosed] at h
    cases h
  · exact hs.removed
  · exact hvalid
  · intro h
    cases h

theorem doWrite_invariant {s : Session} (hs : s.Invariant)
    (isAsync isClose : Bool) (result : WriteResult) :
    (s.doWrite isAsync isClose result).Invariant := by
  have hstop : s.managerStop.Invariant :=
    managerStop_invariant hs.open_iff hs.removed hs.buffer_valid hs.room
  unfold doWrite
  split
  · exact hs
  split
  · constructor
    · exact hs.open_iff
    · exact hs.active
    · intro _ _
      exact Or.inr (by simp)
    · exact hs.removed
    · exact hs.buffer_valid
    · exact hs.room
  cases result with
  | written =>
      simp only
      split
      · exact hstop
      · exact hs
  | aborted => exact hs
  | failed => exact hstop

theorem step_invariant {s s' : Session} {e : SessionEvent}
    (hs : s.Invariant) (hsafe : s.Safe e) (h : s.step e = some s') :
    s'.Invariant := by
  cases e with
  | received bytes =>
      simp only [step] at h
      split at h
      · rename_i hready
        exact received_invariant hs hready.1 hready.2.1 hready.2.2.2 h
      · cases h
  | readFails =>
      simp only [step] at h
      split at h
      · cases h
        apply managerStop_invariant
        · exact hs.open_iff
        · exact hs.removed
        · exact hs.buffer_valid
        · intro h
          cases h
      · cases h
  | parserConsumes len =>
      simp only [step] at h
      split at h
      · rename_i hrunning
        cases h
        constructor
        · exact hs.open_iff
        · exact hs.active
        · exact hs.closing
        · exact hs.removed
        · exact FlatBuffer.safeConsume_valid hs.buffer_valid len
        · intro hreading
          exact (hs.room hreading).trans
            (FlatBuffer.safeConsume_writableBytes s.buffer len)
      · cases h
  | parserThrows =>
      simp only [step] at h
      split at h
      · cases h
        exact shutdown_invariant hs hsafe
      · cases h
  | parserReturns =>
      simp only [step] at h
      split at h
      · cases h
        exact doRead_invariant hs.open_iff hs.closing hs.removed
          hs.buffer_valid hs.room hsafe
      · cases h
  | send isAsync isClose result =>
      cases h
      exact doWrite_invariant hs isAsync isClose result
  | written i =>
      simp only [step] at h
      split at h
      · split at h
        · rename_i hsocket
          have hclosed : s.isClosed = false := by
            simpa [hsocket] using hs.open_iff
          cases h
          split
          · exact managerStop_invariant hs.open_iff hs.removed hs.buffer_valid
              hs.room
          · constructor
            · exact hs.open_iff
            · exact hs.active
            · intro _ h
              rw [hclosed] at h
              cases h
            · exact hs.removed
            · exact hs.buffer_valid
            · exact hs.room
        · cases h
      · cases h
  | writeFails i =>
      simp only [step] at h
      split at h
      · cases h
        exact managerStop_invariant hs.open_iff hs.removed hs.buffer_valid
          hs.room
      · cases h
  | shutdown =>
      cases h
      exact shutdown_invariant hs hsafe
  | stopAll =>
      cases h
      exact managerStopAll_invariant hs

/--
In every run in which `shutdown` finds an operation pending or the entry gone,
and `do_read` finds room in the buffer, the session is never leaked.
-/
theorem run_released {sessionPrefix : String} {rawFd : Nat}
    {others : Finset String} {es : List SessionEvent} {s : Session}
    (hsafe : Meets Safe step (start sessionPrefix rawFd others) es)
    (h : run step (start sessionPrefix rawFd others) es = some s) :
    s.Released :=
  (run_keeps_of_meets _ step_invariant
    (start_invariant sessionPrefix rawFd others) hsafe h).released

/-- A run in which the dispatcher shuts the session down while it reads. -/
theorem run_released_detached :
    exists s, run step (start "http" 7 ∅) [.shutdown, .readFails] = some s ∧
      s.Released := by
  have hruns : exists s, run step (start "http" 7 ∅) [.shutdown, .readFails] =
      some s := ⟨_, rfl⟩
  rcases hruns with ⟨s, hrun⟩
  refine ⟨s, hrun, run_released ?_ hrun⟩
  intro front e back t hes hfront
  match front with
  | [] =>
      cases hes
      cases hfront
      exact Or.inr (Or.inl rfl)
  | [_] =>
      cases hes
      trivial
  | _ :: _ :: front =>
      simp at hes

/-- The parser throws on the first byte: the session is closed, nothing is
pending any more, and the manager still has it. -/
theorem not_released_after_exception :
    exists s, run step (start "rtmp" 7 ∅)
        [.received [0], .parserThrows, .parserReturns] = some s ∧
      ¬ s.Released := by
  have hruns : exists s, run step (start "rtmp" 7 ∅)
      [.received [0], .parserThrows, .parserReturns] = some s := ⟨_, rfl⟩
  rcases hruns with ⟨s, hrun⟩
  refine ⟨s, hrun, ?_⟩
  intro hreleased
  cases hrun
  have hgone := (hreleased rfl (by simp [Pending]; decide)).2
  exact absurd hgone (by decide)

/-- A `shutdown` that finds nothing pending can leak the session: in some run
that goes on from there, it is never released. -/
theorem shutdown_leaks {s : Session} (hs : s.Invariant) (hid : s.id ≠ "")
    (hmem : s.id ∈ s.sessionMap) (hpending : ¬ s.Pending) :
    exists es s', run step s.shutdown es = some s' ∧ ¬ s'.Released := by
  rcases s.stop_frame with ⟨hid', hmap, _, hreading, hwriting⟩
  have hshutdown : s.shutdown = s.stop := by
    unfold shutdown managerErase
    rw [if_pos hid]
  have hmem' : s.stop.id ∈ s.stop.sessionMap := by
    rw [hid', hmap]
    exact hmem
  have hpending' : ¬ s.stop.Pending := by
    unfold Pending at hpending ⊢
    rw [hreading, hwriting]
    exact hpending
  have hsocket : s.stop.socketOpen = false := by
    rw [stop_open hs.open_iff, stop_isClosed]
    rfl
  rw [hshutdown]
  cases hrunning : s.stop.running with
  | false =>
      refine ⟨[], s.stop, rfl, ?_⟩
      intro hreleased
      exact (hreleased hrunning hpending').2 hmem'
  | true =>
      refine ⟨[.parserReturns], s.stop.doRead, ?_, ?_⟩
      · simp [run, step, hrunning]
      · intro hreleased
        unfold doRead at hreleased
        rw [if_pos (by simp [hsocket])] at hreleased
        exact (hreleased rfl hpending').2 hmem'

end Session

end Network
end Streaming
