import Streaming.Network.Session
import Streaming.Rtmp.Chunks

/-!
# RTMP sessions

A session appends every read to its buffer and calls `on_parse_rtmp`, which
consumes what `next_step_func_` took.  After an exception the connection is
closed and no later read is parsed.
-/

namespace Streaming
namespace Rtmp

open Foundation Util Network

/-- A session with the packets that its parser has given to `handle_chunk`. -/
structure RtmpSession (σ : Type) where
  proto : RtmpProtocol σ
  buffer : FlatBuffer
  isClosed : Bool := false
  handed : List RtmpPacket := []

section Session

variable {σ : Type} (env : Env σ)

namespace RtmpSession

/-- `on_recv`: parse, and close the connection if the parser throws. -/
def onRecv (s : RtmpSession σ) : RtmpSession σ :=
  match nextStepFunc env s.proto s.buffer.unread with
  | .waiting proto items rest =>
      { s with
        proto := proto
        buffer := s.buffer.safeConsume (s.buffer.unreadLength - rest.length)
        handed := s.handed ++ items }
  | .failed proto items =>
      { s with proto := proto, isClosed := true, handed := s.handed ++ items }

/--
One read: `do_read` makes room, the socket stores the bytes and the handler
parses them.  A full buffer throws out of `do_read`, and the session gets no
further read.
-/
def onRead (s : RtmpSession σ) (bytes : Bytes) : Option (RtmpSession σ) :=
  if s.isClosed then some s
  else
    match FlatBuffer.socketReadLength kSocketReadSize s.buffer with
    | .error _ _ => none
    | .ok _ buffer =>
        match FlatBuffer.socketConsume bytes.length (buffer.fill bytes) with
        | .error _ _ => none
        | .ok _ buffer => some (onRecv env { s with buffer := buffer })

def onReads (s : RtmpSession σ) : List Bytes -> Option (RtmpSession σ)
  | [] => some s
  | bytes :: reads => (s.onRead env bytes).bind fun s => s.onReads reads

end RtmpSession

/-!
## The parser behind the handshake

From C2 on, `on_parse_rtmp` reads units of the stream for as long as they are
complete, C2 being the first of them.
-/

def rtmpAttempt (st : RtmpProtocol σ) (data : Bytes) :
    Attempt (RtmpProtocol σ) RtmpPacket :=
  match st.nextStep with
  | .splitRtmp => splitOnce env st data
  | .handleC2 =>
      if data.length < kC1HandshakeSize then .needMore st
      else
        match sendCommands env st.side with
        | .done side =>
            .done { st with side := side, nextStep := .splitRtmp } []
              kC1HandshakeSize
        | .threw _ side =>
            .failed { st with side := side, nextStep := .splitRtmp } []
        | .crashed => .failed { st with nextStep := .splitRtmp } []
  | .handleC0C1 => .needMore st

/-- Everything from C2 on is one resumable parser. -/
def rtmpParser : ResumableParser UInt8 (RtmpProtocol σ) RtmpPacket where
  attempt := rtmpAttempt env
  consumed_pos := by
    intro s input s' items k hne h
    unfold rtmpAttempt at h
    split at h
    · exact (chunkParser env).consumed_pos hne h
    · split at h
      · cases h
      · split at h <;> cases h
        exact Nat.zero_lt_succ _
    · cases h
  consumed_le := by
    intro s input s' items k hne h
    unfold rtmpAttempt at h
    split at h
    · exact (chunkParser env).consumed_le hne h
    · split at h
      · cases h
      · split at h <;> cases h
        omega
    · cases h
  done_append := by
    intro s input s' items k more hne h
    unfold rtmpAttempt at h ⊢
    split at h
    · exact (chunkParser env).done_append more hne h
    · split at h
      · cases h
      · rw [if_neg (by rw [List.length_append]; omega)]
        exact h
    · cases h
  failed_append := by
    intro s input s' items more hne h
    unfold rtmpAttempt at h ⊢
    split at h
    · exact (chunkParser env).failed_append more hne h
    · split at h
      · cases h
      · rw [if_neg (by rw [List.length_append]; omega)]
        exact h
    · cases h
  needMore_append := by
    intro s input s' more hne h
    cases hstep : s.nextStep with
    | splitRtmp =>
        simp only [rtmpAttempt, hstep] at h
        have hstep' := (splitOnce_needMore_nextStep h).trans hstep
        simp only [rtmpAttempt, hstep, hstep']
        exact splitOnce_resume env more hne h
    | handleC2 =>
        simp only [rtmpAttempt, hstep] at h
        split at h
        · cases h
          rfl
        · split at h <;> cases h
    | handleC0C1 =>
        simp only [rtmpAttempt, hstep] at h
        cases h
        rfl

/-- `split_rtmp` is the parser once C2 has been read. -/
theorem splitRtmp_eq_drain {st : RtmpProtocol σ}
    (hstep : st.nextStep = .splitRtmp) (data : Bytes) :
    splitRtmp env st data = drain (rtmpAttempt env) st data := by
  apply (chunkParser env).drain_congr (rtmpParser env)
    (I := fun s => s.nextStep = .splitRtmp)
  · intro s input hs
    simp only [rtmpParser, chunkParser, rtmpAttempt, hs]
  · intro s input s' items k hs h
    exact (splitOnce_nextStep h).trans hs
  · exact hstep

theorem nextStepFunc_eq_drain {st : RtmpProtocol σ}
    (hstep : st.nextStep ≠ .handleC0C1) (data : Bytes) :
    nextStepFunc env st data = drain (rtmpAttempt env) st data := by
  cases hnext : st.nextStep with
  | handleC0C1 => exact absurd hnext hstep
  | splitRtmp =>
      simp only [nextStepFunc, hnext]
      exact splitRtmp_eq_drain env hnext data
  | handleC2 =>
      simp only [nextStepFunc, hnext]
      by_cases hne : data = []
      · subst hne
        rfl
      · unfold handleC2
        split
        · rename_i hshort
          have hattempt : (rtmpParser env).attempt st data = .needMore st := by
            simp only [rtmpParser, rtmpAttempt, hnext]
            rw [if_pos hshort]
          exact ((rtmpParser env).drain_needMore hne hattempt).symm
        · rename_i hfull
          cases hsend : sendCommands env st.side with
          | done side =>
              have hattempt : (rtmpParser env).attempt st data =
                  .done { st with side := side, nextStep := .splitRtmp } []
                    kC1HandshakeSize := by
                simp only [rtmpParser, rtmpAttempt, hnext, hsend]
                rw [if_neg hfull]
              have hdrain := (rtmpParser env).drain_done hne hattempt
              simp only [Outcome.emit_nil] at hdrain
              refine Eq.trans ?_ hdrain.symm
              exact splitRtmp_eq_drain env rfl _
          | threw what side =>
              have hattempt : (rtmpParser env).attempt st data =
                  .failed { st with side := side, nextStep := .splitRtmp } [] := by
                simp only [rtmpParser, rtmpAttempt, hnext, hsend]
                rw [if_neg hfull]
              exact ((rtmpParser env).drain_failed hne hattempt).symm
          | crashed =>
              have hattempt : (rtmpParser env).attempt st data =
                  .failed { st with nextStep := .splitRtmp } [] := by
                simp only [rtmpParser, rtmpAttempt, hnext, hsend]
                rw [if_neg hfull]
              exact ((rtmpParser env).drain_failed hne hattempt).symm

theorem drain_nextStep {st st' : RtmpProtocol σ} {data rest : Bytes}
    {items : List RtmpPacket} (hstep : st.nextStep ≠ .handleC0C1)
    (h : drain (rtmpAttempt env) st data = .waiting st' items rest) :
    st'.nextStep ≠ .handleC0C1 := by
  apply (rtmpParser env).drain_keeps (I := fun s => s.nextStep ≠ .handleC0C1)
    ?_ ?_ hstep h
  · intro s input s' hs hattempt
    simp only [rtmpParser, rtmpAttempt] at hattempt
    split at hattempt
    · rw [splitOnce_needMore_nextStep hattempt]
      exact hs
    · split at hattempt
      · cases hattempt
        exact hs
      · split at hattempt <;> cases hattempt
    · cases hattempt
      exact hs
  · intro s input s' items' k hs hattempt
    simp only [rtmpParser, rtmpAttempt] at hattempt
    split at hattempt
    · rw [splitOnce_nextStep hattempt]
      exact hs
    · split at hattempt
      · cases hattempt
      · split at hattempt <;> cases hattempt
        simp
    · cases hattempt

/-!
## Sessions refine the parser

What a session has parsed so far, read as an outcome of the parser.  The layout
of the buffer is left out; only its unread bytes count.
-/

namespace RtmpSession

def outcome (s : RtmpSession σ) :
    Outcome UInt8 (RtmpProtocol σ) RtmpPacket :=
  if s.isClosed then .failed s.proto s.handed
  else .waiting s.proto s.handed s.buffer.unread

/-- A session that has left C0 and C1 behind and has a well-formed buffer. -/
structure Ready (s : RtmpSession σ) : Prop where
  buffer_valid : s.buffer.Valid
  past_C1 : s.isClosed = false -> s.proto.nextStep ≠ .handleC0C1

theorem onRecv_outcome {s : RtmpSession σ} (hs : s.Ready)
    (hopen : s.isClosed = false) :
    (s.onRecv env).Ready ∧
      (s.onRecv env).outcome =
        (drain (rtmpAttempt env) s.proto s.buffer.unread).emit s.handed := by
  have hnext := nextStepFunc_eq_drain env (hs.past_C1 hopen) s.buffer.unread
  unfold onRecv
  cases hdrain : drain (rtmpAttempt env) s.proto s.buffer.unread with
  | failed proto items =>
      rw [hnext, hdrain]
      exact ⟨⟨hs.buffer_valid, by simp⟩, rfl⟩
  | waiting proto items rest =>
      rw [hnext, hdrain]
      have hsuffix := (rtmpParser env).drain_rest_suffix hdrain
      have hlen := hs.buffer_valid.unread_length
      have hrest : s.buffer.unread.drop
          (s.buffer.unreadLength - rest.length) = rest := by
        rw [← hlen]
        exact (List.suffix_iff_eq_drop.mp hsuffix).symm
      constructor
      · constructor
        · exact FlatBuffer.safeConsume_valid hs.buffer_valid _
        · intro _
          exact drain_nextStep env (hs.past_C1 hopen) hdrain
      · simp only [outcome, hopen, Outcome.emit]
        rw [FlatBuffer.safeConsume_unread (by omega), hrest]
        rfl

theorem onRead_outcome {s s' : RtmpSession σ} {bytes : Bytes} (hs : s.Ready)
    (h : s.onRead env bytes = some s') :
    s'.Ready ∧ s'.outcome = s.outcome.resume (rtmpAttempt env) bytes := by
  unfold onRead at h
  by_cases hclosed : s.isClosed = true
  · rw [if_pos hclosed] at h
    cases h
    refine ⟨hs, ?_⟩
    simp only [outcome, hclosed, if_true, Outcome.resume]
  · have hopen : s.isClosed = false := by simpa using hclosed
    rw [if_neg hclosed] at h
    cases hlength : FlatBuffer.socketReadLength kSocketReadSize s.buffer with
    | error what buffer =>
        rw [hlength] at h
        cases h
    | ok n buffer =>
        rw [hlength] at h
        rcases FlatBuffer.socketReadLength_spec hs.buffer_valid hlength with
          ⟨_, hvalid, hunread, _⟩
        simp only [FlatBuffer.socketConsume] at h
        by_cases hfull :
            bytes.length > (buffer.fill bytes).writableBytes
        · rw [if_pos hfull] at h
          cases h
        · rw [if_neg hfull] at h
          have hroom : bytes.length <= buffer.writableBytes := by
            simpa [FlatBuffer.writableBytes, FlatBuffer.fill] using hfull
          rcases FlatBuffer.fill_advance hvalid hroom with ⟨hvalid', hunread'⟩
          simp only [Option.some.injEq] at h
          rw [← h]
          rcases onRecv_outcome env (s := { s with
              buffer := { buffer.fill bytes with
                writeIndex := buffer.writeIndex + bytes.length } })
            ⟨hvalid', hs.past_C1⟩ hopen with ⟨hready, houtcome⟩
          refine ⟨hready, houtcome.trans ?_⟩
          simp only [outcome, hopen, Outcome.resume]
          rw [hunread', hunread]
          rfl

theorem onReads_outcome {s s' : RtmpSession σ} {reads : List Bytes}
    (hs : s.Ready) (h : s.onReads env reads = some s') :
    s'.outcome = feed (rtmpAttempt env) s.outcome reads := by
  induction reads generalizing s with
  | nil =>
      cases h
      rfl
  | cons bytes reads ih =>
      simp only [onReads, Option.bind_eq_some_iff] at h
      rcases h with ⟨t, hread, hreads⟩
      rcases onRead_outcome env hs hread with ⟨ht, houtcome⟩
      rw [ih ht hreads, houtcome]
      rfl

/--
Two ways of cutting the same bytes into reads give the same packets, the same
protocol state with the bytes sent in it, the same end of the connection if a
handler throws, and otherwise the same unread bytes.
-/
theorem onReads_cut_independent {s s₁ s₂ : RtmpSession σ}
    {cut₁ cut₂ : List Bytes} (hvalid : s.buffer.Valid)
    (hopen : s.isClosed = false) (hempty : s.buffer.unread = [])
    (hhandshake : s.proto.nextStep ≠ .handleC0C1)
    (hsame : cut₁.flatten = cut₂.flatten)
    (h₁ : s.onReads env cut₁ = some s₁) (h₂ : s.onReads env cut₂ = some s₂) :
    s₁.handed = s₂.handed ∧ s₁.proto = s₂.proto ∧
      s₁.isClosed = s₂.isClosed ∧
        (s₁.isClosed = false -> s₁.buffer.unread = s₂.buffer.unread) := by
  have hready : s.Ready := ⟨hvalid, fun _ => hhandshake⟩
  have hstart : s.outcome =
      (Outcome.waiting s.proto [] []).emit s.handed := by
    simp [outcome, hopen, hempty, Outcome.emit]
  have hcut : forall (reads : List Bytes) (t : RtmpSession σ),
      s.onReads env reads = some t ->
        t.outcome =
          (drain (rtmpAttempt env) s.proto reads.flatten).emit s.handed := by
    intro reads t ht
    rw [onReads_outcome env hready ht, hstart, feed_emit]
    exact congrArg _ ((rtmpParser env).feed_eq_drain s.proto reads)
  have houtcome : s₁.outcome = s₂.outcome := by
    rw [hcut _ _ h₁, hcut _ _ h₂, hsame]
  cases hc₁ : s₁.isClosed <;> cases hc₂ : s₂.isClosed <;>
    simp only [outcome, hc₁, hc₂, if_true, Bool.false_eq_true, if_false,
      Outcome.waiting.injEq, Outcome.failed.injEq, reduceCtorEq] at houtcome
  · exact ⟨houtcome.2.1, houtcome.1, rfl, fun _ => houtcome.2.2⟩
  · refine ⟨houtcome.2, houtcome.1, rfl, ?_⟩
    intro hcontra
    cases hcontra

/-- A session that waits for chunks and has received none. -/
def awaitingChunks : RtmpSession Unit where
  proto := { nextStep := .splitRtmp, app := () }
  buffer := FlatBuffer.create 0

/-- A one-byte message, cut inside its header or not at all. -/
theorem onReads_cut_independent_in_header :
    exists s₁ s₂,
      awaitingChunks.onReads .accepting
          [[3, 0, 0, 7, 0], [0, 1, 5, 1, 0, 0, 0, 0xAA]] = some s₁ ∧
        awaitingChunks.onReads .accepting
          [[3, 0, 0, 7, 0, 0, 1, 5, 1, 0, 0, 0, 0xAA]] = some s₂ ∧
        s₁.handed = s₂.handed ∧ s₁.proto = s₂.proto ∧
          s₁.isClosed = s₂.isClosed ∧
            (s₁.isClosed = false -> s₁.buffer.unread = s₂.buffer.unread) := by
  have h₁ : (awaitingChunks.onReads .accepting
      [[3, 0, 0, 7, 0], [0, 1, 5, 1, 0, 0, 0, 0xAA]]).isSome := by
    decide +kernel
  have h₂ : (awaitingChunks.onReads .accepting
      [[3, 0, 0, 7, 0, 0, 1, 5, 1, 0, 0, 0, 0xAA]]).isSome := by
    decide +kernel
  rcases Option.isSome_iff_exists.mp h₁ with ⟨s₁, h₁⟩
  rcases Option.isSome_iff_exists.mp h₂ with ⟨s₂, h₂⟩
  have hstep : awaitingChunks.proto.nextStep ≠ .handleC0C1 := by
    simp [awaitingChunks]
  exact ⟨s₁, s₂, h₁, h₂,
    onReads_cut_independent .accepting (s := awaitingChunks)
      (FlatBuffer.create_valid 0) rfl (FlatBuffer.create_unread 0) hstep
      (by simp) h₁ h₂⟩

end RtmpSession

end Session

end Rtmp
end Streaming
