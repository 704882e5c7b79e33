import Streaming.Rtmp.Session

/-!
# What a call leaves unread

`on_parse_rtmp` is called once for each read.  What it leaves unread although it
could go on stays there until the client sends more.
-/

namespace Streaming
namespace Rtmp

open Foundation Network Util

section Leftover

variable {σ : Type} (env : Env σ)

/-- C0 and C1 with nothing wrong, and C2 behind them. -/
def HandshakeAtOnce (st : RtmpProtocol σ) (data : Bytes) : Prop :=
  st.nextStep = .handleC0C1 ∧ byteAt data 0 = 3 ∧
    1 + kC1HandshakeSize + kC1HandshakeSize <= data.length

/-- Nothing more is done about the bytes that are left over. -/
theorem nextStepFunc_again {st st' : RtmpProtocol σ} {data rest : Bytes}
    {items : List RtmpPacket} (hsplit : ¬ HandshakeAtOnce st data)
    (h : nextStepFunc env st data = .waiting st' items rest) :
    nextStepFunc env st' rest = .waiting st' [] rest := by
  cases hstep : st.nextStep with
  | handleC0C1 =>
      simp only [nextStepFunc, hstep, handleC0C1] at h
      split at h
      · rename_i hshort
        cases h
        simp only [nextStepFunc, hstep, handleC0C1]
        rw [if_pos hshort]
      · split at h
        · cases h
        · rename_i hversion
          cases h
          have hrest : (data.drop (1 + kC1HandshakeSize)).length <
              kC1HandshakeSize := by
            rw [List.length_drop]
            have hlong : ¬ 1 + kC1HandshakeSize + kC1HandshakeSize <=
                data.length :=
              fun hle => hsplit ⟨hstep, not_not.mp hversion, hle⟩
            omega
          simp only [nextStepFunc, handleC2]
          rw [if_pos hrest]
  | handleC2 =>
      have hpast : st.nextStep ≠ .handleC0C1 := by simp [hstep]
      rw [nextStepFunc_eq_drain env hpast] at h
      rw [nextStepFunc_eq_drain env (drain_nextStep env hpast h)]
      exact (rtmpParser env).drain_again h
  | splitRtmp =>
      have hpast : st.nextStep ≠ .handleC0C1 := by simp [hstep]
      rw [nextStepFunc_eq_drain env hpast] at h
      rw [nextStepFunc_eq_drain env (drain_nextStep env hpast h)]
      exact (rtmpParser env).drain_again h

/-- C0 and C1 are read alone, and what is behind them is left. -/
theorem nextStepFunc_C0C1 {st : RtmpProtocol σ} {data : Bytes}
    (hstep : st.nextStep = .handleC0C1) (hversion : byteAt data 0 = 3)
    (hlen : 1 + kC1HandshakeSize <= data.length) :
    exists st', nextStepFunc env st data =
        .waiting st' [] (data.drop (1 + kC1HandshakeSize)) ∧
      st'.nextStep = .handleC2 := by
  simp only [nextStepFunc, hstep, handleC0C1]
  rw [if_neg (Nat.not_lt.mpr hlen), if_neg (not_not.mpr hversion)]
  exact ⟨_, rfl, rfl⟩

theorem nextStepFunc_suffix {st st' : RtmpProtocol σ} {data rest : Bytes}
    {items : List RtmpPacket}
    (h : nextStepFunc env st data = .waiting st' items rest) :
    rest <:+ data := by
  cases hstep : st.nextStep with
  | handleC0C1 =>
      simp only [nextStepFunc, hstep, handleC0C1] at h
      split at h
      · cases h
        exact List.suffix_refl _
      · split at h
        · cases h
        · cases h
          exact List.drop_suffix _ _
  | handleC2 =>
      rw [nextStepFunc_eq_drain env (by simp [hstep])] at h
      exact (rtmpParser env).drain_rest_suffix h
  | splitRtmp =>
      rw [nextStepFunc_eq_drain env (by simp [hstep])] at h
      exact (rtmpParser env).drain_rest_suffix h

theorem splitRtmp_nextStep {st st' : RtmpProtocol σ} {data rest : Bytes}
    {items : List RtmpPacket}
    (h : splitRtmp env st data = .waiting st' items rest) :
    st'.nextStep = st.nextStep := by
  apply (chunkParser env).drain_keeps
    (I := fun s => s.nextStep = st.nextStep) ?_ ?_ rfl h
  · intro s input s' hs hattempt
    exact (splitOnce_needMore_nextStep hattempt).trans hs
  · intro s input s' out k hs hattempt
    exact (splitOnce_nextStep hattempt).trans hs

/-- With all of C2 there, the handshake is over or the call throws. -/
theorem nextStepFunc_C2 {st st' : RtmpProtocol σ} {data rest : Bytes}
    {items : List RtmpPacket} (hstep : st.nextStep = .handleC2)
    (hlen : kC1HandshakeSize <= data.length)
    (h : nextStepFunc env st data = .waiting st' items rest) :
    st'.nextStep = .splitRtmp := by
  simp only [nextStepFunc, hstep, handleC2] at h
  rw [if_neg (Nat.not_lt.mpr hlen)] at h
  split at h
  · exact splitRtmp_nextStep env h
  · cases h
  · cases h

namespace RtmpSession

/-- A call that returns has done all that there is to do: another one, without
new bytes, changes nothing and sends nothing. -/
def Settles (s : RtmpSession σ) : Prop :=
  (s.onRecv env).isClosed = false ->
    (s.onRecv env).onRecv env = s.onRecv env

/-- What is unread after a call that returns is what the parser has left. -/
theorem onRecv_returned {s : RtmpSession σ} (hvalid : s.buffer.Valid)
    (h : (s.onRecv env).isClosed = false) :
    exists items, nextStepFunc env s.proto s.buffer.unread =
        .waiting (s.onRecv env).proto items (s.onRecv env).buffer.unread ∧
      (s.onRecv env).buffer.Valid := by
  unfold onRecv at h ⊢
  cases hnext : nextStepFunc env s.proto s.buffer.unread with
  | failed proto items =>
      rw [hnext] at h
      cases h
  | waiting proto items rest =>
      have hlen := hvalid.unread_length
      have hsuffix := nextStepFunc_suffix env hnext
      have hrest : s.buffer.unread.drop
          (s.buffer.unreadLength - rest.length) = rest := by
        rw [← hlen]
        exact (List.suffix_iff_eq_drop.mp hsuffix).symm
      refine ⟨items, ?_, FlatBuffer.safeConsume_valid hvalid _⟩
      dsimp only
      rw [FlatBuffer.safeConsume_unread (by omega), hrest]

theorem onRecv_settled {s : RtmpSession σ} (hvalid : s.buffer.Valid)
    (h : nextStepFunc env s.proto s.buffer.unread =
      .waiting s.proto [] s.buffer.unread) : s.onRecv env = s := by
  unfold onRecv
  rw [h]
  dsimp only
  rw [hvalid.unread_length, Nat.sub_self, List.append_nil]
  simp [FlatBuffer.safeConsume]

theorem settles_of_not_atOnce {s : RtmpSession σ} (hvalid : s.buffer.Valid)
    (hsplit : ¬ HandshakeAtOnce s.proto s.buffer.unread) : s.Settles env := by
  intro hreturned
  rcases onRecv_returned env hvalid hreturned with ⟨items, hnext, hvalid'⟩
  exact onRecv_settled env hvalid' (nextStepFunc_again env hsplit hnext)

/-- C2 is still to be read, and another call reads it. -/
theorem not_settles_atOnce {s : RtmpSession σ} (hvalid : s.buffer.Valid)
    (hopen : s.isClosed = false)
    (h : HandshakeAtOnce s.proto s.buffer.unread) : ¬ s.Settles env := by
  intro hsettles
  rcases nextStepFunc_C0C1 env h.1 h.2.1
    (le_trans (Nat.le_add_right _ _) h.2.2) with ⟨proto, hnext, hstep⟩
  have hreturned : (s.onRecv env).isClosed = false := by
    unfold onRecv
    rw [hnext]
    exact hopen
  rcases onRecv_returned env hvalid hreturned with ⟨items, hfirst, hvalid'⟩
  rw [hnext, Outcome.waiting.injEq] at hfirst
  rcases hfirst with ⟨hproto, _, hrest⟩
  rw [hproto] at hstep
  have hlen : kC1HandshakeSize <= (s.onRecv env).buffer.unread.length := by
    rw [← hrest, List.length_drop]
    have hbytes := h.2.2
    omega
  have hagain := hsettles hreturned
  have hreturned' : ((s.onRecv env).onRecv env).isClosed = false := by
    rw [hagain]
    exact hreturned
  rcases onRecv_returned env hvalid' hreturned' with ⟨items', hsecond, _⟩
  have hdone := nextStepFunc_C2 env hstep hlen hsecond
  rw [hagain, hstep] at hdone
  cases hdone

/-- A call of `on_parse_rtmp` that returns leaves nothing that it could have
done, unless the client has sent C2 along with C0 and C1: that call stops behind
C1 and leaves C2 unread. -/
theorem settles_iff {s : RtmpSession σ} (hvalid : s.buffer.Valid)
    (hopen : s.isClosed = false) :
    s.Settles env <-> ¬ HandshakeAtOnce s.proto s.buffer.unread := by
  constructor
  · intro hsettles h
    exact not_settles_atOnce env hvalid hopen h hsettles
  · exact settles_of_not_atOnce env hvalid

/-- A new session whose client has sent C0 and C1, and the beginning of C2. -/
def patientClient : RtmpSession Unit where
  proto := { app := () }
  buffer := (FlatBuffer.create kMaxBufferCacheSize).write
    (3 :: List.replicate (kC1HandshakeSize + 100) 0)

/-- The call returns with C2 still to come. -/
theorem settles_iff_patientClient :
    (patientClient.Settles .accepting <->
      ¬ HandshakeAtOnce patientClient.proto patientClient.buffer.unread) ∧
    patientClient.Settles .accepting ∧
    (patientClient.onRecv .accepting).isClosed = false ∧
    (patientClient.onRecv .accepting).proto.nextStep = .handleC2 := by
  have hempty : (FlatBuffer.create kMaxBufferCacheSize).Valid :=
    FlatBuffer.create_valid _
  have hvalid : patientClient.buffer.Valid := FlatBuffer.write_valid hempty _
  have hunread : patientClient.buffer.unread =
      3 :: List.replicate (kC1HandshakeSize + 100) 0 := by
    unfold patientClient
    rw [FlatBuffer.write_unread hempty, FlatBuffer.create_unread]
    rfl
  have hlen : patientClient.buffer.unread.length = kC1HandshakeSize + 101 := by
    rw [hunread, List.length_cons, List.length_replicate]
  have hversion : byteAt patientClient.buffer.unread 0 = 3 := by
    rw [hunread]
    rfl
  have hiff := settles_iff .accepting hvalid (s := patientClient) rfl
  have hpart : ¬ HandshakeAtOnce patientClient.proto
      patientClient.buffer.unread := by
    rintro ⟨_, _, hall⟩
    rw [hlen] at hall
    exact absurd hall (by decide)
  have hfresh : patientClient.proto.nextStep = .handleC0C1 := rfl
  rcases nextStepFunc_C0C1 .accepting hfresh hversion (by rw [hlen]; decide)
    with ⟨st', hnext, hstep⟩
  refine ⟨hiff, hiff.mpr hpart, ?_, ?_⟩
  · unfold onRecv
    rw [hnext]
    rfl
  · unfold onRecv
    rw [hnext]
    exact hstep

/-- A new session whose client has not waited for S1. -/
def impatientClient : RtmpSession Unit where
  proto := { app := () }
  buffer := (FlatBuffer.create kMaxBufferCacheSize).write
    (3 :: List.replicate (kC1HandshakeSize + kC1HandshakeSize) 0)

theorem not_settles_impatientClient :
    ¬ impatientClient.Settles .accepting := by
  have hvalid : (FlatBuffer.create kMaxBufferCacheSize).Valid :=
    FlatBuffer.create_valid _
  have hunread : impatientClient.buffer.unread =
      3 :: List.replicate (kC1HandshakeSize + kC1HandshakeSize) 0 := by
    unfold impatientClient
    rw [FlatBuffer.write_unread hvalid, FlatBuffer.create_unread]
    rfl
  apply not_settles_atOnce .accepting (FlatBuffer.write_valid hvalid _) rfl
  refine ⟨rfl, ?_, ?_⟩
  · rw [hunread]
    rfl
  · rw [hunread, List.length_cons, List.length_replicate]
    omega

end RtmpSession

end Leftover

end Rtmp
end Streaming
