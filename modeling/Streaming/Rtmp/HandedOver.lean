import Streaming.Rtmp.Conversation

/-!
# What is handed over

The packets that a parser has handed over have been handled one after the other,
and each holds its message in a well-formed buffer.
-/

namespace Streaming
namespace Rtmp

open Foundation Media Network Util

section Handling

variable {σ : Type} {env : Env σ}

/-- The packets are handled without an exception, and this becomes of the members
that only handlers use. -/
inductive Accepts (env : Env σ) : σ -> List RtmpPacket -> σ -> Prop
  | nil (app : σ) : Accepts env app [] app
  | cons {st st' : RtmpProtocol σ} {pkt : RtmpPacket} {pkts : List RtmpPacket}
      {app app' : σ} (happ : st.app = app)
      (hhandle : handleChunk env st pkt = .done st')
      (hrest : Accepts env st'.app pkts app') :
      Accepts env app (pkt :: pkts) app'

theorem Accepts.append {app app' app'' : σ} {pkts pkts' : List RtmpPacket}
    (h : Accepts env app pkts app') (h' : Accepts env app' pkts' app'') :
    Accepts env app (pkts ++ pkts') app'' := by
  induction h with
  | nil app => exact h'
  | cons happ hhandle _ ih => exact .cons happ hhandle (ih h')

/-!
## One chunk
-/

end Handling

/-!
## What a sender completes
-/

namespace Sender

end Sender

/-!
## A client that waits for the server

It sends C2 and its chunks once C0 and C1 have been answered.
-/

section Session

variable {σ : Type} {env : Env σ} {app : σ} {received : Bytes}
  {s s' : RtmpSession σ}

/-- How far a session has come with C0 and C1, behind which nothing has been
received yet. -/
inductive Greeted (app : σ) (received : Bytes) (s : RtmpSession σ) : Prop
  | early (hvalid : s.buffer.Valid) (hopen : s.isClosed = false)
      (hproto : s.proto = { app := app }) (hhanded : s.handed = [])
      (hunread : s.buffer.unread = received)
      (hshort : received.length < 1 + kC1HandshakeSize)
  | awaitingC2 (hlength : received.length = 1 + kC1HandshakeSize)
      (hvalid : s.buffer.Valid) (hopen : s.isClosed = false)
      (hstep : s.proto.nextStep = .handleC2)
      (hsize : s.proto.chunkSizeIn = kDefaultChunkLength)
      (hmap : s.proto.chunkedDataMap = fun _ => {})
      (happ : s.proto.app = app) (hhanded : s.handed = [])
      (hunread : s.buffer.unread = [])
  | closed (hclosed : s.isClosed = true)

/-- All that has been received is still unread. -/
theorem safeConsume_nothing {b : FlatBuffer} (h : b.Valid) {bytes : Bytes}
    (hunread : b.unread = bytes) :
    (b.safeConsume (b.unreadLength - bytes.length)).unread = bytes := by
  have hlength := h.unread_length
  rw [hunread] at hlength
  rw [FlatBuffer.safeConsume_unread (Nat.sub_le _ _), hlength, Nat.sub_self,
    List.drop_zero, hunread]

theorem onRecv_early (hvalid : s.buffer.Valid) (hopen : s.isClosed = false)
    (hproto : s.proto = { app := app }) (hhanded : s.handed = [])
    (hunread : s.buffer.unread = received)
    (hlength : received.length <= 1 + kC1HandshakeSize) :
    Greeted app received (s.onRecv env) := by
  have hnext : nextStepFunc env s.proto s.buffer.unread =
      handleC0C1 env s.proto received := by
    unfold nextStepFunc
    rw [hproto, hunread]
  unfold RtmpSession.onRecv
  rw [hnext]
  unfold handleC0C1
  rcases Nat.lt_or_ge received.length (1 + kC1HandshakeSize) with hshort | hfull
  · rw [if_pos hshort]
    exact .early (FlatBuffer.safeConsume_valid hvalid _) hopen hproto
      (List.append_eq_nil_iff.mpr ⟨hhanded, rfl⟩)
      (safeConsume_nothing hvalid hunread) hshort
  · have hrest : received.drop (1 + kC1HandshakeSize) = [] :=
      List.drop_eq_nil_iff.mpr hlength
    rw [if_neg (Nat.not_lt.mpr hfull)]
    by_cases hversion : byteAt received 0 = 3
    · have hread : (s.buffer.safeConsume s.buffer.unreadLength).unread = [] := by
        rw [FlatBuffer.safeConsume_unread (Nat.le_refl _),
          ← hvalid.unread_length, List.drop_length]
      rw [if_neg (not_not.mpr hversion), hproto, hrest]
      refine .awaitingC2 (Nat.le_antisymm hlength hfull)
        (FlatBuffer.safeConsume_valid hvalid _) hopen rfl rfl rfl rfl
        (List.append_eq_nil_iff.mpr ⟨hhanded, rfl⟩) ?_
      exact hread
    · rw [if_pos hversion]
      exact .closed rfl

theorem Greeted.onReads {reads : List Bytes} (h : Greeted app received s)
    (hlength : (received ++ reads.flatten).length <= 1 + kC1HandshakeSize)
    (hreads : s.onReads env reads = some s') :
    Greeted app (received ++ reads.flatten) s' := by
  induction reads generalizing s received with
  | nil =>
      cases hreads
      rw [List.flatten_nil, List.append_nil]
      exact h
  | cons bytes reads ih =>
      simp only [RtmpSession.onReads, Option.bind_eq_some_iff] at hreads
      rcases hreads with ⟨t, hread, hreads⟩
      rw [List.flatten_cons, ← List.append_assoc] at hlength ⊢
      apply ih ?_ hlength hreads
      have hbefore : (received ++ bytes).length <= 1 + kC1HandshakeSize := by
        rw [List.length_append] at hlength
        exact Nat.le_of_add_right_le hlength
      cases h with
      | early hvalid hopen hproto hhanded hunread _ =>
          rcases onRead_cases hvalid hread with
            ⟨hclosed, _⟩ | ⟨_, b, hb, hbytes, ht⟩
          · rw [hopen] at hclosed
            cases hclosed
          · rw [ht]
            rw [hunread] at hbytes
            exact onRecv_early hb hopen hproto hhanded hbytes hbefore
      | awaitingC2 hall hvalid hopen hstep hsize hmap happ hhanded hunread =>
          rw [List.length_append, hall] at hbefore
          have hnil : bytes = [] :=
            List.eq_nil_of_length_eq_zero (by omega)
          rcases onRead_cases hvalid hread with
            ⟨hclosed, _⟩ | ⟨_, b, hb, hbytes, ht⟩
          · rw [hopen] at hclosed
            cases hclosed
          · rw [hunread, hnil] at hbytes
            have hnext : nextStepFunc env s.proto b.unread =
                .waiting s.proto [] [] := by
              unfold nextStepFunc
              rw [hstep, hbytes]
              rfl
            rw [ht, hnil, List.append_nil]
            unfold RtmpSession.onRecv
            rw [hnext]
            exact .awaitingC2 hall (FlatBuffer.safeConsume_valid hb _) hopen hstep
              hsize hmap happ (List.append_eq_nil_iff.mpr ⟨hhanded, rfl⟩)
              (safeConsume_nothing hb hbytes)
      | closed hclosed =>
          unfold RtmpSession.onRead at hread
          rw [if_pos hclosed] at hread
          cases hread
          exact .closed hclosed

end Session

/-!
## What becomes of the rest of the server
-/

section World

def IsCommand (typeId : Nat) : Prop :=
  typeId = msgCmd ∨ typeId = msgCmd3

def IsData (typeId : Nat) : Prop :=
  typeId = msgData ∨ typeId = msgData3

def IsMedia (typeId : Nat) : Prop :=
  typeId = msgAudio ∨ typeId = msgVideo

instance (typeId : Nat) : Decidable (IsCommand typeId) :=
  inferInstanceAs (Decidable (_ ∨ _))

instance (typeId : Nat) : Decidable (IsData typeId) :=
  inferInstanceAs (Decidable (_ ∨ _))

instance (typeId : Nat) : Decidable (IsMedia typeId) :=
  inferInstanceAs (Decidable (_ ∨ _))

theorem IsData.not_media {typeId : Nat} (h : IsData typeId) :
    ¬ IsMedia typeId := by
  rcases h with h | h <;> rw [h] <;> decide

theorem IsData.not_command {typeId : Nat} (h : IsData typeId) :
    ¬ IsCommand typeId := by
  rcases h with h | h <;> rw [h] <;> decide

variable {W S : Type} {sources : Sources W}

/-- What handling a message without an exception does behind the connection. -/
inductive Sources.Moves (sources : Sources W) (world : W) (pkt : RtmpPacket)
    (world' : W) : Prop
  | untouched (hmedia : ¬ IsMedia pkt.msgTypeId) (hdata : ¬ IsData pkt.msgTypeId)
      (hworld : world' = world)
  | published (hcommand : IsCommand pkt.msgTypeId) (info : MediaInfo)
      (htake : sources.takeSource world info = (.ok ⟨⟩, world'))
  | described (hdata : IsData pkt.msgTypeId)
      (hmetadata : sources.onProcessMetadata world pkt = (.ok ⟨⟩, world'))
  | pushed (hmedia : IsMedia pkt.msgTypeId)
      (hpush : sources.processAvPacket world pkt = (.ok ⟨⟩, world'))

theorem reply_world {send : Bytes -> S -> Exit S} {payload : Bytes}
    {p p' : S × ClientState W} (h : reply send payload p = .done p') :
    p'.2 = p.2 := by
  unfold reply at h
  split at h
  · cases h
    rfl
  · cases h
  · cases h

theorem onAmfPublish_world {send : Bytes -> S -> Exit S} {dec : FlatBuffer}
    {p p' : S × ClientState W}
    (h : onAmfPublish sources send dec p = .done p') :
    exists info, sources.takeSource p.2.world info = (.ok ⟨⟩, p'.2.world) := by
  unfold onAmfPublish at h
  split at h
  · cases h
  split at h
  · cases h
  split at h
  · cases h
  split at h
  · cases h
  rename_i info _
  split at h
  · split at h
    · rename_i world htake
      rw [reply_world h]
      exact ⟨info, htake⟩
    · cases hanswer : reply send _ _ with
      | done q =>
          rw [hanswer] at h
          cases h
      | threw what q =>
          rw [hanswer] at h
          cases h
      | crashed =>
          rw [hanswer] at h
          cases h
  · cases h

theorem onAmfConnect_world {send : Bytes -> S -> Exit S} {dec : FlatBuffer}
    {p p' : S × ClientState W} (h : onAmfConnect send dec p = .done p') :
    p'.2.world = p.2.world := by
  unfold onAmfConnect at h
  split at h
  · cases h
  split at h
  · cases h
  rename_i info _
  cases hfirst : reply send (connectResult p.2.transactionId)
      (p.1, { p.2 with mediaInfo := some info }) with
  | done q =>
      rw [hfirst] at h
      rw [reply_world h, reply_world hfirst]
  | threw what q =>
      rw [hfirst] at h
      cases h
  | crashed =>
      rw [hfirst] at h
      cases h

theorem processCmd_world {send : Bytes -> S -> Exit S} {pkt : RtmpPacket}
    {p p' : S × ClientState W}
    (h : processCmd sources send p pkt = .done p') :
    p'.2.world = p.2.world ∨
      exists info, sources.takeSource p.2.world info = (.ok ⟨⟩, p'.2.world) := by
  unfold processCmd at h
  split at h
  · cases h
  split at h
  · cases h
    exact Or.inl rfl
  · rename_i command _
    split at h
    · cases h
    · cases command with
      | connect =>
          have hworld := onAmfConnect_world h
          exact Or.inl hworld
      | createStream =>
          have hclient := reply_world h
          have hworld := congrArg ClientState.world hclient
          exact Or.inl hworld
      | publish =>
          have htook := onAmfPublish_world h
          exact Or.inr htook

theorem silent_world
    {handler : W -> RtmpPacket -> Except (Fault BadPointer) PUnit × W}
    {pkt : RtmpPacket} {p p' : S × ClientState W}
    (h : silent handler p pkt = .done p') :
    handler p.2.world pkt = (.ok ⟨⟩, p'.2.world) := by
  unfold silent at h
  split at h
  · rename_i hhandler
    cases h
    exact hhandler
  · cases h
  · cases h

variable {fresh : Nat -> HeaderFields} {depth : Nat} {s1 : Bytes}

theorem handle_done {σ : Type} {st st' : RtmpProtocol σ}
    {handler : SendSide × σ -> RtmpPacket -> Exit (SendSide × σ)}
    {pkt : RtmpPacket} (h : st.handle handler pkt = .done st') :
    handler (st.side, st.app) pkt = .done (st'.side, st'.app) := by
  unfold RtmpProtocol.handle at h
  split at h
  · rename_i p hhandler
    cases h
    exact hhandler
  · cases h
  · cases h

theorem handleChunk_moves {st st' : RtmpProtocol (ClientState W)}
    {pkt : RtmpPacket}
    (h : handleChunk (sources.env fresh depth s1) st pkt = .done st') :
    sources.Moves st.app.world pkt st'.app.world := by
  unfold handleChunk at h
  split at h
  · rename_i hset
    have hother : ¬ IsMedia pkt.msgTypeId ∧ ¬ IsData pkt.msgTypeId := by
      rw [hset]
      decide
    split at h
    · cases h
    · cases h
      exact .untouched hother.1 hother.2 rfl
  split at h
  · rename_i hack
    have hother : ¬ IsMedia pkt.msgTypeId ∧ ¬ IsData pkt.msgTypeId := by
      rw [hack]
      decide
    split at h
    · cases h
    · cases h
      exact .untouched hother.1 hother.2 rfl
  split at h
  · rename_i hcommand
    have hother : ¬ IsMedia pkt.msgTypeId ∧ ¬ IsData pkt.msgTypeId := by
      rcases hcommand with hcommand | hcommand <;> rw [hcommand] <;> decide
    rcases processCmd_world (handle_done h) with hworld | ⟨info, htake⟩
    · exact .untouched hother.1 hother.2 hworld
    · exact .published hcommand info htake
  split at h
  · rename_i hdata
    exact .described hdata (silent_world (handle_done h))
  split at h
  · rename_i hmedia
    split at h
    · exact .pushed hmedia (silent_world (handle_done h))
    · cases h
  · rename_i hdata hmedia
    cases h
    exact .untouched hmedia hdata rfl

/-- What handling the messages, one after the other, does behind the connection. -/
inductive Sources.Moved (sources : Sources W) : W -> List RtmpPacket -> W -> Prop
  | nil (world : W) : Moved sources world [] world
  | cons {world world' world'' : W} {pkt : RtmpPacket} {pkts : List RtmpPacket}
      (hfirst : sources.Moves world pkt world')
      (hrest : Moved sources world' pkts world'') :
      Moved sources world (pkt :: pkts) world''

theorem Accepts.moved {app app' : ClientState W} {pkts : List RtmpPacket}
    (h : Accepts (sources.env fresh depth s1) app pkts app') :
    sources.Moved app.world pkts app'.world := by
  induction h with
  | nil app => exact .nil app.world
  | cons happ hhandle _ ih =>
      rw [← happ]
      exact .cons (handleChunk_moves hhandle) ih

theorem Sources.Moved.split {world world'' : W} {front back : List RtmpPacket}
    (h : sources.Moved world (front ++ back) world'') :
    exists world', sources.Moved world front world' ∧
      sources.Moved world' back world'' := by
  induction front generalizing world with
  | nil => exact ⟨world, .nil world, h⟩
  | cons pkt front ih =>
      cases h with
      | cons hfirst hrest =>
          rcases ih hrest with ⟨world', hfront, hback⟩
          exact ⟨world', .cons hfirst hfront, hback⟩

end World

end Rtmp
end Streaming
