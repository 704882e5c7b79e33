import Streaming.Rtmp.Exchange
import Streaming.Rtmp.Indeterminate
import Streaming.Rtmp.Session

/-!
# Whole conversations

From its first byte on, whatever a client sends and however it is cut into
reads, it is answered the handshake and then chunks, from which a reader of
chunks gets the opening messages and what the handlers have said.
-/

namespace Streaming
namespace Rtmp

open Foundation Media Network Util

/-!
## The client's reader
-/

/-- A new reader of chunks gets what a sender has finished. -/
theorem Finishes.readBack {cs : List Chunk} {size : Nat} {bytes : Bytes}
    {items : List Delivered} (h : Finishes {} cs size bytes items)
    (hitems : ControlsWhole items) :
    exists client got, splitRtmp .accepting { app := () } bytes =
        .waiting client got [] ∧
      got.map RtmpPacket.delivered = items := by
  have hsim : Simulates {} ({ app := () } : RtmpProtocol Unit) :=
    simulates_initial rfl rfl
  rcases splitRtmp_wire .accepting Sender.initial_sound hsim h.wellFormed with
    ⟨client, got, hfailed, hgot⟩ | ⟨client, got, hwaiting, hgot, _⟩
  · have hhandles : HandlesAll .accepting ({}, ())
        (splitRtmp .accepting { app := () } (Sender.wire {} cs)) :=
      splitRtmp_handles accepting_keepWindow rfl (buffersValid_initial rfl) _
    rw [hfailed] at hhandles
    rw [h.completed_eq] at hgot
    rcases accepting_returnsFrom ({}, ()) hitems got hhandles.1 hgot with
      ⟨q, hall⟩
    exact absurd hall hhandles.not_handled
  · rw [h.wire_eq] at hwaiting
    rw [h.completed_eq] at hgot
    exact ⟨client, got, hwaiting, hgot⟩

/-!
## The opening
-/

/-- The calls that follow C2. -/
def openingCalls : List SendCall :=
  [.setChunkSize (4 * 1024),
    .sendRtmp msgAck 0 (setBe32 (100 * 1024)) 0 chunkNetwork,
    .sendRtmp msgSetPeerBw 0 (setBe32 (100 * 1024) ++ [0x02]) 0 chunkNetwork]

def openings : List Delivered :=
  openingCalls.map (SendCall.delivered 0)

section Opening

variable {σ : Type} {env : Env σ} {depth : Nat} {greeting : Bytes}
  {items : List Delivered} {side : SendSide}

theorem sendCommands_spoken (hdepth : env.stackDepth = depth + 1)
    (hid : side.msgStreamId = 0) (h : Spoken greeting items side) :
    exists side', sendCommands env side = .done side' ∧
      Spoken greeting (items ++ openings) side' := by
  have hstream : side.msgStreamId < 2 ^ 32 := by
    rw [hid]
    decide
  have hsize : (SendCall.setChunkSize (4 * 1024)).Allowed := by
    decide
  have hack : (SendCall.sendRtmp msgAck 0 (setBe32 (100 * 1024)) 0
      chunkNetwork).Allowed := by
    decide
  have hbandwidth : (SendCall.sendRtmp msgSetPeerBw 0
      (setBe32 (100 * 1024) ++ [0x02]) 0 chunkNetwork).Allowed := by
    decide
  rcases h.run depth hstream hsize with ⟨s, hfirst, hs, hspoken⟩
  rw [hid] at hs hspoken
  rcases hspoken.run depth (by rw [hs]; decide) hack with
    ⟨t, hsecond, ht, hspoken⟩
  rw [hs] at ht hspoken
  rcases hspoken.run depth (by rw [ht]; decide) hbandwidth with
    ⟨u, hthird, _, hspoken⟩
  rw [ht] at hspoken
  refine ⟨u, ?_, ?_⟩
  · change side.setChunkSize (depth + 1) (4 * 1024) = .done s at hfirst
    unfold sendCommands SendSide.sendAcknowledgement SendSide.setPeerBandwidth
    rw [hdepth, hfirst]
    change (s.sendRtmp (depth + 1) msgAck s.msgStreamId _ 0 chunkNetwork).bind _ =
      _
    change s.sendRtmp (depth + 1) msgAck 0 _ 0 chunkNetwork = .done t at hsecond
    rw [hs, hsecond]
    change t.sendRtmp (depth + 1) msgSetPeerBw t.msgStreamId _ 0 chunkNetwork = _
    rw [ht]
    exact hthird
  · rw [List.append_assoc, List.append_assoc] at hspoken
    exact hspoken

end Opening

/-!
## Read after read
-/

/-- S0, S1 and S2, which is the client's own C1. -/
def greeting (s1 received : Bytes) : Bytes :=
  0x03 :: (s1 ++ (received.drop 1).take kC1HandshakeSize)

/-- There are a whole C0 and C1 of version 3. -/
def Greets (received : Bytes) : Prop :=
  1 + kC1HandshakeSize <= received.length ∧ byteAt received 0 = 3

theorem Greets.append {received : Bytes} (h : Greets received) (more : Bytes) :
    Greets (received ++ more) := by
  rcases h with ⟨hlength, hversion⟩
  constructor
  · rw [List.length_append]
    exact Nat.le_add_right_of_le hlength
  · unfold byteAt at hversion ⊢
    rw [List.getD_append _ _ _ _ (by omega)]
    exact hversion

theorem greeting_append (s1 : Bytes) {received : Bytes} (h : Greets received)
    (more : Bytes) : greeting s1 (received ++ more) = greeting s1 received := by
  have hlength := h.1
  have hdrop : kC1HandshakeSize <= (received.drop 1).length := by
    rw [List.length_drop]
    omega
  unfold greeting
  rw [List.drop_append_of_le_length (by omega),
    List.take_append_of_le_length hdrop]

section Session

variable {W : Type} {sources : Sources W} {fresh : Nat -> HeaderFields}
  {depth : Nat} {s1 received : Bytes} {app : ClientState W}
  {s s' : RtmpSession (ClientState W)}

/-- How far a session has come with what it has received, and what it has said.
It has been closed in the first state for another version than 3. -/
inductive Conversing (sources : Sources W) (s1 : Bytes) (app : ClientState W)
    (received : Bytes) (s : RtmpSession (ClientState W)) : Prop
  | silent (hsent : s.proto.side = {}) (hhanded : s.handed = [])
      (hopen : s.isClosed = false -> s.proto.nextStep = .handleC0C1 ∧
        s.proto.app = app ∧ s.buffer.unread = received ∧
          received.length < 1 + kC1HandshakeSize)
      (hclosed : s.isClosed = true ->
        1 + kC1HandshakeSize <= received.length ∧ byteAt received 0 ≠ 3)
  | greeted (hopen : s.isClosed = false) (hstep : s.proto.nextStep = .handleC2)
      (hgreets : Greets received)
      (hid : s.proto.side.msgStreamId = 0) (happ : s.proto.app = app)
      (hhanded : s.handed = [])
      (hspoken : Spoken (greeting s1 received) [] s.proto.side)
  | talking (hopen : s.isClosed = false) (hstep : s.proto.nextStep = .splitRtmp)
      (hgreets : Greets received)
      (said : List Delivered)
      (hsaid : sources.Handled app s.handed said s.proto.app)
      (hspoken : Spoken (greeting s1 received) (openings ++ said) s.proto.side)
  | ended (hclosed : s.isClosed = true)
      (hgreets : Greets received)
      (said : List Delivered) (hsaid : sources.Ended app s.handed said)
      (hspoken : Spoken (greeting s1 received) (openings ++ said) s.proto.side)

/-- A read is stored and parsed, unless the session is closed. -/
theorem onRead_cases {σ : Type} {env : Env σ} {s s' : RtmpSession σ}
    {bytes : Bytes} (hvalid : s.buffer.Valid)
    (h : s.onRead env bytes = some s') :
    (s.isClosed = true ∧ s' = s) ∨
      s.isClosed = false ∧ exists b, b.Valid ∧
        b.unread = s.buffer.unread ++ bytes ∧
          s' = RtmpSession.onRecv env { s with buffer := b } := by
  unfold RtmpSession.onRead at h
  rcases Bool.eq_false_or_eq_true s.isClosed with hclosed | hopen
  · rw [if_pos hclosed] at h
    cases h
    exact Or.inl ⟨hclosed, rfl⟩
  · rw [if_neg (by rw [hopen]; decide)] at h
    refine Or.inr ⟨hopen, ?_⟩
    cases hlength : FlatBuffer.socketReadLength kSocketReadSize s.buffer with
    | error what buffer =>
        rw [hlength] at h
        cases h
    | ok n buffer =>
        rw [hlength] at h
        rcases FlatBuffer.socketReadLength_spec hvalid hlength with
          ⟨_, hb, hunread, _⟩
        simp only [FlatBuffer.socketConsume] at h
        split at h
        · cases h
        · rename_i b hconsume
          split at hconsume
          · cases hconsume
          · rename_i hroom
            cases hconsume
            have hfits : bytes.length <= buffer.writableBytes := by
              simpa [FlatBuffer.writableBytes, FlatBuffer.fill] using hroom
            rcases FlatBuffer.fill_advance hb hfits with ⟨hfull, hfilled⟩
            cases h
            rw [← hunread]
            exact ⟨_, hfull, hfilled, rfl⟩

/-- What has been handed over so far, and then the messages of one more call. -/
theorem onRecv_splitRtmp {said : List Delivered}
    {proto : RtmpProtocol (ClientState W)} {data : Bytes}
    (hok : sources.Sends Sendable)
    (hgreets : Greets received)
    (hnext : nextStepFunc (sources.env fresh (depth + 1) s1) s.proto
      s.buffer.unread = splitRtmp (sources.env fresh (depth + 1) s1) proto data)
    (hproto : proto.nextStep = .splitRtmp)
    (hsaid : sources.Handled app s.handed said proto.app)
    (hspoken : Spoken (greeting s1 received) (openings ++ said) proto.side)
    (hopen : s.isClosed = false) :
    Conversing sources s1 app received
      (RtmpSession.onRecv (sources.env fresh (depth + 1) s1) s) := by
  have hears : HearsAll sources (greeting s1 received) (openings ++ said)
      proto.app (splitRtmp (sources.env fresh (depth + 1) s1) proto data) :=
    splitRtmp_hears hok hspoken data
  unfold RtmpSession.onRecv
  rw [hnext]
  cases hdrain : splitRtmp (sources.env fresh (depth + 1) s1) proto data with
  | waiting st' pkts rest =>
      rw [hdrain] at hears
      rcases hears with ⟨later, hlater, hmore⟩
      rw [List.append_assoc] at hmore
      refine .talking hopen ?_ hgreets (said ++ later) (hsaid.append hlater) hmore
      exact (chunkParser (sources.env fresh (depth + 1) s1)).drain_keeps
          (I := fun st => st.nextStep = .splitRtmp)
          (fun hst hattempt => (splitOnce_needMore_nextStep hattempt).trans hst)
          (fun hst hattempt => (splitOnce_nextStep hattempt).trans hst)
          hproto hdrain
  | failed st' pkts =>
      rw [hdrain] at hears
      rcases hears with ⟨later, hlater, hmore⟩
      rw [List.append_assoc] at hmore
      exact .ended rfl hgreets (said ++ later) (hsaid.ended hlater) hmore

/-- The handshake up to C1. -/
theorem onRecv_handleC0C1 (hvalid : s.buffer.Valid) (hsent : s.proto.side = {})
    (hhanded : s.handed = []) (hopen : s.isClosed = false)
    (hstep : s.proto.nextStep = .handleC0C1) (happ : s.proto.app = app)
    (hunread : s.buffer.unread = received) :
    Conversing sources s1 app received
      (RtmpSession.onRecv (sources.env fresh (depth + 1) s1) s) := by
  have hnext : nextStepFunc (sources.env fresh (depth + 1) s1) s.proto
      s.buffer.unread =
        handleC0C1 (sources.env fresh (depth + 1) s1) s.proto received := by
    unfold nextStepFunc
    rw [hstep, hunread]
  unfold RtmpSession.onRecv
  rw [hnext]
  unfold handleC0C1
  rcases Nat.lt_or_ge received.length (1 + kC1HandshakeSize) with hshort | hfull
  · rw [if_pos hshort]
    have hlength := hvalid.unread_length
    have hkept : (s.buffer.safeConsume
        (s.buffer.unreadLength - received.length)).unread = received := by
      rw [hunread] at hlength
      rw [FlatBuffer.safeConsume_unread (Nat.sub_le _ _), hlength, Nat.sub_self,
        List.drop_zero, hunread]
    refine .silent hsent (List.append_eq_nil_iff.mpr ⟨hhanded, rfl⟩)
      (fun _ => ⟨hstep, happ, hkept, hshort⟩) fun hclosed => ?_
    rw [hopen] at hclosed
    cases hclosed
  · rw [if_neg (Nat.not_lt.mpr hfull)]
    by_cases hversion : byteAt received 0 = 3
    · rw [if_neg (not_not.mpr hversion)]
      refine .greeted hopen rfl ⟨hfull, hversion⟩ ?_ happ
        (List.append_eq_nil_iff.mpr ⟨hhanded, rfl⟩) ?_
      · simp only
        rw [hsent]
        rfl
      · simp only
        rw [hsent]
        refine ⟨⟨[], [], ?_, trivial, rfl, rfl, fun id => rfl, rfl⟩,
          show 0 < kDefaultChunkLength by decide, rfl⟩
        simp [SendSide.send, greeting, Sources.env]
    · rw [if_pos hversion]
      refine .silent hsent (List.append_eq_nil_iff.mpr ⟨hhanded, rfl⟩) ?_
        fun _ => ⟨hfull, hversion⟩
      intro hcontra
      cases hcontra

/-- The handshake behind C2. -/
theorem onRecv_handleC2 (hok : sources.Sends Sendable) (hopen : s.isClosed = false)
    (hstep : s.proto.nextStep = .handleC2)
    (hgreets : Greets received)
    (hid : s.proto.side.msgStreamId = 0) (happ : s.proto.app = app)
    (hhanded : s.handed = [])
    (hspoken : Spoken (greeting s1 received) [] s.proto.side) :
    Conversing sources s1 app received
      (RtmpSession.onRecv (sources.env fresh (depth + 1) s1) s) := by
  have hnext : nextStepFunc (sources.env fresh (depth + 1) s1) s.proto
      s.buffer.unread =
        handleC2 (sources.env fresh (depth + 1) s1) s.proto s.buffer.unread := by
    unfold nextStepFunc
    rw [hstep]
  have hdepth : (sources.env fresh (depth + 1) s1).stackDepth = depth + 1 := rfl
  unfold handleC2 at hnext
  by_cases hshort : s.buffer.unread.length < kC1HandshakeSize
  · rw [if_pos hshort] at hnext
    unfold RtmpSession.onRecv
    rw [hnext]
    exact .greeted hopen hstep hgreets hid happ
      (List.append_eq_nil_iff.mpr ⟨hhanded, rfl⟩) hspoken
  · rcases sendCommands_spoken hdepth hid hspoken with ⟨side, hsend, hopened⟩
    rw [if_neg hshort, hsend] at hnext
    have hsaid : sources.Handled app s.handed [] s.proto.app := by
      rw [hhanded, happ]
      exact .nil app
    exact onRecv_splitRtmp hok hgreets hnext rfl hsaid hopened hopen

theorem onRecv_valid {σ : Type} {env : Env σ} {s : RtmpSession σ}
    (h : s.buffer.Valid) : (RtmpSession.onRecv env s).buffer.Valid := by
  unfold RtmpSession.onRecv
  split
  · exact FlatBuffer.safeConsume_valid h _
  · exact h

/-- One read that is parsed. -/
theorem Conversing.onRecv (hok : sources.Sends Sendable)
    (h : Conversing sources s1 app received s) (hopen : s.isClosed = false)
    {b : FlatBuffer} {bytes : Bytes} (hvalid : b.Valid)
    (hb : b.unread = s.buffer.unread ++ bytes) :
    Conversing sources s1 app (received ++ bytes)
      (RtmpSession.onRecv (sources.env fresh (depth + 1) s1)
        { s with buffer := b }) := by
  cases h with
  | silent hsent hhanded hstart _ =>
      rcases hstart hopen with ⟨hstep, happ, hunread, _⟩
      rw [hunread] at hb
      exact onRecv_handleC0C1 hvalid hsent hhanded hopen hstep happ hb
  | greeted _ hstep hgreets hid happ hhanded hspoken =>
      rw [← greeting_append s1 hgreets bytes] at hspoken
      exact onRecv_handleC2 hok hopen hstep (hgreets.append bytes) hid happ
        hhanded hspoken
  | talking _ hstep hgreets said hsaid hspoken =>
      rw [← greeting_append s1 hgreets bytes] at hspoken
      have hnext : nextStepFunc (sources.env fresh (depth + 1) s1) s.proto
          b.unread = splitRtmp (sources.env fresh (depth + 1) s1) s.proto
            b.unread := by
        unfold nextStepFunc
        rw [hstep]
      exact onRecv_splitRtmp hok (hgreets.append bytes) hnext hstep hsaid hspoken
        hopen
  | ended hclosed _ _ _ _ =>
      rw [hopen] at hclosed
      cases hclosed

/-- What a closed session receives changes nothing. -/
theorem Conversing.closed (h : Conversing sources s1 app received s)
    (hclosed : s.isClosed = true) (bytes : Bytes) :
    Conversing sources s1 app (received ++ bytes) s := by
  have hopen : s.isClosed ≠ false := by
    rw [hclosed]
    decide
  cases h with
  | silent hsent hhanded _ hversion =>
      rcases hversion hclosed with ⟨hlength, hbyte⟩
      refine .silent hsent hhanded (fun h => absurd h hopen) fun _ => ⟨?_, ?_⟩
      · rw [List.length_append]
        exact Nat.le_add_right_of_le hlength
      · unfold byteAt at hbyte ⊢
        rw [List.getD_append _ _ _ _ (by omega)]
        exact hbyte
  | greeted hcontra _ _ _ _ _ _ => exact absurd hcontra hopen
  | talking hcontra _ _ _ _ _ => exact absurd hcontra hopen
  | ended _ hgreets said hsaid hspoken =>
      rw [← greeting_append s1 hgreets bytes] at hspoken
      exact .ended hclosed (hgreets.append bytes) said hsaid hspoken

theorem Conversing.onReads (hok : sources.Sends Sendable) {reads : List Bytes}
    (hvalid : s.buffer.Valid) (h : Conversing sources s1 app received s)
    (hreads : s.onReads (sources.env fresh (depth + 1) s1) reads = some s') :
    Conversing sources s1 app (received ++ reads.flatten) s' := by
  induction reads generalizing s received with
  | nil =>
      cases hreads
      rw [List.flatten_nil, List.append_nil]
      exact h
  | cons bytes reads ih =>
      simp only [RtmpSession.onReads, Option.bind_eq_some_iff] at hreads
      rcases hreads with ⟨t, hread, hreads⟩
      rw [List.flatten_cons, ← List.append_assoc]
      rcases onRead_cases hvalid hread with
        ⟨hclosed, ht⟩ | ⟨hopen, b, hb, hunread, ht⟩
      · rw [ht] at hreads
        exact ih hvalid (h.closed hclosed bytes) hreads
      · rw [ht] at hreads
        exact ih (onRecv_valid hb) (h.onRecv hok hopen hb hunread) hreads

/-!
## The client's side
-/

/-- A session of a connection that has just been accepted. -/
def RtmpSession.accepted {σ : Type} (app : σ) : RtmpSession σ where
  proto := { app := app }
  buffer := FlatBuffer.create

/-- What has been said to a client behind the handshake. -/
inductive Told (sources : Sources W) (s : RtmpSession (ClientState W)) :
    List Delivered -> Prop
  | awaiting (hopen : s.isClosed = false) (hhanded : s.handed = []) :
      Told sources s []
  | talking (hopen : s.isClosed = false) :
      Told sources s (openings ++ s.handed.flatMap answersTo)
  | ended {front : List RtmpPacket} {pkt : RtmpPacket} {words : List Delivered}
      (hclosed : s.isClosed = true) (hhanded : s.handed = front ++ [pkt])
      (hwords : Refused sources pkt words) :
      Told sources s (openings ++ (front.flatMap answersTo ++ words))

theorem Refused.typeId {pkt : RtmpPacket} {words : List Delivered}
    (h : Refused sources pkt words) {item : Delivered} (hitem : item ∈ words) :
    item.typeId = msgCmd := by
  cases h with
  | silently => cases hitem
  | badName id w info what w' _ _ =>
      rw [List.mem_singleton.mp hitem]
      rfl

theorem answersTo_typeId {pkts : List RtmpPacket} {item : Delivered}
    (h : item ∈ pkts.flatMap answersTo) : item.typeId = msgCmd := by
  rcases List.mem_flatMap.mp h with ⟨pkt, _, hanswer⟩
  rcases List.mem_map.mp hanswer with ⟨values, _, rfl⟩
  rfl

/-- The only control messages are the openings. -/
theorem Told.controlsWhole {items : List Delivered} (h : Told sources s items) :
    ControlsWhole items := by
  have hopenings : forall item, item ∈ openings -> 4 <= item.payload.length := by
    decide
  have hcommand : forall item : Delivered, item.typeId = msgCmd ->
      item.typeId = msgSetChunk ∨ item.typeId = msgAck ->
        4 <= item.payload.length := by
    intro item hcmd hcontrol
    rw [hcmd] at hcontrol
    exact absurd hcontrol (by decide)
  intro item hitem hcontrol
  cases h with
  | awaiting _ _ => cases hitem
  | talking _ =>
      rcases List.mem_append.mp hitem with hitem | hitem
      · exact hopenings item hitem
      · exact hcommand item (answersTo_typeId hitem) hcontrol
  | ended _ _ hwords =>
      rcases List.mem_append.mp hitem with hitem | hitem
      · exact hopenings item hitem
      · rcases List.mem_append.mp hitem with hitem | hitem
        · exact hcommand item (answersTo_typeId hitem) hcontrol
        · exact hcommand item (hwords.typeId hitem) hcontrol

/-- Behind the greeting a client reads these messages, to the last byte. -/
def ReadsBack (side : SendSide) (greeting : Bytes) (items : List Delivered) :
    Prop :=
  exists wire client got, side.sent.flatten = greeting ++ wire ∧
    splitRtmp .accepting { app := () } wire = .waiting client got [] ∧
      got.map RtmpPacket.delivered = items

theorem Spoken.readsBack {greeting : Bytes} {items : List Delivered}
    {side : SendSide} (h : Spoken greeting items side)
    (hitems : ControlsWhole items) : ReadsBack side greeting items := by
  rcases h.wire with ⟨cs, wire, hsent, hfinishes⟩
  rcases hfinishes.readBack hitems with ⟨client, got, hsplit, hgot⟩
  exact ⟨wire, client, got, hsent, hsplit, hgot⟩

/-- A client gets no answer, or the greeting and then each message that was meant
for it. -/
theorem client_hears (hbrief : sources.Brief) {reads : List Bytes}
    (h : (RtmpSession.accepted app).onReads (sources.env fresh (depth + 1) s1)
      reads = some s) :
    (¬ Greets reads.flatten ∧ s.proto.side.sent = [] ∧ s.handed = []) ∨
      Greets reads.flatten ∧ exists items, Told sources s items ∧
        ReadsBack s.proto.side (greeting s1 reads.flatten) items := by
  have hstart : Conversing sources s1 app [] (RtmpSession.accepted app) := by
    refine .silent rfl rfl (fun _ => ⟨rfl, rfl, rfl, ?_⟩) ?_
    · exact Nat.lt_of_sub_pos (Nat.zero_lt_succ _)
    · intro hclosed
      cases hclosed
  have hconversing : Conversing sources s1 app reads.flatten s :=
    hstart.onReads hbrief.sends (FlatBuffer.create_valid _) h
  have htold : forall {items}, Greets reads.flatten -> Told sources s items ->
      Spoken (greeting s1 reads.flatten) items s.proto.side ->
        Greets reads.flatten ∧ exists items, Told sources s items ∧
          ReadsBack s.proto.side (greeting s1 reads.flatten) items :=
    fun hgreets htold hspoken =>
      ⟨hgreets, _, htold, hspoken.readsBack htold.controlsWhole⟩
  cases hconversing with
  | silent hsent hhanded hopen hclosed =>
      refine Or.inl ⟨fun hgreets => ?_, by rw [hsent], hhanded⟩
      rcases Bool.eq_false_or_eq_true s.isClosed with hstate | hstate
      · exact (hclosed hstate).2 hgreets.2
      · exact Nat.not_lt.mpr hgreets.1 (hopen hstate).2.2.2
  | greeted hopen _ hgreets _ _ hhanded hspoken =>
      exact Or.inr (htold hgreets (.awaiting hopen hhanded) hspoken)
  | talking hopen _ hgreets said hsaid hspoken =>
      rw [hsaid.said_eq] at hspoken
      exact Or.inr (htold hgreets (.talking hopen) hspoken)
  | ended hclosed hgreets said hended hspoken =>
      rcases hended.said_eq with ⟨front, pkt, words, hhanded, hsaid, hwords⟩
      rw [hsaid] at hspoken
      exact Or.inr (htold hgreets (.ended hclosed hhanded hwords) hspoken)

end Session

/-- Sources that refuse every stream. -/
def quietSources : Sources PUnit where
  canPush := fun _ => false
  takeSource := fun w _ => (.error [], w)
  onProcessMetadata := fun w _ => (.ok .unit, w)
  processAvPacket := fun w _ => (.ok .unit, w)

def quietEnv : Env (ClientState PUnit) :=
  quietSources.env (fun _ => ⟨0, 0, 0, 0, 0, 0⟩) 1
    (List.replicate kC1HandshakeSize 0)

/-- `createStream` with 2.0 as its transaction. -/
def createStreamCall : Bytes :=
  Amf0.encodeValues [.string (text "createStream"),
    .number 0x4000000000000000, .null]

/-- The handshake and the command. -/
def createStreamReads : List Bytes :=
  [3 :: List.replicate kC1HandshakeSize 0,
    List.replicate kC1HandshakeSize 0 ++
      (SendSide.rtmpHeader msgCmd 0 createStreamCall.length 0 3 ++
        createStreamCall)]

/-- The client is greeted, and it reads the opening and one answer. -/
theorem client_hears_createStream :
    exists s, (RtmpSession.accepted { world := PUnit.unit }).onReads quietEnv
        createStreamReads = some s ∧
      s.isClosed = false ∧
        ReadsBack s.proto.side (greeting (List.replicate kC1HandshakeSize 0)
          createStreamReads.flatten) (openings ++ [replyTo 0
            (Amf0.encodeValues (Answer.streamCreated 0x4000000000000000))]) := by
  have hbrief : quietSources.Brief := by
    intro w info what w' htake
    cases htake
    decide
  have hread : ((RtmpSession.accepted { world := PUnit.unit }).onReads quietEnv
      createStreamReads).any (fun s => !s.isClosed && decide (s.handed ≠ [] ∧
        s.handed.flatMap answersTo = [replyTo 0
          (Amf0.encodeValues (Answer.streamCreated 0x4000000000000000))])) =
            true := by
    decide +kernel
  rcases (Option.any_eq_true _ _).mp hread with ⟨s, hs, hstate⟩
  rw [Bool.and_eq_true, Bool.not_eq_true', decide_eq_true_eq] at hstate
  rcases hstate with ⟨hopen, hhanded, hanswers⟩
  refine ⟨s, hs, hopen, ?_⟩
  rcases client_hears hbrief hs with ⟨_, _, hnone⟩ | ⟨_, items, htold, hreads⟩
  · exact absurd hnone hhanded
  · cases htold with
    | awaiting _ hnone => exact absurd hnone hhanded
    | talking _ =>
        rw [hanswers] at hreads
        exact hreads
    | ended hclosed _ _ =>
        rw [hopen] at hclosed
        cases hclosed

end Rtmp
end Streaming
