import Streaming.Rtmp.Commands

/-!
# What a client hears

A connection and a log are sent the same messages.  So what a connection has
written is, behind the handshake, the wire of a correct sender for the messages
that the log has, and a client reads them back from it.
-/

namespace Streaming
namespace Rtmp

open Foundation Media Network Util

/-!
## The log
-/

/-- Keep a message instead of sending it. -/
def note (payload : Bytes) (said : List Bytes) : Exit (List Bytes) :=
  .done (said ++ [payload])

section Simulation

variable {W S S' : Type} {sources : Sources W} {send : Bytes -> S -> Exit S}
  {send' : Bytes -> S' -> Exit S'}

/-- The senders differ, and what is behind them is the same. -/
def SameClient (R : S -> S' -> Prop) (p : S × ClientState W)
    (p' : S' × ClientState W) : Prop :=
  R p.1 p'.1 ∧ p.2 = p'.2

/-- Sending one of these messages keeps the relation. -/
def Mirrors (ok : Bytes -> Prop) (R : S -> S' -> Prop)
    (send : Bytes -> S -> Exit S) (send' : Bytes -> S' -> Exit S') : Prop :=
  forall payload s s', ok payload -> R s s' ->
    exists t t', send payload s = .done t ∧ send' payload s' = .done t' ∧ R t t'

/-- The messages that the handlers send. -/
def Sources.Sends (sources : Sources W) (ok : Bytes -> Prop) : Prop :=
  ok bwDone ∧ (forall id, ok (connectResult id)) ∧
    (forall id, ok (createStreamResult id)) ∧ (forall id, ok (publishStart id)) ∧
    forall id w info what w', sources.takeSource w info = (.error what, w') ->
      ok (publishBadName id what)

variable {R : S -> S' -> Prop} {ok : Bytes -> Prop} {p : S × ClientState W}
  {p' : S' × ClientState W}

theorem reply_related (hsend : Mirrors ok R send send') {payload : Bytes}
    (hpayload : ok payload) (h : SameClient R p p') :
    Exit.Related (SameClient R) (reply send payload p)
      (reply send' payload p') := by
  rcases hsend payload p.1 p'.1 hpayload h.1 with ⟨t, t', hfirst, hsecond, ht⟩
  unfold reply
  rw [hfirst, hsecond]
  exact .done ⟨ht, h.2⟩

theorem onAmfConnect_related (hsend : Mirrors ok R send send')
    (hok : sources.Sends ok) (dec : FlatBuffer) (h : SameClient R p p') :
    Exit.Related (SameClient R) (onAmfConnect send dec p)
      (onAmfConnect send' dec p') := by
  rcases h with ⟨hR, happ⟩
  unfold onAmfConnect
  rw [happ]
  split
  · exact .threw _ ⟨hR, happ⟩
  · split
    · exact .threw _ ⟨hR, rfl⟩
    · apply Exit.Related.bind
      · exact reply_related hsend (hok.2.1 _) ⟨hR, rfl⟩
      · exact fun _ _ hp => reply_related hsend hok.1 hp

theorem onAmfPublish_related (hsend : Mirrors ok R send send')
    (hok : sources.Sends ok) (dec : FlatBuffer) (h : SameClient R p p') :
    Exit.Related (SameClient R) (onAmfPublish sources send dec p)
      (onAmfPublish sources send' dec p') := by
  rcases hok with ⟨_, _, _, hstart, hbad⟩
  rcases h with ⟨hR, happ⟩
  unfold onAmfPublish
  rw [happ]
  split
  · exact .threw _ ⟨hR, happ⟩
  · split
    · exact .crashed
    · split
      · exact .threw _ ⟨hR, happ⟩
      · split
        · exact .threw _ ⟨hR, happ⟩
        · split
          · split
            · exact reply_related hsend (hstart _) ⟨hR, rfl⟩
            · rename_i what world htake
              apply Exit.Related.bind
              · exact reply_related hsend (hbad _ _ _ _ _ htake) ⟨hR, rfl⟩
              · exact fun _ _ hp => .threw _ hp
          · exact .threw _ ⟨hR, rfl⟩

theorem onCommand_related (hsend : Mirrors ok R send send')
    (hok : sources.Sends ok) (command : Command) (dec : FlatBuffer)
    (h : SameClient R p p') :
    Exit.Related (SameClient R) (onCommand sources send command dec p)
      (onCommand sources send' command dec p') := by
  cases command with
  | connect => exact onAmfConnect_related hsend hok dec h
  | createStream =>
      unfold onCommand onAmfCreateStream
      rw [h.2]
      exact reply_related hsend (hok.2.2.1 _) h
  | publish => exact onAmfPublish_related hsend hok dec h

theorem processCmd_related (hsend : Mirrors ok R send send')
    (hok : sources.Sends ok) (pkt : RtmpPacket) (h : SameClient R p p') :
    Exit.Related (SameClient R) (processCmd sources send p pkt)
      (processCmd sources send' p' pkt) := by
  unfold processCmd
  split
  · exact .threw _ h
  · split
    · exact .done h
    · split
      · exact .threw _ h
      · refine onCommand_related hsend hok _ _ ⟨h.1, ?_⟩
        rw [h.2]

theorem silent_related
    (handler : W -> RtmpPacket -> Except (Fault BadPointer) PUnit × W)
    (pkt : RtmpPacket) (h : SameClient R p p') :
    Exit.Related (SameClient R) (silent handler p pkt) (silent handler p' pkt) := by
  rcases h with ⟨hR, happ⟩
  unfold silent
  rw [happ]
  split
  · exact .done ⟨hR, rfl⟩
  · exact .threw _ ⟨hR, rfl⟩
  · exact .crashed

end Simulation

/-!
## The wire
-/

/-- Behind the greeting there is the wire of a correct sender, for these
messages.  Without a window no acknowledgements are sent in between. -/
structure Spoken (greeting : Bytes) (items : List Delivered) (side : SendSide) :
    Prop where
  wire : exists cs bytes, side.sent.flatten = greeting ++ bytes ∧
    Finishes {} cs side.chunkSizeOut bytes items
  chunkSize_pos : 0 < side.chunkSizeOut
  window : side.windowsSize = 0

/-- A message that `send_rtmp` writes whole, with its length. -/
def Sendable (payload : Bytes) : Prop :=
  payload ≠ [] ∧ payload.length < 2 ^ 24

def replyTo (msgStreamId : Nat) (payload : Bytes) : Delivered :=
  ⟨chunkClientRequestBefore, msgCmd, msgStreamId % 2 ^ 32, payload.length, 0,
    payload⟩

/-- Only 32 bits of the id are written. -/
theorem setLe32_mod (val : Nat) : setLe32 (val % 2 ^ 32) = setLe32 val := by
  have hbyte : forall k, k <= 24 ->
      UInt8.ofNat ((val % 2 ^ 32) >>> k) = UInt8.ofNat (val >>> k) := by
    intro k hk
    have hpow : (2 : Nat) ^ 32 = 2 ^ k * (2 ^ 8 * 2 ^ (24 - k)) := by
      rw [← Nat.pow_add, ← Nat.pow_add]
      congr 1
      omega
    rw [← UInt8.toNat_inj, UInt8.toNat_ofNat', UInt8.toNat_ofNat',
      Nat.shiftRight_eq_div_pow, Nat.shiftRight_eq_div_pow, hpow,
      Nat.mod_mul_right_div_self]
    exact Nat.mod_mul_right_mod _ _ _
  unfold setLe32
  rw [hbyte 8 (by decide), hbyte 16 (by decide), hbyte 24 (by decide)]
  have hlow := hbyte 0 (by decide)
  rw [Nat.shiftRight_zero, Nat.shiftRight_zero] at hlow
  rw [hlow]

theorem sendRtmp_streamId (depth : Nat) (s : SendSide)
    (msgTypeId msgStreamId : Nat) (data : Bytes) (timeStamp id : Nat) :
    s.sendRtmp depth msgTypeId (msgStreamId % 2 ^ 32) data timeStamp id =
      s.sendRtmp depth msgTypeId msgStreamId data timeStamp id := by
  cases depth with
  | zero => rfl
  | succ depth =>
      unfold SendSide.sendRtmp SendSide.rtmpHeader
      rw [setLe32_mod]

namespace Spoken

variable {greeting : Bytes} {items : List Delivered} {side : SendSide}

/-- The sender that has written so far, and what it adds when it goes on. -/
theorem exists_sender (h : Spoken greeting items side) :
    exists S : Sender, S.chunkSize = side.chunkSizeOut ∧ S.Idle ∧
      forall side' ds bytes later, Wrote side side' bytes ->
        0 < side'.chunkSizeOut ->
          Finishes S ds side'.chunkSizeOut bytes later ->
            Spoken greeting (items ++ later) side' := by
  rcases h.wire with ⟨cs, front, hsent, hfinishes⟩
  refine ⟨_, hfinishes.chunkSize_eq, hfinishes.idle, ?_⟩
  intro side' ds bytes later hwrote hpos hmore
  refine ⟨⟨cs ++ ds, front ++ bytes, ?_, hfinishes.append hmore⟩, hpos,
    hwrote.windowsSize_eq.trans h.window⟩
  rw [hwrote.sent_eq, hsent, List.append_assoc]

/-- A command is sent on the stream of the message that is handled. -/
theorem sendCommand (h : Spoken greeting items side) (depth : Nat)
    {payload : Bytes} (hpayload : Sendable payload) :
    exists side', side.sendCommand (depth + 1) payload = .done side' ∧
      side'.msgStreamId = side.msgStreamId ∧
        Spoken greeting (items ++ [replyTo side.msgStreamId payload]) side' := by
  rcases h.exists_sender with ⟨S, hsize, hidle, hmore⟩
  have hpos : 0 < S.chunkSize := by
    rw [hsize]
    exact h.chunkSize_pos
  have hm : (messageOf msgCmd (side.msgStreamId % 2 ^ 32) payload 0).WellFormed :=
    messageOf_wellFormed (by decide) (Nat.mod_lt _ (Nat.two_pow_pos 32))
      hpayload.2 (by decide) fun hset => absurd hset (by decide)
  rcases sendRtmp_finishes depth hsize hpos hidle h.window hm hpayload.1
    (show IdForm.oneByte.Fits chunkClientRequestBefore by decide) with
    ⟨side', cs, bytes, hrun, hwrote, hout, hfinishes⟩
  have hafter : Sender.sizeAfter (messageOf msgCmd (side.msgStreamId % 2 ^ 32)
      payload 0) S.chunkSize = side'.chunkSizeOut := by
    rw [hout, ← hsize]
    exact if_neg (show ¬ msgCmd = 1 by decide)
  rw [hafter] at hfinishes
  rw [sendRtmp_streamId] at hrun
  refine ⟨side', hrun, hwrote.msgStreamId_eq, ?_⟩
  refine hmore side' cs bytes _ hwrote ?_ hfinishes
  rw [hout]
  exact h.chunkSize_pos

/-- The calls behind the handshake. -/
theorem run (h : Spoken greeting items side) (depth : Nat)
    (hstream : side.msgStreamId < 2 ^ 32) {call : SendCall}
    (hcall : call.Allowed) :
    exists side', call.run (depth + 1) side = .done side' ∧
      side'.msgStreamId = side.msgStreamId ∧
        Spoken greeting (items ++ [call.delivered side.msgStreamId]) side' := by
  rcases h.exists_sender with ⟨S, hsize, hidle, hmore⟩
  have hpos : 0 < S.chunkSize := by
    rw [hsize]
    exact h.chunkSize_pos
  rcases SendCall.run_finishes depth hsize hpos hidle h.window hstream hcall with
    ⟨side', cs, bytes, hrun, hwrote, hpos', hfinishes⟩
  exact ⟨side', hrun, hwrote.msgStreamId_eq,
    hmore side' cs bytes _ hwrote hpos' hfinishes⟩

end Spoken

/-!
## Message after message
-/

section Messages

variable {W : Type} (sources : Sources W)

/-- `handle_chunk`, with a log in place of the connection. -/
def Sources.answer (p : List Bytes × ClientState W) (pkt : RtmpPacket) :
    Exit (List Bytes × ClientState W) :=
  if pkt.msgTypeId = msgSetChunk then
    if pkt.buf.unreadLength < 4 then .threw "MSG_SET_CHUNK not enough data" p
    else .done p
  else if pkt.msgTypeId = msgAck then
    if pkt.buf.unreadLength < 4 then .threw "MSG_ACK not enough data" p
    else .done p
  else if pkt.msgTypeId = msgCmd ∨ pkt.msgTypeId = msgCmd3 then
    processCmd sources note p pkt
  else if pkt.msgTypeId = msgData ∨ pkt.msgTypeId = msgData3 then
    silent sources.onProcessMetadata p pkt
  else if pkt.msgTypeId = msgAudio ∨ pkt.msgTypeId = msgVideo then
    if sources.canPush p.2.world then silent sources.processAvPacket p pkt
    else
      .threw
        "cannot push rtmp Audio/Video, must publish the media info first!" p
  else
    .done p

/-- The messages are handled one after the other, and this is said for them. -/
inductive Sources.Handled (sources : Sources W) :
    ClientState W -> List RtmpPacket -> List Delivered -> ClientState W -> Prop
  | nil (app : ClientState W) : Handled sources app [] [] app
  | cons {app : ClientState W} {pkt : RtmpPacket}
      {p : List Bytes × ClientState W} {pkts : List RtmpPacket}
      {said : List Delivered} {app' : ClientState W}
      (hanswer : sources.answer ([], app) pkt = .done p)
      (hrest : Handled sources p.2 pkts said app') :
      Handled sources app (pkt :: pkts)
        (p.1.map (replyTo pkt.msgStreamId) ++ said) app'

/-- What is said where a message ends the connection. -/
def lastWords {σ : Type} : Exit (List Bytes × σ) -> List Bytes
  | .done p => p.1
  | .threw _ p => p.1
  | .crashed => []

/-- The last of the messages has ended the connection. -/
inductive Sources.Ended (sources : Sources W) (app : ClientState W) :
    List RtmpPacket -> List Delivered -> Prop
  | intro {front : List RtmpPacket} {pkt : RtmpPacket} {said : List Delivered}
      {app' : ClientState W} (hfront : sources.Handled app front said app')
      (hanswer : forall p, sources.answer ([], app') pkt ≠ .done p) :
      Ended sources app (front ++ [pkt])
        (said ++ (lastWords (sources.answer ([], app') pkt)).map
          (replyTo pkt.msgStreamId))

variable {sources} {fresh : Nat -> HeaderFields} {depth : Nat} {s1 : Bytes}
  {greeting : Bytes} {items : List Delivered}

theorem Sources.Handled.append {app app' app'' : ClientState W}
    {pkts pkts' : List RtmpPacket} {said said' : List Delivered}
    (h : sources.Handled app pkts said app')
    (h' : sources.Handled app' pkts' said' app'') :
    sources.Handled app (pkts ++ pkts') (said ++ said') app'' := by
  induction h with
  | nil app => exact h'
  | cons hanswer _ ih =>
      rw [List.append_assoc]
      exact .cons hanswer (ih h')

theorem Sources.Handled.ended {app app' : ClientState W}
    {pkts pkts' : List RtmpPacket} {said said' : List Delivered}
    (h : sources.Handled app pkts said app') (h' : sources.Ended app' pkts' said') :
    sources.Ended app (pkts ++ pkts') (said ++ said') := by
  cases h' with
  | intro hfront hanswer =>
      rw [← List.append_assoc, ← List.append_assoc]
      exact .intro (h.append hfront) hanswer

/-- The connection has sent what is in the log. -/
def InStep (greeting : Bytes) (items : List Delivered) (msgStreamId : Nat)
    (side : SendSide) (said : List Bytes) : Prop :=
  side.msgStreamId = msgStreamId ∧
    Spoken greeting (items ++ said.map (replyTo msgStreamId)) side

theorem mirrors_note (msgStreamId : Nat) :
    Mirrors Sendable (InStep greeting items msgStreamId)
      (SendSide.sendCommand (depth + 1)) note := by
  rintro payload side said hpayload ⟨hid, hspoken⟩
  rcases hspoken.sendCommand depth hpayload with ⟨side', hrun, hid', hmore⟩
  refine ⟨side', _, hrun, rfl, hid'.trans hid, ?_⟩
  rw [List.map_append, ← List.append_assoc]
  rw [hid] at hmore
  exact hmore

theorem handle_related {R : SendSide -> List Bytes -> Prop}
    {st : RtmpProtocol (ClientState W)} {pkt : RtmpPacket}
    {handler : SendSide × ClientState W -> RtmpPacket ->
      Exit (SendSide × ClientState W)} {e : Exit (List Bytes × ClientState W)}
    (h : Exit.Related (SameClient R) (handler (st.side, st.app) pkt) e) :
    Exit.Related (fun st' p => SameClient R (st'.side, st'.app) p)
      (st.handle handler pkt) e := by
  unfold RtmpProtocol.handle
  generalize handler (st.side, st.app) pkt = e' at h ⊢
  cases h with
  | done h => exact .done h
  | threw what h => exact .threw what h
  | crashed => exact .crashed

theorem handleChunk_related (hok : sources.Sends Sendable)
    {st : RtmpProtocol (ClientState W)} {pkt : RtmpPacket}
    (hid : st.side.msgStreamId = pkt.msgStreamId)
    (h : Spoken greeting items st.side) :
    Exit.Related
      (fun st' p => SameClient (InStep greeting items pkt.msgStreamId)
        (st'.side, st'.app) p)
      (handleChunk (sources.env fresh (depth + 1) s1) st pkt)
      (sources.answer ([], st.app) pkt) := by
  have hstart : SameClient (InStep greeting items pkt.msgStreamId)
      (st.side, st.app) ([], st.app) := by
    refine ⟨⟨hid, ?_⟩, rfl⟩
    rw [List.map_nil, List.append_nil]
    exact h
  unfold handleChunk Sources.answer
  split
  · split
    · exact .threw _ hstart
    · exact .done hstart
  · split
    · split
      · exact .threw _ hstart
      · exact .done hstart
    · split
      · exact handle_related
          (processCmd_related (mirrors_note _) hok pkt hstart)
      · split
        · exact handle_related (silent_related _ pkt hstart)
        · split
          · change Exit.Related _ (if sources.canPush st.app.world = true
              then _ else _) _
            split
            · exact handle_related (silent_related _ pkt hstart)
            · exact .threw _ hstart
          · exact .done hstart

/-- What has been said by the end of a look. -/
def Hears (sources : Sources W) (greeting : Bytes) (items : List Delivered)
    (app : ClientState W) :
    Attempt (RtmpProtocol (ClientState W)) RtmpPacket -> Prop
  | .needMore st' => Spoken greeting items st'.side ∧ st'.app = app
  | .done st' out _ => exists said, sources.Handled app out said st'.app ∧
      Spoken greeting (items ++ said) st'.side
  | .failed st' out => exists said, sources.Ended app out said ∧
      Spoken greeting (items ++ said) st'.side

theorem Hears.nothing {st' : RtmpProtocol (ClientState W)}
    (h : Spoken greeting items st'.side) (consumed : Nat) :
    Hears sources greeting items st'.app (.done st' [] consumed) := by
  refine ⟨[], .nil _, ?_⟩
  rw [List.append_nil]
  exact h

theorem deliver_hears (hok : sources.Sends Sendable)
    {st : RtmpProtocol (ClientState W)} {pkt : RtmpPacket}
    (hid : st.side.msgStreamId = pkt.msgStreamId)
    (h : Spoken greeting items st.side) (consumed : Nat) :
    Hears sources greeting items st.app
      (deliver (sources.env fresh (depth + 1) s1) st pkt consumed) := by
  have hrelated : Exit.Related _
      (handleChunk (sources.env fresh (depth + 1) s1) st pkt) _ :=
    handleChunk_related hok hid h
  unfold deliver
  generalize handleChunk _ st pkt = e at hrelated ⊢
  generalize hanswer : sources.answer ([], st.app) pkt = e' at hrelated
  cases hrelated with
  | done hp =>
      refine ⟨_, ?_, hp.1.2⟩
      rw [← List.append_nil (List.map _ _)]
      refine .cons hanswer ?_
      rw [← hp.2]
      exact .nil _
  | threw what hp =>
      refine ⟨_, .intro (.nil st.app) ?_, ?_⟩
      · exact fun p hp => by rw [hanswer] at hp; cases hp
      · rw [hanswer]
        exact hp.1.2
  | crashed =>
      refine ⟨_, .intro (.nil st.app) ?_, ?_⟩
      · exact fun p hp => by rw [hanswer] at hp; cases hp
      · rw [hanswer]
        change Spoken greeting (items ++ []) st.side
        rw [List.append_nil]
        exact h

theorem takeChunk_hears (hok : sources.Sends Sendable)
    {st : RtmpProtocol (ClientState W)} (h : Spoken greeting items st.side)
    {id timeStamp headerEnd : Nat} {pkt : RtmpPacket} {payload : Bytes} :
    Hears sources greeting items st.app
      (takeChunk (sources.env fresh (depth + 1) s1) st id pkt timeStamp headerEnd
        payload) := by
  have hack : acknowledgeReceived (sources.env fresh (depth + 1) s1)
      (recordChunk st id (storePayload pkt headerEnd payload)) =
        .done (recordChunk st id (storePayload pkt headerEnd payload)) :=
    acknowledgeReceived_window _ h.window
  have hside : Spoken greeting items
      (keepContext (recordChunk st id (storePayload pkt headerEnd payload)) id
        (stampPacket (storePayload pkt headerEnd payload) timeStamp)).side :=
    ⟨h.wire, h.chunkSize_pos, h.window⟩
  unfold takeChunk
  simp only [hack]
  unfold finishChunk
  split
  · simp only
    split
    · exact deliver_hears hok rfl hside _
    · exact Hears.nothing hside _
  · have hkept : Spoken greeting items
        (recordChunk st id (storePayload pkt headerEnd payload)).side := h
    exact Hears.nothing hkept _

theorem splitOnce_hears (hok : sources.Sends Sendable)
    {st : RtmpProtocol (ClientState W)} (h : Spoken greeting items st.side)
    (data : Bytes) :
    Hears sources greeting items st.app
      (splitOnce (sources.env fresh (depth + 1) s1) st data) := by
  by_cases hwhole : IsEmpty (WholeChunk (sources.env fresh (depth + 1) s1) st data)
  · rcases splitOnce_of_not_whole hwhole with ⟨st', hneed⟩
    rw [hneed]
    rcases splitOnce_needMore hneed with ⟨id, hst'⟩ | ⟨header, hst', _⟩
    · rw [hst']
      exact ⟨h, rfl⟩
    · rw [hst']
      exact ⟨h, rfl⟩
  · rcases not_isEmpty_iff.mp hwhole with ⟨c⟩
    rw [c.splitOnce_eq]
    have hopened : Spoken greeting items
        (c.opened (sources.env fresh (depth + 1) s1) st).side := h
    exact takeChunk_hears hok hopened

/-- The same for the whole loop. -/
def HearsAll (sources : Sources W) (greeting : Bytes) (items : List Delivered)
    (app : ClientState W) :
    Outcome UInt8 (RtmpProtocol (ClientState W)) RtmpPacket -> Prop
  | .waiting st' pkts _ => exists said, sources.Handled app pkts said st'.app ∧
      Spoken greeting (items ++ said) st'.side
  | .failed st' pkts => exists said, sources.Ended app pkts said ∧
      Spoken greeting (items ++ said) st'.side

/-- What is said at first comes in front of what is said from there on. -/
theorem HearsAll.emit {app app' : ClientState W} {out : List RtmpPacket}
    {said : List Delivered} (hsaid : sources.Handled app out said app')
    {o : Outcome UInt8 (RtmpProtocol (ClientState W)) RtmpPacket}
    (h : HearsAll sources greeting (items ++ said) app' o) :
    HearsAll sources greeting items app (o.emit out) := by
  cases o with
  | waiting st' pkts rest =>
      rcases h with ⟨later, hlater, hspoken⟩
      rw [List.append_assoc] at hspoken
      exact ⟨said ++ later, hsaid.append hlater, hspoken⟩
  | failed st' pkts =>
      rcases h with ⟨later, hlater, hspoken⟩
      rw [List.append_assoc] at hspoken
      exact ⟨said ++ later, hsaid.ended hlater, hspoken⟩

theorem splitRtmp_hears (hok : sources.Sends Sendable)
    {st : RtmpProtocol (ClientState W)} (h : Spoken greeting items st.side)
    (data : Bytes) :
    HearsAll sources greeting items st.app
      (splitRtmp (sources.env fresh (depth + 1) s1) st data) := by
  have hlook : forall {s : RtmpProtocol (ClientState W)} {items} {input} {a},
      Spoken greeting items s.side ->
        splitOnce (sources.env fresh (depth + 1) s1) s input = a ->
          Hears sources greeting items s.app a := by
    intro s items input a hs ha
    rw [← ha]
    exact splitOnce_hears hok hs input
  have hnothing : forall {s : RtmpProtocol (ClientState W)} {items} {rest},
      Spoken greeting items s.side ->
        HearsAll sources greeting items s.app (.waiting s [] rest) := by
    intro s items rest hs
    refine ⟨[], .nil _, ?_⟩
    rw [List.append_nil]
    exact hs
  refine (chunkParser (sources.env fresh (depth + 1) s1)).drain_rule
    (motive := fun s o => forall items, Spoken greeting items s.side ->
      HearsAll sources greeting items s.app o) ?_ ?_ ?_ ?_ st data items h
  · exact fun s items hs => hnothing hs
  · intro s input s' hattempt items hs
    rcases hlook hs hattempt with ⟨hspoken, happ⟩
    rw [← happ]
    exact hnothing hspoken
  · exact fun hattempt items hs => hlook hs hattempt
  · intro s input t out k o hattempt ih items hs
    rcases hlook hs hattempt with ⟨said, hsaid, hspoken⟩
    exact HearsAll.emit hsaid (ih _ hspoken)

end Messages

end Rtmp
end Streaming
