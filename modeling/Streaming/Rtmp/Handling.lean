import Streaming.Rtmp.Chunks

/-!
# One message after the other

`split_rtmp` hands each complete message to `handle_chunk`, which finds what the
messages in front of it have left.  Where no acknowledgement is due, it is left
by an exception exactly when `handle_chunk` is, and then on the last of the
messages that have been handed over.
-/

namespace Streaming
namespace Rtmp

open Foundation Network Util

section Handling

variable {σ : Type} {env : Env σ}

/-!
## The members that handlers change
-/

/-- What `handle_chunk` makes of them.  `split_rtmp` has stored the message
stream id before. -/
def handling (env : Env σ) (p : SendSide × σ) (pkt : RtmpPacket) :
    Exit (SendSide × σ) :=
  match handleChunk env
      { side := { p.1 with msgStreamId := pkt.msgStreamId }, app := p.2 } pkt with
  | .done st => .done (st.side, st.app)
  | .threw what st => .threw what (st.side, st.app)
  | .crashed => .crashed

/-- The packets one after the other, up to the first exception. -/
def handleAll (env : Env σ) (p : SendSide × σ) :
    List RtmpPacket -> Exit (SendSide × σ)
  | [] => .done p
  | pkt :: pkts => (handling env p pkt).bind fun p => handleAll env p pkts

theorem handleAll_cons {p q : SendSide × σ} {pkt : RtmpPacket}
    {pkts : List RtmpPacket} (h : handling env p pkt = .done q) :
    handleAll env p (pkt :: pkts) = handleAll env q pkts := by
  show (handling env p pkt).bind _ = _
  rw [h]
  rfl

theorem handleAll_cons_done {p r : SendSide × σ} {pkt : RtmpPacket}
    {pkts : List RtmpPacket} (h : handleAll env p (pkt :: pkts) = .done r) :
    exists q, handling env p pkt = .done q ∧ handleAll env q pkts = .done r := by
  unfold handleAll at h
  cases hfirst : handling env p pkt with
  | done q =>
      rw [hfirst] at h
      exact ⟨q, rfl, h⟩
  | threw what q =>
      rw [hfirst] at h
      cases h
  | crashed =>
      rw [hfirst] at h
      cases h

theorem handleAll_append {p q : SendSide × σ} {front back : List RtmpPacket}
    (h : handleAll env p front = .done q) :
    handleAll env p (front ++ back) = handleAll env q back := by
  induction front generalizing p with
  | nil =>
      cases h
      rfl
  | cons pkt front ih =>
      rcases handleAll_cons_done h with ⟨t, hfirst, hrest⟩
      rw [List.cons_append, handleAll_cons hfirst]
      exact ih hrest

/-- Nothing but these members decides how `handle_chunk` ends. -/
theorem handleChunk_members {st st' : RtmpProtocol σ} (hside : st'.side = st.side)
    (happ : st'.app = st.app) (pkt : RtmpPacket) :
    Exit.Related (fun s s' => s'.side = s.side ∧ s'.app = s.app)
      (handleChunk env st pkt) (handleChunk env st' pkt) := by
  have hhandle : forall handler,
      Exit.Related (fun s s' => s'.side = s.side ∧ s'.app = s.app)
        (st.handle handler pkt) (st'.handle handler pkt) := by
    intro handler
    unfold RtmpProtocol.handle
    rw [hside, happ]
    cases handler (st.side, st.app) pkt with
    | done p => exact .done ⟨rfl, rfl⟩
    | threw what p => exact .threw what ⟨rfl, rfl⟩
    | crashed => exact .crashed
  have hpush : env.canPush st'.app = env.canPush st.app := by
    rw [happ]
  unfold handleChunk
  rw [hpush]
  split
  · split
    · exact .threw _ ⟨hside, happ⟩
    · exact .done ⟨hside, happ⟩
  split
  · split
    · exact .threw _ ⟨hside, happ⟩
    · exact .done ⟨hside, happ⟩
  split
  · exact hhandle _
  split
  · exact hhandle _
  split
  · split
    · exact hhandle _
    · exact .threw _ ⟨hside, happ⟩
  · exact .done ⟨hside, happ⟩

/-- The members are these, but for the message stream id. -/
structure Holds (st : RtmpProtocol σ) (p : SendSide × σ) : Prop where
  side : exists id, st.side = { p.1 with msgStreamId := id }
  app : st.app = p.2

theorem Holds.self (st : RtmpProtocol σ) : Holds st (st.side, st.app) :=
  ⟨⟨st.side.msgStreamId, rfl⟩, rfl⟩

theorem Holds.windowsSize {st : RtmpProtocol σ} {p : SendSide × σ}
    (h : Holds st p) : st.side.windowsSize = p.1.windowsSize := by
  rcases h.side with ⟨id, hside⟩
  rw [hside]

/-- `handle_chunk` on a packet whose message stream id has been stored. -/
theorem Holds.handling {st : RtmpProtocol σ} {p : SendSide × σ}
    (h : Holds st p) {pkt : RtmpPacket}
    (hid : st.side.msgStreamId = pkt.msgStreamId) :
    (forall st', handleChunk env st pkt = .done st' ->
      handling env p pkt = .done (st'.side, st'.app)) ∧
    ((forall st', handleChunk env st pkt ≠ .done st') ->
      forall q, handling env p pkt ≠ .done q) := by
  rcases h.side with ⟨id, hside⟩
  have hsame : st.side = { p.1 with msgStreamId := pkt.msgStreamId } := by
    rw [← hid, hside]
  have hrelated : Exit.Related (fun s s' => s'.side = s.side ∧ s'.app = s.app)
      (handleChunk env {
        side := { p.1 with msgStreamId := pkt.msgStreamId }
        app := p.2 } pkt) (handleChunk env st pkt) :=
    handleChunk_members hsame h.app pkt
  unfold Rtmp.handling
  constructor
  · intro st' hdone
    rw [hdone] at hrelated
    generalize handleChunk env _ pkt = e at hrelated ⊢
    cases hrelated with
    | done hboth => rw [hboth.1, hboth.2]
  · intro hnot q hq
    generalize handleChunk env { side := _, app := p.2 } pkt = e at hrelated hq
    generalize hexit : handleChunk env st pkt = e' at hrelated
    cases hrelated with
    | done _ => exact hnot _ hexit
    | threw what _ => cases hq
    | crashed => cases hq

/-!
## Without acknowledgements
-/

/-- No handler assigns `windows_size_`. -/
structure Handlers.KeepWindow (handlers : Handlers σ) : Prop where
  onProcessCmd : forall p pkt p', handlers.onProcessCmd p pkt = .done p' ->
    p'.1.windowsSize = p.1.windowsSize
  onProcessMetadata : forall p pkt p',
    handlers.onProcessMetadata p pkt = .done p' ->
      p'.1.windowsSize = p.1.windowsSize
  processAvPacket : forall p pkt p', handlers.processAvPacket p pkt = .done p' ->
    p'.1.windowsSize = p.1.windowsSize

theorem handleChunk_window (hkeep : env.KeepWindow) {st st' : RtmpProtocol σ}
    {pkt : RtmpPacket} (h : handleChunk env st pkt = .done st') :
    st'.side.windowsSize = st.side.windowsSize := by
  rcases handleChunk_cases h with
    ⟨_, _, hst'⟩ | ⟨_, hst' | ⟨p, hhandler, hst'⟩⟩
  · rw [hst']
  · rw [hst']
  · rw [hst']
    rcases hhandler with hcmd | hdata | hav
    · exact hkeep.onProcessCmd _ _ p hcmd
    · exact hkeep.onProcessMetadata _ _ p hdata
    · exact hkeep.processAvPacket _ _ p hav

theorem acknowledgeReceived_window (env : Env σ) {st : RtmpProtocol σ}
    (hwindow : st.side.windowsSize = 0) :
    acknowledgeReceived env st = .done st := by
  unfold acknowledgeReceived
  exact if_neg fun h => Nat.ne_of_gt h.1 hwindow

theorem handling_window (hkeep : env.KeepWindow) {p q : SendSide × σ}
    {pkt : RtmpPacket} (h : handling env p pkt = .done q) :
    q.1.windowsSize = p.1.windowsSize := by
  unfold handling at h
  split at h
  · rename_i st hdone
    cases h
    exact handleChunk_window hkeep hdone
  · cases h
  · cases h

theorem handleAll_window (hkeep : env.KeepWindow) {p q : SendSide × σ}
    {pkts : List RtmpPacket} (h : handleAll env p pkts = .done q) :
    q.1.windowsSize = p.1.windowsSize := by
  induction pkts generalizing p with
  | nil =>
      cases h
      rfl
  | cons pkt pkts ih =>
      rcases handleAll_cons_done h with ⟨t, hfirst, hrest⟩
      exact (ih hrest).trans (handling_window hkeep hfirst)

theorem deliver_of_not_done {st : RtmpProtocol σ} {pkt : RtmpPacket} {k : Nat}
    (h : forall t, handleChunk env st pkt ≠ .done t) :
    exists t, deliver env st pkt k = .failed t [pkt] := by
  unfold deliver
  cases hhandle : handleChunk env st pkt with
  | done t => exact absurd hhandle (h t)
  | threw what t => exact ⟨t, rfl⟩
  | crashed => exact ⟨st, rfl⟩

namespace WholeChunk

variable {st : RtmpProtocol σ} {data : Bytes}

/-- The state with the chunk's bytes in the packet in progress. -/
def recorded (c : WholeChunk env st data) : RtmpProtocol σ :=
  recordChunk (c.opened env st) c.id c.stored

/-- Where no acknowledgements are sent, a whole chunk leaves its message in
progress, or completes an empty one, or hands one over. -/
inductive Ends (c : WholeChunk env st data) :
    Attempt (RtmpProtocol σ) RtmpPacket -> Prop where
  | stored (h : ¬ c.Completes) : Ends c (.done c.recorded [] c.consumed)
  | empty (h : c.Completes) (hempty : c.stored.msgLength = 0) :
      Ends c (.done (keepContext c.recorded c.id c.finished) [] c.consumed)
  | handed (h : c.Completes) (hne : c.stored.msgLength ≠ 0) :
      Ends c (deliver env (keepContext c.recorded c.id c.finished) c.finished
        c.consumed)

theorem ends (c : WholeChunk env st data) (hwindow : st.side.windowsSize = 0) :
    c.Ends (splitOnce env st data) := by
  have hack : acknowledgeReceived env c.recorded = .done c.recorded :=
    acknowledgeReceived_window env hwindow
  have heq : splitOnce env st data = finishChunk env c.recorded c.id c.stored
      c.timeStamp (c.bodyStart + c.payload.length) := by
    rw [c.splitOnce_eq]
    unfold takeChunk
    dsimp only
    rw [show recordChunk (c.opened env st) c.id
      (storePayload (c.packet env st) c.bodyStart c.payload) = c.recorded from rfl,
      hack]
    rfl
  rw [heq, c.payload_length]
  unfold finishChunk
  by_cases hcomplete : c.Completes
  · rw [if_pos (show c.stored.msgLength = c.stored.buf.unreadLength from
      hcomplete)]
    by_cases hempty : c.stored.msgLength = 0
    · rw [if_neg (show ¬ (stampPacket c.stored c.timeStamp).msgLength ≠ 0 from
        not_not.mpr hempty)]
      exact .empty hcomplete hempty
    · rw [if_pos (show (stampPacket c.stored c.timeStamp).msgLength ≠ 0 from
        hempty)]
      exact .handed hcomplete hempty
  · rw [if_neg (show ¬ c.stored.msgLength = c.stored.buf.unreadLength from
      hcomplete)]
    exact .stored hcomplete

end WholeChunk

/-!
## Well-formed buffers
-/

/-- Half-assembled messages are in well-formed buffers. -/
def BuffersValid (st : RtmpProtocol σ) : Prop :=
  forall id pkt, (st.chunkedDataMap id).now = some pkt -> pkt.buf.Valid

/-- A packet that can be read by what it is handed to. -/
structure Readable (pkt : RtmpPacket) : Prop where
  buf_valid : pkt.buf.Valid
  timeStamp_lt : pkt.timeStamp < 2 ^ 32

theorem BuffersValid.packet {st : RtmpProtocol σ} (h : BuffersValid st)
    {data : Bytes} (header : ChunkHeader data) :
    (header.packet env st).buf.Valid := by
  rw [(header.packet_buf env st).1]
  cases hnow : (st.chunkedDataMap header.id).now with
  | some pkt =>
      rw [nowPacket_busy env header.id hnow]
      exact h header.id pkt hnow
  | none =>
      rw [(nowPacket_idle env header.id hnow).1]
      exact FlatBuffer.create_valid _

theorem BuffersValid.needMore {st st' : RtmpProtocol σ} {data : Bytes}
    (hst : BuffersValid st) (h : splitOnce env st data = .needMore st') :
    BuffersValid st' := by
  apply needMore_slots
    (P := fun _ slot => forall pkt, slot.now = some pkt -> pkt.buf.Valid) h hst
  intro header _ pkt hpkt
  cases hpkt
  exact hst.packet header

theorem BuffersValid.stored {st : RtmpProtocol σ} (h : BuffersValid st)
    {data : Bytes} (c : WholeChunk env st data) : c.stored.buf.Valid :=
  (storePayload_valid (h.packet c.toChunkHeader) c.bodyStart c.payload).1

theorem BuffersValid.finished {st : RtmpProtocol σ} (h : BuffersValid st)
    {data : Bytes} (c : WholeChunk env st data) : Readable c.finished :=
  ⟨h.stored c, Nat.mod_lt _ (Nat.two_pow_pos 32)⟩

theorem BuffersValid.done {st st' : RtmpProtocol σ} {data : Bytes}
    {items : List RtmpPacket} {k : Nat} (hst : BuffersValid st)
    (h : splitOnce env st data = .done st' items k) :
    BuffersValid st' ∧ forall pkt, pkt ∈ items -> Readable pkt := by
  rcases splitOnce_done h with ⟨c, htook⟩
  constructor
  · apply done_slots
      (P := fun _ slot => forall pkt, slot.now = some pkt -> pkt.buf.Valid)
      htook hst
    intro pkt hpkt
    rw [(c.slotAfter_now hpkt).1]
    exact hst.stored c
  · intro pkt hpkt
    rw [htook.items_eq] at hpkt
    unfold WholeChunk.handed at hpkt
    split at hpkt
    · rw [List.mem_singleton.mp hpkt]
      exact hst.finished c
    · cases hpkt

/-!
## One chunk
-/

/-- A look at the input hands over what `handle_chunk` returns from, or a
message that it does not return from. -/
def Handles (env : Env σ) (p : SendSide × σ) :
    Attempt (RtmpProtocol σ) RtmpPacket -> Prop
  | .needMore st' => Holds st' p
  | .done st' items _ => exists q, handleAll env p items = .done q ∧ Holds st' q
  | .failed _ items => exists pkt, items = [pkt] ∧ Readable pkt ∧
      forall q, handling env p pkt ≠ .done q

theorem deliver_handles {st : RtmpProtocol σ} {p : SendSide × σ}
    (hp : Holds st p) {pkt : RtmpPacket}
    (hid : st.side.msgStreamId = pkt.msgStreamId) (hpkt : Readable pkt)
    (consumed : Nat) : Handles env p (deliver env st pkt consumed) := by
  rcases @Holds.handling σ env st p hp pkt hid with ⟨hdone, hnot⟩
  by_cases hreturns : exists st', handleChunk env st pkt = .done st'
  · rcases hreturns with ⟨st', hst'⟩
    unfold deliver
    rw [hst']
    exact ⟨(st'.side, st'.app), handleAll_cons (hdone st' hst'), .self st'⟩
  · have hnone := not_exists.mp hreturns
    rcases deliver_of_not_done (k := consumed) hnone with ⟨t, hfailed⟩
    rw [hfailed]
    exact ⟨pkt, rfl, hpkt, hnot hnone⟩

theorem splitOnce_handles {st : RtmpProtocol σ} {p : SendSide × σ}
    (hp : Holds st p) (hwindow : p.1.windowsSize = 0) (hst : BuffersValid st)
    (data : Bytes) : Handles env p (splitOnce env st data) := by
  by_cases hwhole : IsEmpty (WholeChunk env st data)
  · rcases splitOnce_of_not_whole hwhole with ⟨st', hneed⟩
    rw [hneed]
    rcases splitOnce_needMore hneed with ⟨id, hst'⟩ | ⟨header, hst', _⟩
    · rw [hst']
      exact ⟨hp.side, hp.app⟩
    · rw [hst']
      exact ⟨hp.side, hp.app⟩
  · rcases not_isEmpty_iff.mp hwhole with ⟨c⟩
    rcases hp.side with ⟨id, hside⟩
    have hkept : Holds (keepContext c.recorded c.id c.finished) p := by
      refine ⟨⟨c.finished.msgStreamId, ?_⟩, hp.app⟩
      show { st.side with msgStreamId := c.finished.msgStreamId } = _
      rw [hside]
    have hends := c.ends (hp.windowsSize.trans hwindow)
    generalize splitOnce env st data = attempt at hends ⊢
    cases hends with
    | stored _ => exact ⟨p, rfl, hp.side, hp.app⟩
    | empty _ _ => exact ⟨p, rfl, hkept⟩
    | handed _ _ => exact deliver_handles hkept rfl (hst.finished c) _

/-!
## The whole loop
-/

/-- The packets have been handled one after the other, the last of them with an
exception if that is how the loop was left. -/
def HandlesAll (env : Env σ) (p : SendSide × σ) :
    Outcome UInt8 (RtmpProtocol σ) RtmpPacket -> Prop
  | .waiting st' pkts _ => exists q, handleAll env p pkts = .done q ∧ Holds st' q
  | .failed _ pkts => (forall pkt, pkt ∈ pkts -> Readable pkt) ∧
      exists front pkt q, pkts = front ++ [pkt] ∧
        handleAll env p front = .done q ∧ forall r, handling env q pkt ≠ .done r

/-- What has been rejected cannot be handled again. -/
theorem HandlesAll.not_handled {p r : SendSide × σ} {st : RtmpProtocol σ}
    {pkts : List RtmpPacket} (h : HandlesAll env p (.failed st pkts)) :
    handleAll env p pkts ≠ .done r := by
  intro hall
  rcases h with ⟨_, front, pkt, q, hlast, hfront, hnot⟩
  rw [hlast, handleAll_append hfront] at hall
  rcases handleAll_cons_done hall with ⟨t, hdone, _⟩
  exact hnot t hdone

theorem splitRtmp_handles (hkeep : env.KeepWindow) {st : RtmpProtocol σ}
    (hwindow : st.side.windowsSize = 0) (hst : BuffersValid st) (data : Bytes) :
    HandlesAll env (st.side, st.app) (splitRtmp env st data) := by
  refine (chunkParser env).drain_rule
    (motive := fun s o => forall p, Holds s p -> p.1.windowsSize = 0 ->
      BuffersValid s -> HandlesAll env p o)
    ?_ ?_ ?_ ?_ st data _ (.self st) hwindow hst
  · intro s p hp _ _
    exact ⟨p, rfl, hp⟩
  · intro s input s' hattempt p hp hzero hs
    have hlook : Handles env p (splitOnce env s input) :=
      splitOnce_handles hp hzero hs input
    rw [show splitOnce env s input = .needMore s' from hattempt] at hlook
    exact ⟨p, rfl, hlook⟩
  · intro s input s' items hattempt p hp hzero hs
    have hlook : Handles env p (splitOnce env s input) :=
      splitOnce_handles hp hzero hs input
    rw [show splitOnce env s input = .failed s' items from hattempt] at hlook
    rcases hlook with ⟨pkt, hitems, hpkt, hnot⟩
    rw [hitems]
    exact ⟨List.forall_mem_singleton.mpr hpkt, [], pkt, p, rfl, rfl, hnot⟩
  · intro s input t items k o hattempt ih p hp hzero hs
    have hlook : Handles env p (splitOnce env s input) :=
      splitOnce_handles hp hzero hs input
    rw [show splitOnce env s input = .done t items k from hattempt] at hlook
    rcases hlook with ⟨q, hitems, hq⟩
    rcases BuffersValid.done hs hattempt with ⟨ht, hreadable⟩
    have hlater := ih q hq ((handleAll_window hkeep hitems).trans hzero) ht
    cases o with
    | waiting u later rest =>
        rcases hlater with ⟨r, hall, hr⟩
        exact ⟨r, (handleAll_append hitems).trans hall, hr⟩
    | failed u later =>
        rcases hlater with ⟨hmore, front, pkt, r, hlast, hall, hnot⟩
        refine ⟨List.forall_mem_append.mpr ⟨hreadable, hmore⟩, items ++ front,
          pkt, r, ?_, ?_, hnot⟩
        · rw [hlast, List.append_assoc]
        · exact (handleAll_append hitems).trans hall

end Handling

end Rtmp
end Streaming
