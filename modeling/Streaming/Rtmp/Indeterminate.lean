import Streaming.Rtmp.Counting
import Streaming.Rtmp.Inherited

/-!
# Fields without an initial value

A packet is created with header fields that have no value yet, and a chunk whose
header leaves them out on a new chunk stream is read all the same.
-/

namespace Streaming
namespace Rtmp

open Foundation Network Util

section Looks

variable {σ : Type} {env env' : Env σ}

/-!
## Runs with other values
-/

/-- The same surroundings, with other values in the packets that are created. -/
def Env.withFresh (env : Env σ) (fresh : Nat -> HeaderFields) : Env σ :=
  { env with fresh := fresh }

theorem Env.withFresh_handlers (env : Env σ) (fresh : Nat -> HeaderFields) :
    (env.withFresh fresh).toHandlers = env.toHandlers := rfl

/-- The values that the fields can have. -/
def HeaderFields.InRange (fields : HeaderFields) : Prop :=
  fields.chunkStreamId < 2 ^ 32 ∧ fields.msgStreamId < 2 ^ 32 ∧
    fields.msgLength < 2 ^ 32 ∧ fields.msgTypeId < 2 ^ 8 ∧
      fields.tsDelta < 2 ^ 32 ∧ fields.timeStamp < 2 ^ 32

theorem alike_initial (env env' : Env σ) {st : RtmpProtocol σ}
    (hmap : st.chunkedDataMap = fun _ => {})
    (hwindow : st.side.windowsSize = 0) : Alike env env' [] st st where
  window := hwindow
  side := ⟨st.side.msgStreamId, rfl⟩
  app := rfl
  chunkSizeIn := rfl
  slots := by
    intro id
    rw [hmap]
    exact slotAlike_new env env' id

/-- Every look that reads a unit, and the last one, finds what it needs. -/
def AlwaysSupplied (env : Env σ) (st : RtmpProtocol σ) (data : Bytes) : Prop :=
  forall before items t rest, Looks (splitOnce env) st data before items t rest ->
    rest ≠ [] -> Supplied env before t rest

theorem splitRtmp_agree (hkeep : env.KeepWindow)
    (hhandlers : env'.toHandlers = env.toHandlers) {st : RtmpProtocol σ}
    (hmap : st.chunkedDataMap = fun _ => {})
    (hwindow : st.side.windowsSize = 0) {data : Bytes}
    (hsupplied : AlwaysSupplied env st data) :
    (splitRtmp env st data).Agree (splitRtmp env' st data) :=
  (chunkParser env).drain_agree (chunkParser env')
    (I := fun before t t' => Alike env env' before t t')
    (alike_initial env env' hmap hwindow)
    fun hlooks halike hne =>
      alike_look hkeep hhandlers halike (hsupplied _ _ _ _ hlooks hne)

/-!
## What other values change
-/

/-- A message that is handed over is the first thing that is read. -/
theorem WholeChunk.drain_items {st : RtmpProtocol σ} {data : Bytes}
    (c : WholeChunk env st data) (hwindow : st.side.windowsSize = 0)
    (hcomplete : c.Completes) (hne : c.stored.msgLength ≠ 0) :
    exists later, (drain (splitOnce env) st data).items = c.finished :: later := by
  have hends := c.ends hwindow
  generalize hlook : splitOnce env st data = look at hends
  cases hends with
  | stored hopen => exact absurd hcomplete hopen
  | empty _ hzero => exact absurd hzero hne
  | handed _ _ =>
      unfold deliver at hlook
      cases hhandle : handleChunk env (keepContext c.recorded c.id c.finished)
          c.finished with
      | done t =>
          rw [hhandle] at hlook
          have hdrain := (chunkParser env).drain_done c.data_ne_nil hlook
          refine ⟨(drain (splitOnce env) t (data.drop c.consumed)).items, ?_⟩
          rw [show drain (splitOnce env) st data = _ from hdrain,
            Outcome.emit_items]
          rfl
      | threw what t =>
          rw [hhandle] at hlook
          have hdrain := (chunkParser env).drain_failed c.data_ne_nil hlook
          refine ⟨[], ?_⟩
          rw [show drain (splitOnce env) st data = _ from hdrain]
          rfl
      | crashed =>
          rw [hhandle] at hlook
          have hdrain := (chunkParser env).drain_failed c.data_ne_nil hlook
          refine ⟨[], ?_⟩
          rw [show drain (splitOnce env) st data = _ from hdrain]
          rfl

/-- A message that no header with `fmt` 0 came before has the message stream id
that its packet was created with. -/
theorem streamId_shows {before : List (RtmpProtocol σ × Bytes)}
    {st st' : RtmpProtocol σ} {data : Bytes}
    (halike : Alike env env' before st st') (c : WholeChunk env st data)
    (hhanded : c.handed ≠ [])
    (hk : (knownOf c.id before).learn c.length = .length) :
    exists p later, (drain (splitOnce env') st' data).items = p :: later ∧
      p.msgStreamId = (env'.fresh c.id).msgStreamId := by
  have hcomplete := c.completes_of_handed hhanded
  have hne : c.stored.msgLength ≠ 0 := by
    intro hzero
    exact hhanded (if_neg fun hboth => hboth.2 hzero)
  have hpacket := c.toChunkHeader.packet_alike (halike.slots c.id)
  rw [hk] at hpacket
  rcases carry_conditions hpacket nofun halike.chunkSizeIn with
    ⟨hdelta, hmore⟩
  have hstored := c.carry_stored hdelta hmore hpacket
  rcases (c.carry hdelta hmore).drain_items halike.window' (by
      unfold WholeChunk.Completes
      rw [(hstored.sized nofun).1, hstored.buffered.2.2.1]
      exact hcomplete) (by
      rw [(hstored.sized nofun).1]
      exact hne) with ⟨later, hitems⟩
  refine ⟨_, later, hitems, ?_⟩
  show (c.carry hdelta hmore).stored.msgStreamId = _
  unfold PacketAlike at hstored
  rw [hstored]

/-- The timestamp field of the header, if it has one. -/
def ChunkHeader.delta {data : Bytes} (h : ChunkHeader data) : Nat :=
  if h.length = 4 then loadBe24 (h.bytes.drop 1) else 0

/-- A header without a length on a new chunk stream, where the timestamp delta
happens to be zero. -/
structure Unsupplied (env : Env σ) (st : RtmpProtocol σ) {data : Bytes}
    (h : ChunkHeader data) : Prop where
  length : h.length = 4 ∨ h.length = 1
  slot : st.chunkedDataMap h.id = {}
  tsDelta : (env.fresh h.id).tsDelta = 0
  window : st.side.windowsSize = 0

namespace Unsupplied

variable {st : RtmpProtocol σ} {data : Bytes} {h : ChunkHeader data}

theorem packet_eq (hu : Unsupplied env st h) :
    (h.packet env st).tsDelta = h.delta ∧
      (h.packet env st).msgLength = (env.fresh h.id).msgLength ∧
      (h.packet env st).msgTypeId = (env.fresh h.id).msgTypeId ∧
      (h.packet env st).buf = FlatBuffer.create := by
  rw [h.packet_eq, hu.slot]
  unfold ChunkHeader.delta
  rcases hu.length with hl | hl
  · rw [hl]
    exact ⟨rfl, rfl, rfl, rfl⟩
  · rw [hl]
    exact ⟨hu.tsDelta, rfl, rfl, rfl⟩

theorem remain_eq (hu : Unsupplied env st h) {n : Nat}
    (hn : (env.fresh h.id).msgLength = n) (hlt : n < 2 ^ 32) :
    remainMsgLen (h.packet env st) = n := by
  rcases hu.packet_eq with ⟨_, hlength, _, hbuf⟩
  unfold remainMsgLen
  rw [hlength, hbuf, hn]
  show (n + 2 ^ 64 - 0 % 2 ^ 64) % 2 ^ 64 = n
  omega

/-- The chunk, if its payload is there. -/
def chunk (hu : Unsupplied env st h) {n timeStamp bodyStart : Nat}
    (hn : (env.fresh h.id).msgLength = n) (hlt : n < 2 ^ 32)
    (hext : extendedTimestamp h.delta data h.size = some (timeStamp, bodyStart))
    (hfits : bodyStart + min st.chunkSizeIn n <= data.length) :
    WholeChunk env st data where
  toChunkHeader := h
  timeStamp := timeStamp
  bodyStart := bodyStart
  extended := by
    rw [hu.packet_eq.1]
    exact hext
  whole := by
    rw [hu.remain_eq hn hlt]
    exact hfits

theorem chunk_stored (hu : Unsupplied env st h) {n timeStamp bodyStart : Nat}
    (hn : (env.fresh h.id).msgLength = n) (hlt : n < 2 ^ 32)
    (hext : extendedTimestamp h.delta data h.size = some (timeStamp, bodyStart))
    (hfits : bodyStart + min st.chunkSizeIn n <= data.length) :
    (hu.chunk hn hlt hext hfits).stored.msgLength = n ∧
      (hu.chunk hn hlt hext hfits).stored.msgTypeId =
        (env.fresh h.id).msgTypeId ∧
      (hu.chunk hn hlt hext hfits).stored.buf.unreadLength =
        min st.chunkSizeIn n := by
  rcases hu.packet_eq with ⟨_, hlength, htype, hbuf⟩
  have hfields := (storePayload_fields (h.packet env st) bodyStart
    (hu.chunk hn hlt hext hfits).payload).1
  have hvalid : (h.packet env st).buf.Valid := by
    rw [hbuf]
    exact FlatBuffer.create_valid _
  rcases storePayload_valid hvalid bodyStart
    (hu.chunk hn hlt hext hfits).payload with ⟨hvalid', hunread⟩
  refine ⟨?_, ?_, ?_⟩
  · show (storePayload (h.packet env st) bodyStart _).msgLength = n
    rw [hfields, hlength, hn]
  · show (storePayload (h.packet env st) bodyStart _).msgTypeId = _
    rw [hfields, htype]
  · show (storePayload (h.packet env st) bodyStart _).buf.unreadLength = _
    rw [← hvalid'.unread_length, hunread, hbuf, FlatBuffer.create_unread,
      List.nil_append, WholeChunk.payload_length]
    show min st.chunkSizeIn (remainMsgLen (h.packet env st)) = _
    rw [hu.remain_eq hn hlt]

/-- With a length of zero, the chunk is over behind its header. -/
theorem drain_zero (hu : Unsupplied env st h)
    (hn : (env.fresh h.id).msgLength = 0) {timeStamp : Nat}
    (hext : extendedTimestamp h.delta data h.size =
      some (timeStamp, data.length)) :
    exists t, drain (splitOnce env) st data = .waiting t [] [] := by
  have hlt : 0 < 2 ^ 32 := by decide
  have hfits : data.length + min st.chunkSizeIn 0 <= data.length := by
    rw [Nat.min_zero, Nat.add_zero]
  let c := hu.chunk hn hlt hext hfits
  rcases hu.chunk_stored hn hlt hext hfits with ⟨hlength, _, hbuffered⟩
  have hcomplete : c.Completes := by
    unfold WholeChunk.Completes
    rw [hlength, hbuffered, Nat.min_zero]
  have hconsumed : c.consumed = data.length := by
    show data.length + min st.chunkSizeIn (remainMsgLen (h.packet env st)) = _
    rw [hu.remain_eq hn hlt, Nat.min_zero, Nat.add_zero]
  have hends := c.ends hu.window
  generalize hlook : splitOnce env st data = look at hends
  cases hends with
  | stored hopen => exact absurd hcomplete hopen
  | handed _ hne => exact absurd hlength hne
  | empty _ _ =>
      have hdrain := (chunkParser env).drain_done c.data_ne_nil hlook
      rw [hconsumed, List.drop_length] at hdrain
      exact ⟨_, hdrain⟩

/-- With a length of one, the byte behind the header is waited for. -/
theorem drain_one (hu : Unsupplied env st h)
    (hn : (env.fresh h.id).msgLength = 1) (hsize : 0 < st.chunkSizeIn)
    {timeStamp : Nat} (hext : extendedTimestamp h.delta data h.size =
      some (timeStamp, data.length)) :
    exists t, drain (splitOnce env) st data = .waiting t [] data := by
  have hcut : h.CutOff env st := by
    intro timeStamp' bodyStart hext'
    rw [hu.packet_eq.1, hext] at hext'
    cases hext'
    rw [hu.remain_eq hn (by decide)]
    omega
  exact ⟨_, (chunkParser env).drain_needMore h.data_ne_nil
    (h.splitOnce_of_cutOff hcut)⟩

/-- If the byte is there, it is handed over with the type of the packet. -/
theorem type_shows (hu : Unsupplied env st h)
    (hn : (env.fresh h.id).msgLength = 1) (hsize : 0 < st.chunkSizeIn)
    {timeStamp bodyStart : Nat}
    (hext : extendedTimestamp h.delta data h.size = some (timeStamp, bodyStart))
    (hbody : bodyStart < data.length) :
    exists p later, (drain (splitOnce env) st data).items = p :: later ∧
      p.msgTypeId = (env.fresh h.id).msgTypeId := by
  have hlt : 1 < 2 ^ 32 := by decide
  have hmin : min st.chunkSizeIn 1 = 1 := Nat.min_eq_right hsize
  have hfits : bodyStart + min st.chunkSizeIn 1 <= data.length := by
    rw [hmin]
    exact hbody
  rcases hu.chunk_stored hn hlt hext hfits with ⟨hlength, htype, hbuffered⟩
  have hcomplete : (hu.chunk hn hlt hext hfits).Completes := by
    unfold WholeChunk.Completes
    rw [hlength, hbuffered, hmin]
  rcases (hu.chunk hn hlt hext hfits).drain_items hu.window hcomplete
    (by rw [hlength]; decide) with ⟨later, hitems⟩
  exact ⟨_, later, hitems, htype⟩

end Unsupplied

/-- The runs with other values have come to the same place. -/
def Paired (env : Env σ) (st : RtmpProtocol σ) (data : Bytes)
    (before : List (RtmpProtocol σ × Bytes)) (items : List RtmpPacket)
    (t : RtmpProtocol σ) (rest : Bytes) : Prop :=
  forall fresh : Nat -> HeaderFields, (forall id, (fresh id).InRange) ->
    exists before' t', Alike env (env.withFresh fresh) before t t' ∧
      Looks (splitOnce (env.withFresh fresh)) st data before' items t' rest

/-- The runs with other values read the same. -/
def AlwaysAgree (env : Env σ) (st : RtmpProtocol σ) (data : Bytes) : Prop :=
  forall fresh fresh' : Nat -> HeaderFields, (forall id, (fresh id).InRange) ->
    (forall id, (fresh' id).InRange) ->
      (splitRtmp (env.withFresh fresh) st data).Agree
        (splitRtmp (env.withFresh fresh') st data)

theorem Paired.agree {st t : RtmpProtocol σ} {data rest : Bytes}
    {before : List (RtmpProtocol σ × Bytes)} {items : List RtmpPacket}
    (h : Paired env st data before items t rest)
    (hagree : AlwaysAgree env st data) {fresh fresh' : Nat -> HeaderFields}
    (hfresh : forall id, (fresh id).InRange)
    (hfresh' : forall id, (fresh' id).InRange) :
    exists u u', Alike env (env.withFresh fresh) before t u ∧
      Alike env (env.withFresh fresh') before t u' ∧
      (drain (splitOnce (env.withFresh fresh)) u rest).Agree
        (drain (splitOnce (env.withFresh fresh')) u' rest) := by
  rcases h fresh hfresh with ⟨_, u, hu, hlooks⟩
  rcases h fresh' hfresh' with ⟨_, u', hu', hlooks'⟩
  refine ⟨u, u', hu, hu', ?_⟩
  have hboth := hagree fresh fresh' hfresh hfresh'
  unfold splitRtmp at hboth
  rw [show drain (splitOnce (env.withFresh fresh)) st data = _ from
      (chunkParser (env.withFresh fresh)).drain_of_looks hlooks,
    show drain (splitOnce (env.withFresh fresh')) st data = _ from
      (chunkParser (env.withFresh fresh')).drain_of_looks hlooks',
    Outcome.agree_emit] at hboth
  exact hboth

/-- Values that packets might be created with. -/
def chosen (msgLength msgTypeId msgStreamId : Nat) (_ : Nat) : HeaderFields where
  chunkStreamId := 0
  msgStreamId := msgStreamId
  msgLength := msgLength
  msgTypeId := msgTypeId
  tsDelta := 0
  timeStamp := 0

theorem chosen_inRange {l a s : Nat} (hl : l < 2 ^ 32) (ha : a < 2 ^ 8)
    (hs : s < 2 ^ 32) (id : Nat) : (chosen l a s id).InRange :=
  ⟨Nat.two_pow_pos 32, hs, hl, ha, Nat.two_pow_pos 32, Nat.two_pow_pos 32⟩

theorem learn_eq_nothing {k : Known} {l : Nat}
    (hl : l = 12 ∨ l = 8 ∨ l = 4 ∨ l = 1) (h : k.learn l = .nothing) :
    k = .nothing ∧ (l = 4 ∨ l = 1) := by
  rcases hl with rfl | rfl | rfl | rfl
  · cases h
  · cases k <;> cases h
  · exact ⟨h, Or.inl rfl⟩
  · exact ⟨h, Or.inr rfl⟩

theorem Paired.header_supplied {st t : RtmpProtocol σ} {data rest : Bytes}
    {before : List (RtmpProtocol σ × Bytes)} {items : List RtmpPacket}
    (hpaired : Paired env st data before items t rest)
    (hagree : AlwaysAgree env st data) (h : ChunkHeader rest)
    (hk : (knownOf h.id before).learn h.length = .nothing)
    (hsize : 0 < t.chunkSizeIn) :
    h.length = 4 ∧
      extendedTimestamp (loadBe24 (h.bytes.drop 1)) rest h.size = none := by
  rcases learn_eq_nothing h.length_cases hk with ⟨hnothing, hl⟩
  have hunsupplied : forall {fresh : Nat -> HeaderFields} {u : RtmpProtocol σ},
      Alike env (env.withFresh fresh) before t u -> (fresh h.id).tsDelta = 0 ->
        Unsupplied (env.withFresh fresh) u h := by
    intro fresh u hu hdelta
    exact ⟨hl, ((hu.slots h.id).untouched hnothing).2, hdelta, hu.window'⟩
  cases hext : extendedTimestamp h.delta rest h.size with
  | none =>
      unfold ChunkHeader.delta at hext
      rcases hl with hl | hl
      · rw [if_pos hl] at hext
        exact ⟨hl, hext⟩
      · rw [if_neg (by rw [hl]; decide)] at hext
        cases hext
  | some found =>
      rcases found with ⟨timeStamp, bodyStart⟩
      exfalso
      have hbody := extendedTimestamp_le hext h.size_le
      rcases Nat.lt_or_eq_of_le hbody with hlt | heq
      · -- a message of one byte, with one type or the other
        rcases hpaired.agree hagree
            (chosen_inRange (l := 1) (a := 0) (s := 0) (by decide) (by decide)
              (by decide))
            (chosen_inRange (l := 1) (a := 2) (s := 0) (by decide) (by decide)
              (by decide)) with ⟨u, u', hu, hu', hsame⟩
        rcases (hunsupplied hu rfl).type_shows rfl
            (hu.chunkSizeIn ▸ hsize) hext hlt with ⟨p, later, hitems, htype⟩
        rcases (hunsupplied hu' rfl).type_shows rfl
            (hu'.chunkSizeIn ▸ hsize) hext hlt with
          ⟨p', later', hitems', htype'⟩
        have heq := hsame.items_eq
        rw [hitems, hitems', List.cons.injEq] at heq
        rw [heq.1, htype'] at htype
        cases htype
      · -- no byte behind the header, where one is missing or none
        subst heq
        rcases hpaired.agree hagree
            (chosen_inRange (l := 0) (a := 0) (s := 0) (by decide) (by decide)
              (by decide))
            (chosen_inRange (l := 1) (a := 0) (s := 0) (by decide) (by decide)
              (by decide)) with ⟨u, u', hu, hu', hsame⟩
        rcases (hunsupplied hu rfl).drain_zero rfl hext with ⟨v, hzero⟩
        rcases (hunsupplied hu' rfl).drain_one rfl
            (hu'.chunkSizeIn ▸ hsize) hext with ⟨v', hone⟩
        rw [hzero, hone] at hsame
        exact h.data_ne_nil hsame.2.symm

theorem Paired.message_supplied {st t : RtmpProtocol σ} {data rest : Bytes}
    {before : List (RtmpProtocol σ × Bytes)} {items : List RtmpPacket}
    (hpaired : Paired env st data before items t rest)
    (hagree : AlwaysAgree env st data)
    (c : WholeChunk env t rest) (hhanded : c.handed ≠ [])
    (hk : (knownOf c.id before).learn c.length ≠ .nothing) :
    (knownOf c.id before).learn c.length = .all := by
  cases hknown : (knownOf c.id before).learn c.length with
  | all => rfl
  | nothing => exact absurd hknown hk
  | length =>
      exfalso
      rcases hpaired.agree hagree
          (chosen_inRange (l := 0) (a := 0) (s := 0) (by decide) (by decide)
            (by decide))
          (chosen_inRange (l := 0) (a := 0) (s := 1) (by decide) (by decide)
            (by decide)) with ⟨u, u', hu, hu', hsame⟩
      rcases streamId_shows hu c hhanded hknown with ⟨p, later, hitems, hid⟩
      rcases streamId_shows hu' c hhanded hknown with
        ⟨p', later', hitems', hid'⟩
      have heq := hsame.items_eq
      rw [hitems, hitems', List.cons.injEq] at heq
      rw [heq.1, hid'] at hid
      cases hid

theorem Paired.supplied {st t : RtmpProtocol σ} {data rest : Bytes}
    {before : List (RtmpProtocol σ × Bytes)} {items : List RtmpPacket}
    (hpaired : Paired env st data before items t rest)
    (hagree : AlwaysAgree env st data)
    (hsize : forall h : ChunkHeader rest,
      (knownOf h.id before).learn h.length = .nothing -> 0 < t.chunkSizeIn) :
    Supplied env before t rest where
  header := fun h hk => hpaired.header_supplied hagree h hk (hsize h hk)
  message := by
    intro c hhanded
    apply hpaired.message_supplied hagree c hhanded
    intro hnothing
    rcases hpaired.header_supplied hagree c.toChunkHeader hnothing
      (hsize _ hnothing) with ⟨hl, hnone⟩
    have hext := c.extended
    rw [ChunkHeader.packet_tsDelta hl, hnone] at hext
    cases hext

/-- The chunk size is not zero where a header is read that leaves the length
open. -/
def NoneSkipped (env : Env σ) (st : RtmpProtocol σ) (data : Bytes) : Prop :=
  forall before items t rest, Looks (splitOnce env) st data before items t rest ->
    forall h : ChunkHeader rest,
      (knownOf h.id before).learn h.length = .nothing -> 0 < t.chunkSizeIn

theorem alwaysSupplied_of_agree (hkeep : env.KeepWindow)
    {st : RtmpProtocol σ} (hmap : st.chunkedDataMap = fun _ => {})
    (hwindow : st.side.windowsSize = 0) {data : Bytes}
    (hsizes : NoneSkipped env st data) (hagree : AlwaysAgree env st data) :
    AlwaysSupplied env st data := by
  have hpaired : forall {before items t rest},
      Looks (splitOnce env) st data before items t rest ->
        Paired env st data before items t rest := by
    intro before items t rest hlooks
    induction hlooks with
    | start =>
        intro fresh _
        exact ⟨[], st, alike_initial env _ hmap hwindow, .start⟩
    | done earlier hne hattempt ih =>
        have hsupplied := ih.supplied hagree (hsizes _ _ _ _ earlier)
        intro fresh hfresh
        rcases ih fresh hfresh with ⟨before', t', halike, hlooks'⟩
        exact (chunkParser env).next_agree (chunkParser (env.withFresh fresh))
          hne hlooks' hattempt (alike_look hkeep
            (env.withFresh_handlers fresh) halike hsupplied)
  intro before items t rest hlooks _
  exact (hpaired hlooks).supplied hagree (hsizes _ _ _ _ hlooks)

theorem agree_of_alwaysSupplied (hkeep : env.KeepWindow)
    {st : RtmpProtocol σ} (hmap : st.chunkedDataMap = fun _ => {})
    (hwindow : st.side.windowsSize = 0) {data : Bytes}
    (hsupplied : AlwaysSupplied env st data) : AlwaysAgree env st data := by
  intro fresh fresh' _ _
  have h : (splitRtmp env st data).Agree
      (splitRtmp (env.withFresh fresh) st data) :=
    splitRtmp_agree hkeep (env.withFresh_handlers fresh) hmap hwindow hsupplied
  have h' : (splitRtmp env st data).Agree
      (splitRtmp (env.withFresh fresh') st data) :=
    splitRtmp_agree hkeep (env.withFresh_handlers fresh') hmap hwindow hsupplied
  exact h.symm.trans h'

/-!
## The contents of messages
-/

/-- The same bytes are consumed and the same messages delivered, or both reject
what they are given. -/
def SameReading :
    Outcome UInt8 (RtmpProtocol σ) RtmpPacket ->
      Outcome UInt8 (RtmpProtocol σ) RtmpPacket -> Prop
  | .waiting _ items rest, .waiting _ items' rest' =>
      items = items' ∧ rest = rest'
  | .failed _ _, .failed _ _ => True
  | _, _ => False

/-- Nothing depends on the values that packets are created with. -/
def FromTheWire (env : Env σ) (st : RtmpProtocol σ) (data : Bytes) : Prop :=
  forall fresh fresh' : Nat -> HeaderFields, (forall id, (fresh id).InRange) ->
    (forall id, (fresh' id).InRange) ->
      SameReading (splitRtmp (env.withFresh fresh) st data)
        (splitRtmp (env.withFresh fresh') st data)

/-- The bytes are rejected, whatever packets are created with. -/
def AlwaysRejected (env : Env σ) (st : RtmpProtocol σ) (data : Bytes) : Prop :=
  forall fresh : Nat -> HeaderFields, (forall id, (fresh id).InRange) ->
    exists t items, splitRtmp (env.withFresh fresh) st data = .failed t items

theorem fromTheWire_of_agree {st : RtmpProtocol σ} {data : Bytes}
    (h : AlwaysAgree env st data) : FromTheWire env st data := by
  intro fresh fresh' hfresh hfresh'
  have hsame := h fresh fresh' hfresh hfresh'
  cases hone : splitRtmp (env.withFresh fresh) st data with
  | waiting t items rest =>
      cases hother : splitRtmp (env.withFresh fresh') st data with
      | waiting t' items' rest' =>
          rw [hone, hother] at hsame
          exact hsame
      | failed t' items' =>
          rw [hone, hother] at hsame
          exact hsame
  | failed t items =>
      cases hother : splitRtmp (env.withFresh fresh') st data with
      | waiting t' items' rest' =>
          rw [hone, hother] at hsame
          exact hsame
      | failed t' items' => trivial

/-- If one run does not reject the bytes, then none does. -/
theorem agree_or_rejected {st : RtmpProtocol σ} {data : Bytes}
    (h : FromTheWire env st data) :
    AlwaysAgree env st data ∨ AlwaysRejected env st data := by
  by_cases hrejected : AlwaysRejected env st data
  · exact Or.inr hrejected
  left
  have hwaits : exists fresh : Nat -> HeaderFields,
      (forall id, (fresh id).InRange) ∧ exists t items rest,
        splitRtmp (env.withFresh fresh) st data = .waiting t items rest := by
    by_contra hnone
    apply hrejected
    intro fresh hfresh
    cases hrun : splitRtmp (env.withFresh fresh) st data with
    | failed t items => exact ⟨t, items, rfl⟩
    | waiting t items rest =>
        exact absurd ⟨fresh, hfresh, t, items, rest, hrun⟩ hnone
  rcases hwaits with ⟨fresh, hfresh, t, items, rest, hrun⟩
  have hlike : forall {other : Nat -> HeaderFields},
      (forall id, (other id).InRange) ->
        exists u, splitRtmp (env.withFresh other) st data =
          .waiting u items rest := by
    intro other hother
    have hsame := h fresh other hfresh hother
    rw [hrun] at hsame
    cases hrun' : splitRtmp (env.withFresh other) st data with
    | failed u items' =>
        rw [hrun'] at hsame
        exact hsame.elim
    | waiting u items' rest' =>
        rw [hrun'] at hsame
        rcases hsame with ⟨rfl, rfl⟩
        exact ⟨u, rfl⟩
  intro one other hone hother
  rcases hlike hone with ⟨u, hu⟩
  rcases hlike hother with ⟨u', hu'⟩
  rw [hu, hu']
  exact ⟨rfl, rfl⟩

/--
What is read of the bytes does not depend on the values that packets are created
with if every look finds what it needs in the bytes, or if the bytes are rejected
in any case.  In all other cases it does, unless a header of unknown length comes
while the chunk size is zero.
-/
theorem fromTheWire_iff (hkeep : env.KeepWindow) {st : RtmpProtocol σ}
    (hmap : st.chunkedDataMap = fun _ => {})
    (hwindow : st.side.windowsSize = 0) (data : Bytes) :
    (AlwaysSupplied env st data ∨ AlwaysRejected env st data ->
      FromTheWire env st data) ∧
    (NoneSkipped env st data -> FromTheWire env st data ->
      AlwaysSupplied env st data ∨ AlwaysRejected env st data) := by
  constructor
  · rintro (hsupplied | hrejected)
    · exact fromTheWire_of_agree
        (agree_of_alwaysSupplied hkeep hmap hwindow hsupplied)
    · intro fresh fresh' hfresh hfresh'
      rcases hrejected fresh hfresh with ⟨t, items, hfailed⟩
      rcases hrejected fresh' hfresh' with ⟨t', items', hfailed'⟩
      rw [hfailed, hfailed']
      trivial
  · intro hsizes h
    rcases agree_or_rejected h with hagree | hrejected
    · exact Or.inl
        (alwaysSupplied_of_agree hkeep hmap hwindow hsizes hagree)
    · exact Or.inr hrejected

instance (o o' : Outcome UInt8 (RtmpProtocol σ) RtmpPacket) :
    Decidable (SameReading o o') :=
  match o, o' with
  | .waiting _ items rest, .waiting _ items' rest' =>
      inferInstanceAs (Decidable (items = items' ∧ rest = rest'))
  | .failed _ _, .failed _ _ => inferInstanceAs (Decidable True)
  | .waiting _ _ _, .failed _ _ => inferInstanceAs (Decidable False)
  | .failed _ _, .waiting _ _ _ => inferInstanceAs (Decidable False)

/-- A header with `fmt` 0 supplies everything. -/
theorem supplied_of_full {before : List (RtmpProtocol σ × Bytes)}
    {st : RtmpProtocol σ} {data : Bytes}
    (h : forall header : ChunkHeader data, header.length = 12) :
    Supplied env before st data where
  header := by
    intro header hk
    rw [h header] at hk
    cases hk
  message := by
    intro c _
    rw [h c.toChunkHeader]
    rfl

end Looks

/-- A message of one byte, with all fields in its header. -/
def fullChunk : Bytes := [3, 0, 0, 0, 0, 0, 1, 0, 1, 0, 0, 0, 7]

theorem fullChunk_supplied :
    AlwaysSupplied .accepting { app := () } fullChunk := by
  have hwhole :
      bytesTaken .accepting { app := () } fullChunk = fullChunk.length := by
    decide +kernel
  have hlooks : forall {before items t rest},
      Looks (splitOnce .accepting) { app := () } fullChunk before items t rest ->
        (t = { app := () } ∧ rest = fullChunk) ∨ rest = [] := by
    intro before items t rest h
    induction h with
    | start => exact Or.inl ⟨rfl, rfl⟩
    | @done before items out t t' rest k earlier hne hattempt ih =>
        rcases ih with ⟨rfl, rfl⟩ | hnil
        · unfold bytesTaken at hwhole
          rw [hattempt] at hwhole
          have hk : k = fullChunk.length := hwhole
          right
          rw [hk, List.drop_length]
        · exact absurd hnil hne
  intro before items t rest h hne
  rcases hlooks h with ⟨_, rfl⟩ | hnil
  · exact supplied_of_full fun header => rfl
  · exact absurd hnil hne

theorem fromTheWire_fullChunk :
    FromTheWire .accepting { app := () } fullChunk := by
  refine (fromTheWire_iff accepting_keepWindow ?_ ?_ fullChunk).1 ?_
  · rfl
  · rfl
  · exact Or.inl fullChunk_supplied

/-- A chunk with `fmt` 3 is the first one. -/
theorem not_fromTheWire_bareChunk :
    ¬ FromTheWire .accepting { app := () } [0xC3, 7] := by
  intro h
  have hsame := h (chosen 1 0 0) (chosen 1 2 0)
    (chosen_inRange (by decide) (by decide) (by decide))
    (chosen_inRange (by decide) (by decide) (by decide))
  exact absurd hsame (by decide +kernel)

end Rtmp
end Streaming
