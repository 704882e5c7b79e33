import Streaming.Flv.Relay

/-!
# On the air

The source keeps the config frames at the beginning of a stream back until the
first other packet has registered it.  From then on every message is passed on
to the dispatcher, in the order in which the messages came in.
-/

namespace Streaming
namespace Flv

open Foundation Media Rtmp RtmpMediaSource Util

/-!
## The messages that are passed on
-/

section Airing

/-- The messages from the first one on that is no config frame, each with its
position. -/
def airing (msgs : List RtmpPacket) : List (RtmpPacket × PacketPtr) :=
  msgs.zipIdx.dropWhile fun p => decide p.1.IsConfig

/-- What `distribute` is called with for a message. -/
def flagged (p : RtmpPacket × PacketPtr) : PacketPtr × Bool :=
  (p.2, decide p.1.IsKeyframe)

theorem airing_concat (msgs : List RtmpPacket) (pkt : RtmpPacket) :
    airing (msgs ++ [pkt]) =
      if airing msgs = [] ∧ pkt.IsConfig then []
      else airing msgs ++ [(pkt, msgs.length)] := by
  unfold airing
  rw [List.zipIdx_append, List.dropWhile_append]
  by_cases hnone : msgs.zipIdx.dropWhile (fun p => decide p.1.IsConfig) = []
  · by_cases hconfig : pkt.IsConfig
    · simp [hnone, hconfig]
    · simp [hnone, hconfig]
  · simp [hnone]

theorem airing_mem {msgs : List RtmpPacket} {p : RtmpPacket × PacketPtr}
    (h : p ∈ airing msgs) : msgs[p.2]? = some p.1 := by
  have hmem := (List.dropWhile_suffix _).subset h
  exact List.mk_mem_zipIdx_iff_getElem?.mp hmem

/-- The messages that are passed on keep up with the calls that pass them on. -/
theorem passedOn_airing {W R : Type} {s s' : Ingest W R} {pkt : RtmpPacket}
    {isIdr : Option Bool} {msgs : List RtmpPacket}
    (h : PassedOn pkt s s' isIdr)
    (hregistered : s.source.isRegistered = false <-> airing msgs = []) :
    (s'.source.isRegistered = false <-> airing (msgs ++ [pkt]) = []) ∧
      (airing (msgs ++ [pkt])).map flagged = (airing msgs).map flagged ++
        (isIdr.map fun isIdr => (msgs.length, isIdr)).toList := by
  rw [airing_concat]
  cases h with
  | keptBack hconfig hbefore hafter =>
      have hnone := hregistered.mp hbefore
      rw [if_pos ⟨hnone, hconfig⟩, hnone]
      exact ⟨iff_of_true hafter rfl, rfl⟩
  | passed hregist hafter =>
      have hnot : ¬ (airing msgs = [] ∧ pkt.IsConfig) := by
        rintro ⟨hnone, hconfig⟩
        rcases hregist with htrue | hother
        · rw [hregistered.mpr hnone] at htrue
          cases htrue
        · exact hother hconfig
      rw [if_neg hnot]
      constructor
      · rw [hafter]
        simp
      · rw [List.map_append]
        rfl

end Airing

/-!
## Runs
-/

section Runs

variable {W R : Type} [DecidableEq R]

/-- What the messages so far say about the source and its dispatcher. -/
structure OnAir (es : List (RelayEvent R)) (d : PacketDispatcher PacketPtr R)
    (s : Relay W R) : Prop where
  length_eq : s.ingest.packets.length = (messages es).length
  configFrames : ConfigFrames (messages es) s.ingest.source.configFrameMap
  dispatcher_eq : s.ingest.source.dispatcher = some d
  fanout : run Fanout.step (Fanout.start PacketDispatcher.kMaxPacketCacheSize)
    (fanoutEvents es) = some ⟨d, s.phase⟩
  registered : s.ingest.source.isRegistered = false <-> airing (messages es) = []
  order : distributed (fanoutEvents es) ++ s.pending.toList =
    (airing (messages es)).map flagged
  busy : s.phase ≠ .idle ->
    s.pending = none ∧ distributed (fanoutEvents es) ≠ []
  joined : forall r, .regist r ∈ fanoutEvents es ->
    exists c, s.clients r = some c ∧ c.joined = true
  given : forall r, GivenTo PacketDispatcher.kMaxPacketCacheSize r
    (fanoutEvents es) ⟨d, s.phase⟩

theorem receive_onAir {regist : W -> Except String W}
    {h264DecSeqParameterSet : Bytes -> Bool} {es : List (RelayEvent R)}
    {d : PacketDispatcher PacketPtr R} {s s' : Relay W R} {pkt : RtmpPacket}
    (h : OnAir es d s)
    (hstep : s.receive regist h264DecSeqParameterSet pkt = some s') :
    OnAir (es ++ [.message pkt]) d s' := by
  rcases receive_ok hstep with
    ⟨isIdr, before, ingest, hphase, hpending, hbefore, haccepted, hpassed, hs'⟩
  subst hbefore hs'
  have horder := h.order
  rw [hpending, Option.toList_none, List.append_nil] at horder
  rcases passedOn_airing hpassed h.registered with ⟨hregistered, hair⟩
  constructor
  · rw [haccepted.packets_eq, messages_message, List.length_set,
      List.length_append, List.length_append, h.length_eq]
  · rw [messages_message]
    have hconfigs := h.configFrames.concat pkt
    rw [← h.length_eq] at hconfigs
    exact haccepted.configFrameMap_eq ▸ hconfigs
  · exact haccepted.dispatcher_eq.trans h.dispatcher_eq
  · rw [fanoutEvents_message]
    exact h.fanout
  · rw [messages_message]
    exact hregistered
  · rw [fanoutEvents_message, messages_message, hair, horder, h.length_eq]
  · intro hbusy
    exact absurd hphase hbusy
  · rw [fanoutEvents_message]
    exact h.joined
  · rw [fanoutEvents_message]
    exact h.given

/-- What a step of the dispatcher consists of. -/
theorem fanout_ok {s s' : Relay W R} {e : FanoutEvent PacketPtr R}
    (h : s.fanout e = some s') :
    exists s₁ d f, s.prepare e = some s₁ ∧ s.ingest.source.dispatcher = some d ∧
      Fanout.step ⟨d, s.phase⟩ e = some f ∧
        (forall r, (s₁.served ⟨d, s.phase⟩ e r).isSome) ∧
          s' = {
            ingest := { s.ingest with source := { s.ingest.source with
              dispatcher := some f.dispatcher } }
            phase := f.phase
            pending := s₁.pending
            clients := fun r => (s₁.served ⟨d, s.phase⟩ e r).join } := by
  rcases Option.bind_eq_some_iff.mp h with ⟨s₁, hprepare, h₁⟩
  rcases Option.bind_eq_some_iff.mp h₁ with ⟨d, hd, h₂⟩
  rcases Option.bind_eq_some_iff.mp h₂ with ⟨f, hf, h₃⟩
  have hprepared := prepare_ok hprepare
  rw [hprepared.ingest_eq] at hd
  rw [hprepared.phase_eq] at hf
  split at h₃
  · rename_i hserved
    rw [hprepared.phase_eq] at hserved
    cases h₃
    refine ⟨s₁, d, f, hprepare, hd, hf, ?_, ?_⟩
    · intro r
      by_cases hmem : r ∈ d.oldClients ∪ d.newClients
      · exact hserved r hmem
      · rw [Finset.mem_union, not_or] at hmem
        have hhands : (Fanout.mk d s.phase).hands r e = [] := by
          cases e <;> simp [Fanout.hands, hmem]
        unfold Relay.served
        rw [hhands]
        cases s₁.clients r <;> rfl
    · rw [hprepared.ingest_eq, hprepared.phase_eq]
  · cases h₃

/-- A call of `distribute` takes over the packet that is pending. -/
theorem prepare_pending {s s' : Relay W R} {e : FanoutEvent PacketPtr R}
    (h : s.prepare e = some s') :
    distributed [e] ++ s'.pending.toList = s.pending.toList := by
  cases e with
  | dispatchOld ptr isIdr =>
      simp only [Relay.prepare] at h
      split at h
      · rename_i hpending
        cases h
        rw [hpending]
        rfl
      · cases h
  | cachePacket =>
      cases h
      rfl
  | mergeClients =>
      cases h
      rfl
  | regist r =>
      rcases Option.bind_eq_some_iff.mp h with ⟨c, _, h⟩
      split at h
      · cases h
      · cases h
        rfl
  | leave r =>
      rcases Option.bind_eq_some_iff.mp h with ⟨c, _, h⟩
      cases h
      rfl

/-- A reader is registered once. -/
theorem prepare_regist {s s' : Relay W R} {r : R}
    (h : s.prepare (.regist r) = some s') :
    exists c, s.clients r = some c ∧ c.joined = false := by
  rcases Option.bind_eq_some_iff.mp h with ⟨c, hc, h⟩
  split at h
  · cases h
  · rename_i hjoined
    exact ⟨c, hc, Bool.not_eq_true _ ▸ hjoined⟩

omit [DecidableEq R] in
theorem readCb_joined {c c' : FlvClient} {pkt : RtmpPacket}
    (h : c.readCb pkt = .ok c') : c'.joined = c.joined := by
  unfold FlvClient.readCb at h
  split_ifs at h
  · cases h
    rfl
  · cases h
    rfl
  · cases hwrite : writeFlv pkt.msgTypeId pkt.buf.data pkt.buf.unreadLength
        pkt.timeStamp with
    | error what =>
        rw [hwrite] at h
        cases h
    | ok pieces =>
        rw [hwrite] at h
        cases h
        rfl

omit [DecidableEq R] in
theorem serve_joined {packets : List RtmpPacket} {c c' : FlvClient}
    {ptrs : List PacketPtr} (h : Relay.serve packets c ptrs = some c') :
    c'.joined = c.joined := by
  induction ptrs generalizing c with
  | nil =>
      cases h
      rfl
  | cons ptr ptrs ih =>
      rw [Relay.serve, List.foldlM_cons] at h
      rcases Option.bind_eq_some_iff.mp h with ⟨c₁, hfirst, hrest⟩
      rcases Option.bind_eq_some_iff.mp hfirst with ⟨pkt, _, hread⟩
      rw [ih hrest]
      cases hresult : c.readCb pkt with
      | error what =>
          rw [hresult] at hread
          cases hread
      | ok c₂ =>
          rw [hresult] at hread
          cases hread
          exact readCb_joined hresult

/-- While a call of `distribute` is on, no packet waits for another one. -/
theorem step_busy {s s' : Relay W R} {e : FanoutEvent PacketPtr R}
    {d : PacketDispatcher PacketPtr R} {f : Fanout PacketPtr R}
    {calls : List (PacketPtr × Bool)} (hprepare : s.prepare e = some s')
    (hf : Fanout.step ⟨d, s.phase⟩ e = some f)
    (h : s.phase ≠ .idle -> s.pending = none ∧ calls ≠ [])
    (hbusy : f.phase ≠ .idle) :
    s'.pending = none ∧ calls ++ distributed [e] ≠ [] := by
  have hpending := prepare_pending hprepare
  cases e with
  | dispatchOld ptr isIdr =>
      rw [(prepare_ok hprepare).dispatched ptr isIdr rfl] at hpending
      constructor
      · exact Option.toList_eq_nil_iff.mp (List.cons.inj hpending).2
      · exact List.append_ne_nil_of_right_ne_nil _ (List.cons_ne_nil _ _)
  | cachePacket =>
      have hbefore : s.phase ≠ .idle := by
        intro hidle
        rw [hidle] at hf
        cases hf
      rcases h hbefore with ⟨hnone, hcalls⟩
      rw [hnone] at hpending
      exact ⟨Option.toList_eq_nil_iff.mp hpending,
        List.append_ne_nil_of_left_ne_nil hcalls _⟩
  | mergeClients =>
      simp only [Fanout.step] at hf
      split at hf
      · cases hf
        exact absurd rfl hbusy
      · cases hf
  | regist r =>
      cases hf
      rcases h hbusy with ⟨hnone, hcalls⟩
      rw [hnone] at hpending
      exact ⟨Option.toList_eq_nil_iff.mp hpending,
        List.append_ne_nil_of_left_ne_nil hcalls _⟩
  | leave r =>
      cases hf
      rcases h hbusy with ⟨hnone, hcalls⟩
      rw [hnone] at hpending
      exact ⟨Option.toList_eq_nil_iff.mp hpending,
        List.append_ne_nil_of_left_ne_nil hcalls _⟩

theorem fanout_onAir {es : List (RelayEvent R)}
    {d : PacketDispatcher PacketPtr R} {s s' : Relay W R}
    {e : FanoutEvent PacketPtr R} (h : OnAir es d s)
    (hstep : s.fanout e = some s') :
    exists d', OnAir (es ++ [.fanout e]) d' s' := by
  rcases fanout_ok hstep with ⟨s₁, d₁, f, hprepare, hd, hf, hserved, hs'⟩
  cases h.dispatcher_eq.symm.trans hd
  have hprepared := prepare_ok hprepare
  have hnew : forall r, e = .regist r -> .regist r ∉ fanoutEvents es := by
    intro r he hmem
    subst he
    rcases prepare_regist hprepare with ⟨c, hc, hfalse⟩
    rcases h.joined r hmem with ⟨c', hc', htrue⟩
    cases hc.symm.trans hc'
    cases hfalse.symm.trans htrue
  have hold : forall r, e = .regist r -> r ∉ d.oldClients := by
    intro r he
    exact (run_absent (start_absent _ r) (hnew r he) h.fanout).not_old
  subst hs'
  refine ⟨f.dispatcher, ?_⟩
  constructor
  · rw [messages_fanout]
    exact h.length_eq
  · rw [messages_fanout]
    exact h.configFrames
  · rfl
  · rw [fanoutEvents_fanout]
    exact run_snoc.mpr ⟨⟨d, s.phase⟩, h.fanout, hf⟩
  · rw [messages_fanout]
    exact h.registered
  · have hpending := prepare_pending hprepare
    rw [messages_fanout, fanoutEvents_fanout, ← h.order, ← hpending,
      distributed_append, List.append_assoc]
  · intro hbusy
    have hnext := step_busy hprepare hf h.busy hbusy
    rw [fanoutEvents_fanout, distributed_append]
    exact hnext
  · intro r hregist
    rw [fanoutEvents_fanout, List.mem_append, List.mem_singleton] at hregist
    have hjoined : exists c₁, s₁.clients r = some c₁ ∧ c₁.joined = true := by
      rcases hregist with hbefore | hnow
      · rcases h.joined r hbefore with ⟨c, hc, hjoined⟩
        rcases hprepared.kept r c hc with ⟨c₁, hc₁, hrenewed⟩
        exact ⟨c₁, hc₁, hrenewed.joined hjoined⟩
      · exact hprepared.joined r hnow.symm
    rcases hjoined with ⟨c₁, hc₁, hjoined⟩
    have hsome := hserved r
    simp only [Relay.served, hc₁] at hsome ⊢
    cases hserve : Relay.serve s₁.ingest.packets c₁
        ((Fanout.mk d s.phase).hands r e) with
    | none =>
        rw [hserve] at hsome
        cases hsome
    | some c₂ => exact ⟨c₂, rfl, (serve_joined hserve).trans hjoined⟩
  · intro r
    rw [fanoutEvents_fanout]
    exact step_givenTo (run_cacheInvariant h.fanout) (h.given r) (hold r) hf

theorem startMuxing_onAir {es : List (RelayEvent R)}
    {d : PacketDispatcher PacketPtr R} {s s' : Relay W R} {r : R}
    {startPts : Nat} {order : List (Nat × PacketPtr)} (h : OnAir es d s)
    (hstep : s.startMuxing r startPts order = some s') :
    OnAir (es ++ [.startMuxing r startPts order]) d s' := by
  rcases startMuxing_ok hstep with ⟨hnone, _, _, _, sent, _, _, _, hs'⟩
  subst hs'
  constructor
  · rw [messages_startMuxing]
    exact h.length_eq
  · rw [messages_startMuxing]
    exact h.configFrames
  · exact h.dispatcher_eq
  · rw [fanoutEvents_startMuxing]
    exact h.fanout
  · rw [messages_startMuxing]
    exact h.registered
  · rw [messages_startMuxing, fanoutEvents_startMuxing]
    exact h.order
  · rw [fanoutEvents_startMuxing]
    exact h.busy
  · intro other hregist
    rw [fanoutEvents_startMuxing] at hregist
    rcases h.joined other hregist with ⟨c, hc, hjoined⟩
    have hne : other ≠ r := by
      intro heq
      rw [heq] at hc
      cases hc.symm.trans hnone
    exact ⟨c, (Function.update_of_ne hne _ _).trans hc, hjoined⟩
  · rw [fanoutEvents_startMuxing]
    exact h.given

theorem start_onAir {metaData : Option MetaDataPtr}
    {maps : MetaDataPtr -> Option Metadata} {registry : W}
    {ingest : Ingest W R} {u : PUnit}
    (h : initTracks metaData { registry := registry, maps := maps } =
      .ok u ingest) :
    OnAir [] .create (Relay.start ingest) := by
  rcases start_invariant h with ⟨metadata, hstart⟩
  rcases initTracks_ok h with ⟨ptr, metadata', demuxer, _, hingest⟩
  subst hingest
  constructor
  · rfl
  · exact hstart.configFrames
  · rfl
  · rfl
  · exact iff_of_true rfl rfl
  · rfl
  · intro hbusy
    exact absurd rfl hbusy
  · intro r hregist
    cases hregist
  · intro r
    exact Or.inl ⟨rfl, Finset.notMem_empty r⟩

theorem run_onAir {regist : W -> Except String W}
    {h264DecSeqParameterSet : Bytes -> Bool} {metaData : Option MetaDataPtr}
    {maps : MetaDataPtr -> Option Metadata} {registry : W}
    {ingest : Ingest W R} {u : PUnit} {es : List (RelayEvent R)}
    {s : Relay W R}
    (hinit : initTracks metaData { registry := registry, maps := maps } =
      .ok u ingest)
    (h : run (Relay.step regist h264DecSeqParameterSet) (Relay.start ingest) es =
      some s) : exists d, OnAir es d s := by
  apply run_history (I := fun es s => exists d, OnAir es d s) _ _ h
  · exact ⟨.create, start_onAir hinit⟩
  · intro es t e t' _ ht he
    rcases ht with ⟨d, ht⟩
    cases e with
    | message pkt => exact ⟨d, receive_onAir ht he⟩
    | startMuxing r startPts order => exact ⟨d, startMuxing_onAir ht he⟩
    | fanout e => exact fanout_onAir ht he

/-- A reader that is not merged has been given nothing, any other one all that is
passed on from where the cache began at the merge, but for a packet that is still
pending. -/
theorem OnAir.read_split {es : List (RelayEvent R)}
    {d : PacketDispatcher PacketPtr R} {s : Relay W R} (h : OnAir es d s)
    (r : R) :
    ((d.readers r).read = [] ∧ r ∉ d.oldClients) ∨
      exists dropped cached later rest,
        airing (messages es) = dropped ++ (cached ++ (later ++ rest)) ∧
          rest.map flagged = s.pending.toList ∧
            (d.readers r).read = (cached ++ later).map Prod.snd ∧
              (dropped = [] ∨
                (exists p ps, cached = p :: ps ∧ p.1.IsKeyframe) ∨
                  (cached.length = PacketDispatcher.kMaxPacketCacheSize ∧
                    forall p, p ∈ cached -> ¬ p.1.IsKeyframe)) := by
  rcases h.given r with hwaiting | ⟨_, _, before, later, hsplit, hread⟩
  · exact Or.inl hwaiting
  · right
    rcases latest_begins PacketDispatcher.kMaxPacketCacheSize before with
      ⟨dropped, cached, hbefore, hlatest, hbegins⟩
    have horder := h.order
    rw [hsplit, hbefore, List.append_assoc, List.append_assoc] at horder
    rcases List.map_eq_append_iff.mp horder.symm with
      ⟨A, A', hA, hdropped, horder'⟩
    rcases List.map_eq_append_iff.mp horder' with ⟨B, B', hB, hcached, hrest⟩
    rcases List.map_eq_append_iff.mp hrest with ⟨C, D, hC, hlater, hpending⟩
    have hpointers : forall ps : List (RtmpPacket × PacketPtr),
        (ps.map flagged).map Prod.fst = ps.map Prod.snd := by
      intro ps
      rw [List.map_map]
      rfl
    refine ⟨A, B, C, D, ?_, hpending, ?_, ?_⟩
    · rw [hA, hB, hC]
    · show (d.readers r).read = _
      rw [hread, hlatest, ← hcached, ← hlater, hpointers, hpointers,
        ← List.map_append]
    · rw [← hcached, ← hdropped] at hbegins
      rcases hbegins with hnone | ⟨p, ps, hfirst, hkey⟩ | ⟨hfull, hnone⟩
      · exact Or.inl (List.map_eq_nil_iff.mp hnone)
      · right
        left
        rcases List.map_eq_cons_iff.mp hfirst with ⟨q, qs, hqs, hq, _⟩
        rw [← hq] at hkey
        exact ⟨q, qs, hqs, of_decide_eq_true hkey⟩
      · right
        right
        rw [List.length_map] at hfull
        exact ⟨hfull, fun q hq =>
          of_decide_eq_false (hnone (flagged q) (List.mem_map_of_mem hq))⟩

/-- A reader has been given nothing, or a section of what is passed on, which
begins where the cache began when the reader was merged. -/
theorem OnAir.read_cases {es : List (RelayEvent R)}
    {d : PacketDispatcher PacketPtr R} {s : Relay W R} (h : OnAir es d s)
    (r : R) :
    (d.readers r).read = [] ∨
      exists dropped cached later rest,
        airing (messages es) = dropped ++ (cached ++ (later ++ rest)) ∧
          (d.readers r).read = (cached ++ later).map Prod.snd ∧
            (dropped = [] ∨
              (exists p ps, cached = p :: ps ∧ p.1.IsKeyframe) ∨
                (cached.length = PacketDispatcher.kMaxPacketCacheSize ∧
                  forall p, p ∈ cached -> ¬ p.1.IsKeyframe)) := by
  rcases h.read_split r with ⟨hread, _⟩ |
    ⟨dropped, cached, later, rest, hair, _, hread, hbegins⟩
  · exact Or.inl hread
  · exact Or.inr ⟨dropped, cached, later, rest, hair, hread, hbegins⟩

/-!
## A source that can be decoded
-/

/-- The packet whose `distribute` is about to begin is the latest message. -/
theorem OnAir.pending_last {es : List (RelayEvent R)}
    {d : PacketDispatcher PacketPtr R} {s : Relay W R} {ptr : PacketPtr}
    {isIdr : Bool} (h : OnAir es d s) (hpending : s.pending = some (ptr, isIdr)) :
    (messages es).length = ptr + 1 := by
  have horder := h.order
  rw [hpending] at horder
  have hlast := congrArg List.getLast? horder
  rw [Option.toList_some, List.getLast?_concat, List.getLast?_map] at hlast
  rcases Option.map_eq_some_iff.mp hlast.symm with ⟨p, hp, hflagged⟩
  have hsuffix : airing (messages es) <:+ (messages es).zipIdx :=
    List.dropWhile_suffix _
  rcases hsuffix with ⟨leading, hleading⟩
  have hall : (messages es).zipIdx.getLast? = some p := by
    rw [← hleading, List.getLast?_append, hp]
    rfl
  rw [List.getLast?_eq_getElem?, List.length_zipIdx, List.getElem?_zipIdx] at hall
  rcases Option.map_eq_some_iff.mp hall with ⟨pkt, hpkt, hpair⟩
  have hlt := (List.getElem?_eq_some_iff.mp hpkt).1
  have hptr : ptr = p.2 := (congrArg Prod.fst hflagged).symm
  rw [hptr, ← hpair]
  simp only
  omega

theorem dispatched_pending {s s' : Relay W R} {ptr : PacketPtr} {isIdr : Bool}
    (h : s.fanout (.dispatchOld ptr isIdr) = some s') :
    s.pending = some (ptr, isIdr) := by
  rcases fanout_ok h with ⟨s₁, _, _, hprepare, _⟩
  exact (prepare_ok hprepare).dispatched ptr isIdr rfl

/-- A video config frame among the messages before a position. -/
def ConfiguredBefore (msgs : List RtmpPacket) (ptr : PacketPtr) : Prop :=
  exists (i : Nat) (config : RtmpPacket), i < ptr ∧ msgs[i]? = some config ∧
    config.msgTypeId = msgVideo ∧ config.IsConfig

theorem configuredBefore_append {msgs : List RtmpPacket} {ptr : PacketPtr}
    (hptr : ptr < msgs.length) (more : List RtmpPacket) :
    ConfiguredBefore (msgs ++ more) ptr <-> ConfiguredBefore msgs ptr := by
  unfold ConfiguredBefore
  constructor
  · rintro ⟨i, config, hi, hconfig, hrest⟩
    rw [List.getElem?_append_left (Nat.lt_trans hi hptr)] at hconfig
    exact ⟨i, config, hi, hconfig, hrest⟩
  · rintro ⟨i, config, hi, hconfig, hrest⟩
    refine ⟨i, config, hi, ?_, hrest⟩
    rw [List.getElem?_append_left (Nat.lt_trans hi hptr)]
    exact hconfig

/-- When the dispatching of a packet begins, the map of config frames holds one
for video if there has been one before the packet. -/
theorem OnAir.configured {es : List (RelayEvent R)}
    {d : PacketDispatcher PacketPtr R} {s : Relay W R} {ptr : PacketPtr}
    {isIdr : Bool} {pkt : RtmpPacket} (h : OnAir es d s)
    (hpending : s.pending = some (ptr, isIdr))
    (hpkt : (messages es)[ptr]? = some pkt) (hcoded : ¬ pkt.IsConfig) :
    (exists config, (msgVideo, config) ∈ s.ingest.source.configFrameMap) <->
      ConfiguredBefore (messages es) ptr := by
  have hlength := h.pending_last hpending
  simp only [h.configFrames.mem_iff]
  rw [exists_latestConfig]
  constructor
  · rintro ⟨i, config, hconfig, htype, hisConfig⟩
    have hlt := (List.getElem?_eq_some_iff.mp hconfig).1
    have hne : i ≠ ptr := by
      intro heq
      rw [heq] at hconfig
      cases hpkt.symm.trans hconfig
      exact hcoded hisConfig
    exact ⟨i, config, by omega, hconfig, htype, hisConfig⟩
  · rintro ⟨i, config, _, hconfig, htype, hisConfig⟩
    exact ⟨i, config, hconfig, htype, hisConfig⟩

theorem OnAir.pending_registered {es : List (RelayEvent R)}
    {d : PacketDispatcher PacketPtr R} {s : Relay W R}
    {p : PacketPtr × Bool} (h : OnAir es d s) (hpending : s.pending = some p) :
    s.ingest.source.isRegistered = true := by
  rw [← Bool.not_eq_false]
  intro hfalse
  have horder := h.order
  rw [h.registered.mp hfalse, hpending] at horder
  simp at horder

/-- Whenever the dispatching of a coded AVC packet begins, the source is
registered and its map of config frames holds one for video. -/
def VisibleDecodable (regist : W -> Except String W)
    (h264DecSeqParameterSet : Bytes -> Bool) (ingest : Ingest W R)
    (es : List (RelayEvent R)) : Prop :=
  forall front ptr isIdr back t pkt,
    es = front ++ .fanout (.dispatchOld ptr isIdr) :: back ->
      run (Relay.step regist h264DecSeqParameterSet) (Relay.start ingest) front =
          some t ->
        (messages es)[ptr]? = some pkt -> pkt.CodedAvc ->
          t.ingest.source.isRegistered = true ∧
            exists config, (msgVideo, config) ∈ t.ingest.source.configFrameMap

omit [DecidableEq R] in
/-- Every coded AVC packet that is dispatched comes behind a video config frame
of the publisher. -/
def ConfiguredThroughout (es : List (RelayEvent R)) : Prop :=
  forall front ptr isIdr back pkt,
    es = front ++ .fanout (.dispatchOld ptr isIdr) :: back ->
      (messages es)[ptr]? = some pkt -> pkt.CodedAvc ->
        ConfiguredBefore (messages es) ptr

/-- What a viewer can see can be decoded exactly when the publisher sends a
video config frame before its first picture.  The packets of a run are those that
are accepted: one that throws is the last, for it ends the publisher's session. -/
theorem visible_decodable_iff {regist : W -> Except String W}
    {h264DecSeqParameterSet : Bytes -> Bool} {metaData : Option MetaDataPtr}
    {maps : MetaDataPtr -> Option Metadata} {registry : W}
    {ingest : Ingest W R} {u : PUnit} {es : List (RelayEvent R)}
    {s : Relay W R}
    (hinit : initTracks metaData { registry := registry, maps := maps } =
      .ok u ingest)
    (h : run (Relay.step regist h264DecSeqParameterSet) (Relay.start ingest) es =
      some s) :
    VisibleDecodable regist h264DecSeqParameterSet ingest es <->
      ConfiguredThroughout es := by
  have hstep : forall {front ptr isIdr back t pkt},
      es = front ++ .fanout (.dispatchOld ptr isIdr) :: back ->
        run (Relay.step regist h264DecSeqParameterSet) (Relay.start ingest)
            front = some t ->
          (messages es)[ptr]? = some pkt -> pkt.CodedAvc ->
            t.ingest.source.isRegistered = true ∧
              ((exists config,
                (msgVideo, config) ∈ t.ingest.source.configFrameMap) <->
                  ConfiguredBefore (messages es) ptr) := by
    intro front ptr isIdr back t pkt hes ht hpkt hcoded
    rcases run_onAir hinit ht with ⟨d, hair⟩
    rw [hes] at h
    rcases run_append.mp h with ⟨t', ht', hrest⟩
    cases ht.symm.trans ht'
    rcases run_cons.mp hrest with ⟨t₁, hdispatch, _⟩
    have hpending := dispatched_pending hdispatch
    have hptr : ptr < (messages front).length := by
      rw [hair.pending_last hpending]
      exact Nat.lt_succ_self ptr
    rw [hes, messages_append] at hpkt ⊢
    rw [List.getElem?_append_left hptr] at hpkt
    rw [configuredBefore_append hptr]
    exact ⟨hair.pending_registered hpending,
      hair.configured hpending hpkt hcoded.1.2⟩
  constructor
  · intro hheld front ptr isIdr back pkt hes hpkt hcoded
    have hrun := h
    rw [hes] at hrun
    rcases run_append.mp hrun with ⟨t, ht, _⟩
    exact (hstep hes ht hpkt hcoded).2.mp
      (hheld front ptr isIdr back t pkt hes ht hpkt hcoded).2
  · intro hbefore front ptr isIdr back t pkt hes ht hpkt hcoded
    rcases hstep hes ht hpkt hcoded with ⟨hregistered, hconfigured⟩
    exact ⟨hregistered, hconfigured.mpr
      (hbefore front ptr isIdr back pkt hes hpkt hcoded)⟩

end Runs

/-- The source of a publisher that sends AAC and H.264. -/
def avIngest : Ingest Unit Nat :=
  announcedIngest avMetadata
    { audioRtmpDecoder := some { track := some {} }
      videoRtmpDecoder := some { track := some {} } }

theorem avIngest_init :
    initTracks (some 0) ({ registry := (), maps := fun _ => some avMetadata } :
      Ingest Unit Nat) = .ok ⟨⟩ avIngest :=
  initTracks_of_ok rfl initTracksWithMetadata_announced.2

/-- A config frame without parameter sets, a key frame and an inter frame. -/
def avcConfig (timeStamp : Nat) : RtmpPacket :=
  videoPacket timeStamp
    [0x17, 0, 0, 0, 0, 1, 0x64, 0, 0x1F, 0xFF, 0xE1, 0, 0, 1, 0, 0]

def avcKeyframe (timeStamp : Nat) : RtmpPacket :=
  videoPacket timeStamp [0x17, 1, 0, 0, 0, 0, 0, 0, 1, 0x65]

def avcInterframe (timeStamp : Nat) : RtmpPacket :=
  videoPacket timeStamp [0x27, 1, 0, 0, 0, 0, 0, 0, 1, 0x41]

def configuredEvents : List (RelayEvent Nat) :=
  .message (avcConfig 0) :: aired 1 true (avcKeyframe 0)

theorem visible_decodable_iff_configured :
    VisibleDecodable (fun u => .ok u) (fun _ => true) avIngest
        configuredEvents <->
      ConfiguredThroughout configuredEvents := by
  have hends : (run (Relay.step (fun u => .ok u) fun _ => true)
      (Relay.start avIngest) configuredEvents).isSome = true := by
    decide +kernel
  rcases Option.isSome_iff_exists.mp hends with ⟨s, hrun⟩
  exact visible_decodable_iff avIngest_init hrun

/-- A publisher that begins with a picture. -/
theorem not_visible_decodable :
    initTracks (some 0) ({ registry := (), maps := fun _ => some avMetadata } :
        Ingest Unit Nat) = .ok ⟨⟩ avIngest ∧
      (run (Relay.step (fun u => .ok u) fun _ => true) (Relay.start avIngest)
          (aired 0 true (avcKeyframe 0))).isSome = true ∧
        ¬ VisibleDecodable (fun u => .ok u) (fun _ => true) avIngest
          (aired 0 true (avcKeyframe 0)) := by
  refine ⟨avIngest_init, by decide +kernel, ?_⟩
  intro hdecodable
  have hends : (run (Relay.step (fun u => .ok u) fun _ => true)
      (Relay.start avIngest) [.message (avcKeyframe 0)]).any (fun s =>
        s.ingest.source.configFrameMap = []) = true := by
    decide +kernel
  rcases (Option.any_eq_true _ _).mp hends with ⟨t, ht, hmap⟩
  rcases hdecodable [.message (avcKeyframe 0)] 0 true _ t (avcKeyframe 0) rfl ht
    rfl (by decide) with ⟨_, config, hconfig⟩
  rw [of_decide_eq_true hmap] at hconfig
  cases hconfig

end Flv
end Streaming
