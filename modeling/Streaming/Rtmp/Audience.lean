import Streaming.Media.Membership
import Streaming.Rtmp.Feed
import Streaming.Rtmp.Publish

/-!
# Data messages and the audience

Every data message of the publisher ends in `init_tracks`, which makes a new
dispatcher each time.  The one before is destroyed with the last pointer to it,
and its destructor detaches the readers.
-/

namespace Streaming
namespace Rtmp

open Foundation Media RtmpMediaSource Util

/-!
## The source and its dispatchers
-/

/-- A dispatcher that the source has let go of. -/
structure Former (R : Type) where
  dispatcher : PacketDispatcher PacketPtr R
  /-- The pointers to it that handlers of clients hold. -/
  held : Nat := 0

structure Audience (W R : Type) extends Feed W R where
  /-- The pointers to the dispatcher besides that of the source. -/
  held : Nat := 0
  former : List (Former R) := []

inductive FormerEvent (R : Type) where
  | regist (r : R)
  | leave (r : R)
  | letGo

inductive AudienceEvent (R : Type) where
  /-- `process_av_packet`, up to the call of `distribute`. -/
  | message (pkt : RtmpPacket)
  /-- `on_process_metadata`, with the entries of the object that was decoded;
  other data messages have none. -/
  | data (entries : Metadata)
  /-- A section of `distribute`, or a call of a reader of this dispatcher. -/
  | fanout (e : FanoutEvent PacketPtr R)
  | getDispatcher
  | letGo
  /-- What the handlers of clients do with a dispatcher of before. -/
  | former (i : Nat) (e : FormerEvent R)

section Steps

variable {W R : Type} [DecidableEq R]

namespace Former

/-- The destructor, once no pointer is left. -/
def released (f : Former R) : Former R :=
  if f.held = 0 then { f with dispatcher := f.dispatcher.detachAllReaders }
  else f

def step (f : Former R) : FormerEvent R -> Option (Former R)
  | .regist r =>
      if f.held = 0 then none
      else some { f with dispatcher := f.dispatcher.registReader r }
  | .leave r => some { f with dispatcher := f.dispatcher.leave r }
  | .letGo =>
      if f.held = 0 then none else some { f with held := f.held - 1 }.released

end Former

namespace Audience

def receive (regist : W -> Except String W)
    (h264DecSeqParameterSet : Bytes -> Bool) (s : Audience W R)
    (pkt : RtmpPacket) : Option (Audience W R) :=
  (s.toFeed.receive regist h264DecSeqParameterSet pkt).map fun feed =>
    { s with toFeed := feed }

/-- A data message, unless it causes an exception.  There is one map, which is
that of the connection. -/
def processMetadata (s : Audience W R) (entries : Metadata) :
    Option (Audience W R) :=
  let metaData := entries.foldl Server.emplace ((s.ingest.maps 0).getD [])
  match s.phase, s.pending with
  | .idle, none =>
      match initTracks (some 0)
          { s.ingest with maps := fun _ => some metaData } with
      | .ok _ ingest =>
          some { s with
            ingest := ingest
            held := 0
            former := (s.ingest.source.dispatcher.map fun d =>
              Former.released ⟨d, s.held⟩).toList ++ s.former }
      | .error _ _ => none
  | _, _ => none

/-- What has to be so when an operation of the dispatcher is called. -/
def prepare (s : Audience W R) : FanoutEvent PacketPtr R -> Option (Audience W R)
  | .dispatchOld ptr isIdr =>
      if s.pending = some (ptr, isIdr) then some { s with pending := none }
      else none
  | .regist _ => if s.held = 0 then none else some s
  | _ => some s

def fanout (s : Audience W R) (e : FanoutEvent PacketPtr R) :
    Option (Audience W R) := do
  let s <- s.prepare e
  let d <- s.ingest.source.dispatcher
  let f <- Fanout.step ⟨d, s.phase⟩ e
  return { s with
    ingest := { s.ingest with source := { s.ingest.source with
      dispatcher := some f.dispatcher } }
    phase := f.phase }

def step (regist : W -> Except String W)
    (h264DecSeqParameterSet : Bytes -> Bool) (s : Audience W R) :
    AudienceEvent R -> Option (Audience W R)
  | .message pkt => s.receive regist h264DecSeqParameterSet pkt
  | .data entries => s.processMetadata entries
  | .fanout e => s.fanout e
  | .getDispatcher =>
      if s.ingest.source.dispatcher.isSome then some { s with held := s.held + 1 }
      else none
  | .letGo => if s.held = 0 then none else some { s with held := s.held - 1 }
  | .former i e => do
      let f <- s.former[i]?
      let f' <- f.step e
      return { s with former := s.former.set i f' }

def start (ingest : Ingest W R) : Audience W R where
  ingest := ingest

end Audience

end Steps

/-!
## Readers that stay
-/

section Staying

variable {W R : Type} [DecidableEq R]

def AudienceEvent.fanoutEvent : AudienceEvent R -> Option (FanoutEvent PacketPtr R)
  | fanout e => some e
  | _ => none

/-- The packets whose distribution begins. -/
def packetsGiven (es : List (AudienceEvent R)) : List PacketPtr :=
  (distributed (es.filterMap AudienceEvent.fanoutEvent)).map Prod.fst

namespace Audience

/-- A reader that the source's dispatcher holds, and that knows it. -/
def RegisteredWith (r : R) (s : Audience W R) : Prop :=
  exists d, s.ingest.source.dispatcher = some d ∧ d.Holds r ∧
    (d.readers r).isRegistered = true

/-- From the one state to the other a reader has stayed registered and was not
detached.  Between two packets it has been given all that there were. -/
def Stays (r : R) (es : List (AudienceEvent R)) (s t : Audience W R) : Prop :=
  exists d d' more,
    s.ingest.source.dispatcher = some d ∧ t.ingest.source.dispatcher = some d' ∧
      d'.Holds r ∧ (d'.readers r).isRegistered = true ∧
        d'.readers r =
          { d.readers r with read := (d.readers r).read ++ more } ∧
            (t.phase = .idle -> (packetsGiven es).Sublist more)

/-- Every registered reader stays until it leaves. -/
def ReadersStay (regist : W -> Except String W)
    (h264DecSeqParameterSet : Bytes -> Bool) (s : Audience W R)
    (es : List (AudienceEvent R)) : Prop :=
  forall r front mid back t u, es = front ++ (mid ++ back) ->
    run (step regist h264DecSeqParameterSet) s front = some t ->
      run (step regist h264DecSeqParameterSet) t mid = some u ->
        RegisteredWith r t -> .fanout (.leave r) ∉ mid -> Stays r mid t u

/-- A data message that finds no reader registered. -/
def NoneThere (s : Audience W R) : AudienceEvent R -> Prop
  | .data _ => forall r, ¬ RegisteredWith r s
  | _ => True

end Audience

/-!
## One dispatcher
-/

/-- The packet that is on its way to the new clients, and those before it. -/
def owed (s : Fanout PacketPtr R) : List PacketPtr :=
  match s.phase with
  | .idle => []
  | .dispatched pkt _ => [pkt]
  | .cached => s.dispatcher.packetList

/-- A reader since the moment when its object was `c` and the packets given out
from then on. -/
structure Kept (r : R) (c : ClientReader PacketPtr) (given : List PacketPtr)
    (s : Fanout PacketPtr R) : Prop where
  held : s.dispatcher.Holds r
  registered : (s.dispatcher.readers r).isRegistered = true
  reader_eq : exists more,
    s.dispatcher.readers r = { c with read := c.read ++ more } ∧
      given.Sublist (if r ∈ s.dispatcher.oldClients then more else owed s)

theorem step_registered {r : R} {s s' : Fanout PacketPtr R}
    {e : FanoutEvent PacketPtr R}
    (hr : (s.dispatcher.readers r).isRegistered = true)
    (h : s.step e = some s') :
    s'.dispatcher.readers r =
      { s.dispatcher.readers r with
        read := (s.dispatcher.readers r).read ++ s.hands r e } := by
  rcases s with ⟨d, phase⟩
  cases e with
  | dispatchOld pkt isIdr =>
      cases phase <;> cases h
      simp only [PacketDispatcher.dispatchOld, onEach, Fanout.hands]
      split
      · rfl
      · rw [List.append_nil]
  | cachePacket =>
      cases phase <;> cases h
      simp only [PacketDispatcher.cachePacket, Fanout.hands, List.append_nil]
  | mergeClients =>
      cases phase <;> cases h
      simp only [PacketDispatcher.mergeClients_readers, Fanout.hands]
      split
      · rfl
      · rw [List.append_nil]
  | regist other =>
      cases h
      simp only [PacketDispatcher.registReader, Fanout.hands, List.append_nil]
      by_cases hother : r = other
      · subst hother
        rw [Function.update_self, ClientReader.setRegistered, ← hr]
      · rw [Function.update_of_ne hother]
  | leave other =>
      cases h
      simp only [(d.leave_frame other).1, Fanout.hands, List.append_nil]

theorem step_holds {r : R} {s s' : Fanout PacketPtr R}
    {e : FanoutEvent PacketPtr R} (hr : s.dispatcher.Holds r)
    (he : e ≠ .leave r) (h : s.step e = some s') : s'.dispatcher.Holds r := by
  by_cases hregist : e = .regist r
  · subst hregist
    cases h
    exact Or.inl (Finset.mem_insert_self _ _)
  · rcases step_reader hregist h with ⟨_, hnew, hold, _⟩
    rcases hr with hr | hr
    · by_cases hmerge : e = .mergeClients
      · exact Or.inr (hold.mpr (Or.inr ⟨hr, hmerge⟩))
      · exact Or.inl (hnew hr hmerge he)
    · exact Or.inr (hold.mpr (Or.inl hr))

/-- What the new clients are owed is handed to them in the end. -/
theorem step_owed {r : R} {given more : List PacketPtr}
    {s s' : Fanout PacketPtr R} {e : FanoutEvent PacketPtr R}
    (hr : s.dispatcher.Holds r)
    (hgiven : given.Sublist
      (if r ∈ s.dispatcher.oldClients then more else owed s))
    (h : s.step e = some s') :
    (given ++ (distributed [e]).map Prod.fst).Sublist
      (if r ∈ s'.dispatcher.oldClients then more ++ s.hands r e
        else owed s') := by
  rcases s with ⟨d, phase⟩
  cases e with
  | dispatchOld pkt isIdr =>
      cases phase <;> cases h
      show (given ++ [pkt]).Sublist (if r ∈ d.oldClients then
        more ++ (if r ∈ d.oldClients then [pkt] else []) else [pkt])
      by_cases hold : r ∈ d.oldClients
      · simp only [if_pos hold] at hgiven ⊢
        exact hgiven.append_right [pkt]
      · simp only [if_neg hold] at hgiven ⊢
        exact hgiven.append_right [pkt]
  | cachePacket =>
      cases phase with
      | idle => cases h
      | cached => cases h
      | dispatched pkt isIdr =>
          cases h
          show (given ++ []).Sublist (if r ∈ d.oldClients then more ++ []
            else _ ++ [pkt])
          rw [List.append_nil, List.append_nil]
          by_cases hold : r ∈ d.oldClients
          · simp only [if_pos hold] at hgiven ⊢
            exact hgiven
          · simp only [if_neg hold] at hgiven ⊢
            exact hgiven.trans (List.sublist_append_right _ _)
  | mergeClients =>
      cases phase <;> cases h
      show (given ++ []).Sublist _
      simp only [List.append_nil, PacketDispatcher.mergeClients_oldClients,
        Finset.mem_union, Fanout.hands]
      rw [if_pos hr.symm]
      by_cases hold : r ∈ d.oldClients
      · rw [if_pos hold] at hgiven
        exact hgiven.trans (List.sublist_append_left _ _)
      · rw [if_neg hold] at hgiven
        rw [if_pos (hr.resolve_right hold)]
        exact hgiven.trans (List.sublist_append_right _ _)
  | regist other =>
      cases h
      show (given ++ []).Sublist (if r ∈ d.oldClients then more ++ [] else _)
      rw [List.append_nil, List.append_nil]
      exact hgiven
  | leave other =>
      cases h
      show (given ++ []).Sublist (if r ∈ (d.leave other).oldClients then
        more ++ [] else owed ⟨d.leave other, phase⟩)
      rcases d.leave_frame other with ⟨_, hold, hpackets, _⟩
      rw [List.append_nil, List.append_nil, hold]
      cases phase with
      | cached =>
          simp only [owed, hpackets]
          exact hgiven
      | _ => exact hgiven

theorem step_kept {r : R} {c : ClientReader PacketPtr}
    {given : List PacketPtr} {s s' : Fanout PacketPtr R}
    {e : FanoutEvent PacketPtr R} (hs : Kept r c given s) (he : e ≠ .leave r)
    (h : s.step e = some s') :
    Kept r c (given ++ (distributed [e]).map Prod.fst) s' := by
  rcases hs with ⟨hheld, hregistered, more, hreader, hgiven⟩
  have hstep := step_registered hregistered h
  constructor
  · exact step_holds hheld he h
  · rw [hstep]
    exact hregistered
  · refine ⟨more ++ s.hands r e, ?_, step_owed hheld hgiven h⟩
    rw [hstep, hreader, List.append_assoc]

/-!
## A reader among data messages
-/

omit [DecidableEq R] in
theorem packetsGiven_append (es fs : List (AudienceEvent R)) :
    packetsGiven (es ++ fs) = packetsGiven es ++ packetsGiven fs := by
  unfold packetsGiven
  rw [List.filterMap_append, distributed_append, List.map_append]

namespace Audience

/-- `Kept`, for the dispatcher that the source has. -/
def KeptBySource (r : R) (c : ClientReader PacketPtr) (given : List PacketPtr)
    (s : Audience W R) : Prop :=
  exists d, s.ingest.source.dispatcher = some d ∧
    Kept r c given ⟨d, s.phase⟩

theorem KeptBySource.registeredWith {r : R} {c : ClientReader PacketPtr}
    {given : List PacketPtr} {s : Audience W R}
    (h : KeptBySource r c given s) : RegisteredWith r s := by
  rcases h with ⟨d, hd, hkept⟩
  exact ⟨d, hd, hkept.held, hkept.registered⟩

omit [DecidableEq R] in
theorem receive_dispatcher {regist : W -> Except String W}
    {h264DecSeqParameterSet : Bytes -> Bool} {s s' : Audience W R}
    {pkt : RtmpPacket}
    (h : s.receive regist h264DecSeqParameterSet pkt = some s') :
    s'.ingest.source.dispatcher = s.ingest.source.dispatcher ∧
      s'.phase = s.phase := by
  rcases Option.map_eq_some_iff.mp h with ⟨feed, hfeed, hs'⟩
  rcases Feed.receive_ok hfeed with ⟨_, _, _, _, _, hbefore, haccepted, _, heq⟩
  subst hs' heq hbefore
  exact ⟨haccepted.dispatcher_eq, rfl⟩

theorem fanout_step {s s' : Audience W R} {e : FanoutEvent PacketPtr R}
    (h : s.fanout e = some s') :
    exists d f, s.ingest.source.dispatcher = some d ∧
      Fanout.step ⟨d, s.phase⟩ e = some f ∧
        s'.ingest.source.dispatcher = some f.dispatcher ∧
          s'.phase = f.phase := by
  unfold fanout at h
  rcases Option.bind_eq_some_iff.mp h with ⟨t, hprepare, hrest⟩
  have ht : t.ingest = s.ingest ∧ t.phase = s.phase := by
    unfold prepare at hprepare
    split at hprepare
    · split at hprepare <;> cases hprepare
      exact ⟨rfl, rfl⟩
    · split at hprepare <;> cases hprepare
      exact ⟨rfl, rfl⟩
    · cases hprepare
      exact ⟨rfl, rfl⟩
  rw [ht.1, ht.2] at hrest
  rcases Option.bind_eq_some_iff.mp hrest with ⟨d, hd, hrest⟩
  rcases Option.bind_eq_some_iff.mp hrest with ⟨f, hf, hreturn⟩
  cases hreturn
  exact ⟨d, f, hd, hf, rfl, rfl⟩

/-- The data message leaves no reader with the source's dispatcher. -/
theorem processMetadata_none {s s' : Audience W R} {entries : Metadata}
    (h : s.processMetadata entries = some s') (r : R) :
    ¬ RegisteredWith r s' := by
  simp only [processMetadata] at h
  split at h
  · split at h
    · rename_i hinit
      cases h
      rintro ⟨d, hd, hheld, _⟩
      rcases initTracks_ok hinit with ⟨ptr, metadata, demuxer, _, hingest⟩
      subst hingest
      cases hd
      rcases hheld with hheld | hheld <;> exact Finset.notMem_empty r hheld
    · cases h
  · cases h

theorem step_keptBySource {regist : W -> Except String W}
    {h264DecSeqParameterSet : Bytes -> Bool} {r : R}
    {c : ClientReader PacketPtr} {given : List PacketPtr} {s s' : Audience W R}
    {e : AudienceEvent R} (hs : KeptBySource r c given s)
    (hnone : NoneThere s e) (hleave : e ≠ .fanout (.leave r))
    (h : s.step regist h264DecSeqParameterSet e = some s') :
    KeptBySource r c (given ++ packetsGiven [e]) s' := by
  have hother : s'.ingest.source.dispatcher = s.ingest.source.dispatcher ->
      s'.phase = s.phase -> packetsGiven [e] = [] ->
        KeptBySource r c (given ++ packetsGiven [e]) s' := by
    intro hdispatcher hphase hgiven
    unfold KeptBySource
    rw [hdispatcher, hphase, hgiven, List.append_nil]
    exact hs
  cases e with
  | message pkt =>
      rcases receive_dispatcher h with ⟨hdispatcher, hphase⟩
      exact hother hdispatcher hphase rfl
  | data entries => exact absurd hs.registeredWith (hnone r)
  | fanout e =>
      rcases hs with ⟨d, hd, hkept⟩
      rcases fanout_step h with ⟨d', f, hd', hf, hdispatcher, hphase⟩
      cases hd.symm.trans hd'
      have hstays := step_kept hkept (fun he => hleave (by rw [he])) hf
      refine ⟨f.dispatcher, hdispatcher, ?_⟩
      rw [hphase]
      exact hstays
  | getDispatcher =>
      simp only [step] at h
      split at h <;> cases h
      exact hother rfl rfl rfl
  | letGo =>
      simp only [step] at h
      split at h <;> cases h
      exact hother rfl rfl rfl
  | former i e =>
      rcases Option.bind_eq_some_iff.mp h with ⟨f, _, hrest⟩
      rcases Option.bind_eq_some_iff.mp hrest with ⟨f', _, hreturn⟩
      cases hreturn
      exact hother rfl rfl rfl

theorem run_keptBySource {regist : W -> Except String W}
    {h264DecSeqParameterSet : Bytes -> Bool} {r : R}
    {c : ClientReader PacketPtr} {given : List PacketPtr} {s s' : Audience W R}
    {es : List (AudienceEvent R)} (hs : KeptBySource r c given s)
    (hnone : Meets NoneThere (step regist h264DecSeqParameterSet) s es)
    (hleave : .fanout (.leave r) ∉ es)
    (h : run (step regist h264DecSeqParameterSet) s es = some s') :
    KeptBySource r c (given ++ packetsGiven es) s' := by
  induction es generalizing s given with
  | nil =>
      cases h
      rw [show packetsGiven ([] : List (AudienceEvent R)) = [] from rfl,
        List.append_nil]
      exact hs
  | cons e es ih =>
      rcases run_cons.mp h with ⟨t, he, hes⟩
      have hstep := step_keptBySource hs hnone.head
        (fun heq => hleave (by rw [heq]; exact List.mem_cons_self)) he
      have htail := ih hstep (hnone.tail he)
        (fun hmem => hleave (List.mem_cons_of_mem e hmem)) hes
      rw [List.append_assoc, ← packetsGiven_append] at htail
      exact htail

/--
Whatever audio, video and data messages the publisher sends, and whatever the
handlers of the clients do meanwhile: every registered reader stays, and is
given all packets, until it leaves, exactly when no data message finds a reader
registered.
-/
theorem readersStay_iff {regist : W -> Except String W}
    {h264DecSeqParameterSet : Bytes -> Bool} {s s' : Audience W R}
    {es : List (AudienceEvent R)}
    (h : run (step regist h264DecSeqParameterSet) s es = some s') :
    ReadersStay regist h264DecSeqParameterSet s es <->
      Meets NoneThere (step regist h264DecSeqParameterSet) s es := by
  constructor
  · intro hstay front e back t heq hfront
    rw [heq] at h
    rcases run_append.mp h with ⟨t', ht', hrest⟩
    cases hfront.symm.trans ht'
    rcases run_cons.mp hrest with ⟨u, hu, _⟩
    cases e with
    | data entries =>
        intro r hr
        rcases hstay r front [.data entries] back t u heq hfront
            (run_cons.mpr ⟨u, hu, rfl⟩) hr (by simp) with
          ⟨_, d, _, _, hd, hheld, hregistered, _⟩
        exact processMetadata_none hu r ⟨d, hd, hheld, hregistered⟩
    | _ => exact True.intro
  · intro hnone r front mid back t u heq hfront hmid hr hleave
    rw [heq] at hnone
    rcases hr with ⟨d, hd, hheld, hregistered⟩
    have hstart : KeptBySource r (d.readers r) [] t := by
      refine ⟨d, hd, hheld, hregistered, [], ?_, List.nil_sublist _⟩
      rw [List.append_nil]
    rcases run_keptBySource hstart (hnone.behind hfront).front hleave hmid with
      ⟨d', hd', hheld', hregistered', more, hreader, hgiven⟩
    refine ⟨d, d', more, hd, hd', hheld', hregistered', hreader, ?_⟩
    intro hidle
    rw [List.nil_append] at hgiven
    split at hgiven
    · exact hgiven
    · rw [owed, hidle] at hgiven
      rw [List.sublist_nil.mp hgiven]
      exact List.nil_sublist more

end Audience

end Staying

/-- A publisher announces AAC and sends its config frame and a packet, and a
reader registers. -/
def joinedEvents : List (AudienceEvent Nat) :=
  [.data audioMetadata, .message (audioPacket 0 [0xAF, 0, 0x12, 0x10]),
    .message (audioPacket 5 [0xAF, 1, 0x21]), .fanout (.dispatchOld 1 false),
    .fanout .cachePacket, .fanout .mergeClients,
    .getDispatcher, .fanout (.regist 7), .letGo]

theorem readersStay_iff_joined :
    Audience.ReadersStay (fun u => .ok u) (fun _ => true)
        (.start { registry := () }) joinedEvents <->
      Meets Audience.NoneThere (Audience.step (fun u => .ok u) fun _ => true)
        (.start { registry := () }) joinedEvents := by
  have hends : (run (Audience.step (fun u => .ok u) fun _ => true)
      (.start { registry := () }) joinedEvents).isSome = true := by
    decide +kernel
  rcases Option.isSome_iff_exists.mp hends with ⟨s, hrun⟩
  exact Audience.readersStay_iff hrun

/-- The publisher sends another data message, and the reader is detached. -/
theorem not_readersStay :
    exists s s' : Audience Unit Nat,
      run (Audience.step (fun u => .ok u) fun _ => true)
          (.start { registry := () }) joinedEvents = some s ∧
        s.ingest.source.isRegistered = true ∧ s.RegisteredWith 7 ∧
          Audience.step (fun u => .ok u) (fun _ => true) s (.data []) =
            some s' ∧
          s'.former.map (fun f => (f.dispatcher.readers 7).detached) =
            [[false]] ∧
          ¬ Audience.ReadersStay (fun u => .ok u) (fun _ => true)
            (.start { registry := () }) (joinedEvents ++ [.data []]) := by
  have hends : (run (Audience.step (fun u => .ok u) fun _ => true)
      (.start { registry := () }) joinedEvents).any (fun s =>
        s.ingest.source.isRegistered &&
          (s.ingest.source.dispatcher.any fun d =>
            decide (7 ∈ d.newClients) && (d.readers 7).isRegistered) &&
          (Audience.step (fun u => .ok u) (fun _ => true) s (.data [])).any
            fun s' =>
              s'.former.map (fun f => (f.dispatcher.readers 7).detached) =
                [[false]]) = true := by
    decide +kernel
  rcases (Option.any_eq_true _ _).mp hends with ⟨s, hrun, hs⟩
  simp only [Bool.and_eq_true] at hs
  rcases hs with ⟨⟨hsource, hreader⟩, hdata⟩
  rcases (Option.any_eq_true _ _).mp hreader with ⟨d, hd, hmem⟩
  simp only [Bool.and_eq_true] at hmem
  rcases (Option.any_eq_true _ _).mp hdata with ⟨s', hs', hformer⟩
  have hregistered : s.RegisteredWith 7 :=
    ⟨d, hd, Or.inl (of_decide_eq_true hmem.1), hmem.2⟩
  refine ⟨s, s', hrun, hsource, hregistered, hs', of_decide_eq_true hformer, ?_⟩
  intro hstay
  rcases hstay 7 joinedEvents [.data []] [] s s' rfl hrun
      (run_cons.mpr ⟨s', hs', rfl⟩) hregistered (by simp) with
    ⟨_, d', _, _, hd', hheld, hregistered', _⟩
  exact Audience.processMetadata_none hs' 7 ⟨d', hd', hheld, hregistered'⟩

end Rtmp
end Streaming
