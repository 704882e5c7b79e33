import Streaming.Rtmp.Ownership
import Streaming.Rtmp.SourcePointers

/-!
# What a registered source has

A source gets its metadata and its dispatcher before it is registered, and it
never loses them.  The config frames in its map can all be sent.
-/

namespace Streaming
namespace Rtmp

open Foundation Media RtmpMediaSource Util

/-!
## One call of a source
-/

/-- `write_flv` takes the packets that the map points to. -/
def FramesSendable (packets : List RtmpPacket)
    (entries : List (Nat × PacketPtr)) : Prop :=
  forall entry, entry ∈ entries ->
    exists pkt, packets[entry.2]? = some pkt ∧ 0 < pkt.buf.unreadLength

theorem RtmpPacket.IsConfig.unread {pkt : RtmpPacket} (h : pkt.IsConfig) :
    0 < pkt.buf.unreadLength := by
  apply Classical.byContradiction
  intro hnone
  have hshort : pkt.buf.unreadLength < 1 := by omega
  have hlong : 2 > pkt.buf.unreadLength := by omega
  unfold RtmpPacket.IsConfig RtmpPacket.isConfigFrame at h
  split at h
  · rename_i hvideo
    have hkey : pkt.isVideoKeyframe = .error "not enough data" := by
      unfold RtmpPacket.isVideoKeyframe
      rw [if_neg (not_not.mpr hvideo), pkt.inspect_peekUint8, if_pos hshort]
      rfl
    rw [hkey] at h
    cases h
  · split at h
    · rw [pkt.inspect_requireLengthOrFail, if_pos hlong] at h
      cases h
    · cases h

section Calls

variable {W R : Type}

/-- The stored packets are those of before, save one, and the source has what it
had. -/
structure Begun (ptr : PacketPtr) (g₀ g : Ingest W R) : Prop where
  elsewhere : forall i, i ≠ ptr -> g.packets[i]? = g₀.packets[i]?
  metaData_eq : g.source.metaData = g₀.source.metaData
  dispatcher_eq :
    g.source.dispatcher.isSome = g₀.source.dispatcher.isSome
  frames : FramesSendable g.packets g.source.configFrameMap

/-- Besides, the map does not point to the packet that is being processed. -/
def Processing (ptr : PacketPtr) (g₀ g : Ingest W R) : Prop :=
  Begun ptr g₀ g ∧
    forall entry, entry ∈ g.source.configFrameMap -> entry.2 ≠ ptr

/-- The packet at a position is being processed. -/
def ProcessingPacket (ptr : PacketPtr) (g₀ : Ingest W R) (pkt : RtmpPacket)
    (g : Ingest W R) : Prop :=
  Processing ptr g₀ g ∧ g.packets[ptr]? = some pkt

theorem Processing.store {ptr : PacketPtr} {g₀ g : Ingest W R}
    (h : Processing ptr g₀ g) (hptr : ptr < g.packets.length)
    (pkt : RtmpPacket) {source : RtmpMediaSource R}
    (hmap : source.configFrameMap = g.source.configFrameMap)
    (hmetaData : source.metaData = g.source.metaData)
    (hdispatcher : source.dispatcher = g.source.dispatcher) :
    ProcessingPacket ptr g₀ pkt
      { g with packets := g.packets.set ptr pkt, source := source } := by
  rcases h with ⟨⟨helsewhere, hmeta, hsome, hframes⟩, hnot⟩
  have hother : forall i, i ≠ ptr ->
      (g.packets.set ptr pkt)[i]? = g.packets[i]? := by
    intro i hi
    exact List.getElem?_set_ne (Ne.symm hi)
  refine ⟨⟨⟨?_, ?_, ?_, ?_⟩, ?_⟩, ?_⟩
  · intro i hi
    exact (hother i hi).trans (helsewhere i hi)
  · exact hmetaData.trans hmeta
  · show source.dispatcher.isSome = _
    rw [hdispatcher]
    exact hsome
  · intro entry hentry
    rw [show source.configFrameMap = _ from hmap] at hentry
    rcases hframes entry hentry with ⟨found, hfound, hunread⟩
    exact ⟨found, (hother entry.2 (hnot entry hentry)).trans hfound, hunread⟩
  · intro entry hentry
    rw [show source.configFrameMap = _ from hmap] at hentry
    exact hnot entry hentry
  · exact List.getElem?_set_self hptr

theorem checkPacket_ensures (ptr : PacketPtr) (g₀ : Ingest W R) :
    Ensures (Processing ptr g₀) (checkPacket ptr) (ProcessingPacket ptr g₀)
      (Begun ptr g₀) := by
  intro g hg
  cases hresult : checkPacket ptr g with
  | ok pkt g' =>
      rcases checkPacket_ok hresult with ⟨hsame, hfound, _⟩
      rw [hsame]
      exact ⟨hg, hfound⟩
  | error what g' =>
      have hsame : g' = g := by
        unfold checkPacket at hresult
        split at hresult
        · cases hresult
          rfl
        · split_ifs at hresult <;> cases hresult <;> rfl
      rw [hsame]
      exact hg.1

theorem demux_ensures (h264DecSeqParameterSet : Bytes -> Bool)
    (ptr : PacketPtr) (g₀ : Ingest W R) (pkt : RtmpPacket) :
    Ensures (ProcessingPacket ptr g₀ pkt)
      (demux h264DecSeqParameterSet ptr pkt) (ProcessingPacket ptr g₀)
      (Begun ptr g₀) := by
  intro g hg
  have hptr := (List.getElem?_eq_some_iff.mp hg.2).1
  unfold demux
  dsimp only
  split
  · rename_i hresult
    split at hresult
    · cases hresult
      exact hg.1.store hptr _ rfl rfl rfl
    · cases hresult
  · rename_i hresult
    split at hresult
    · cases hresult
    · rename_i left demuxer _
      cases hresult
      have hstored : ProcessingPacket ptr g₀ left { g with
          packets := g.packets.set ptr left
          source := { g.source with demuxer := demuxer } } :=
        hg.1.store hptr left rfl rfl rfl
      exact hstored.1.1

theorem updateTrack_ensures (ptr : PacketPtr) (g₀ : Ingest W R)
    (pkt : RtmpPacket) :
    Ensures (ProcessingPacket ptr g₀ pkt) (updateTrack ptr pkt)
      (ProcessingPacket ptr g₀) (Begun ptr g₀) := by
  intro g hg
  have hptr := (List.getElem?_eq_some_iff.mp hg.2).1
  exact hg.1.store hptr pkt.size rfl rfl rfl

/-- A config frame has something to send. -/
theorem noteConfigFrame_ensures (ptr : PacketPtr) (g₀ : Ingest W R)
    (pkt : RtmpPacket) :
    Ensures (ProcessingPacket ptr g₀ pkt) (noteConfigFrame ptr pkt)
      (fun _ => Begun ptr g₀) (Begun ptr g₀) := by
  intro g hg
  cases hresult : noteConfigFrame ptr pkt g with
  | ok isConfig g' =>
      rw [noteConfigFrame_ok hresult]
      rcases hg with ⟨⟨⟨helsewhere, hmeta, hsome, hframes⟩, _⟩, hfound⟩
      refine ⟨helsewhere, hmeta, hsome, ?_⟩
      intro entry hentry
      split at hentry
      · rename_i hconfig
        rcases List.mem_cons.mp hentry with hnew | hold
        · rw [hnew]
          exact ⟨pkt, hfound, hconfig.unread⟩
        · exact hframes entry (List.mem_filter.mp hold).1
      · exact hframes entry hentry
  | error what g' =>
      have hsame : g' = g := by
        change EStateM.bind (test pkt.isConfigFrame) _ g = .error what g'
          at hresult
        unfold EStateM.bind test at hresult
        cases hconfig : pkt.isConfigFrame with
        | ok b =>
            rw [hconfig] at hresult
            cases b <;> cases hresult
        | error e =>
            rw [hconfig] at hresult
            cases hresult
            rfl
      rw [hsame]
      exact hg.1.1

/-- What is left alone behind the config frame. -/
def Settled (g g' : Ingest W R) : Prop :=
  g'.packets = g.packets ∧
    g'.source.configFrameMap = g.source.configFrameMap ∧
      g'.source.metaData = g.source.metaData ∧
        g'.source.dispatcher.isSome = g.source.dispatcher.isSome

instance : Std.Refl (Settled (W := W) (R := R)) :=
  ⟨fun _ => ⟨rfl, rfl, rfl, rfl⟩⟩

instance : IsTrans (Ingest W R) Settled := by
  constructor
  rintro g g' g'' ⟨h₁, h₂, h₃, h₄⟩ ⟨h₁', h₂', h₃', h₄'⟩
  exact ⟨h₁'.trans h₁, h₂'.trans h₂, h₃'.trans h₃, h₄'.trans h₄⟩

theorem Begun.settled {ptr : PacketPtr} {g₀ g g' : Ingest W R}
    (h : Begun ptr g₀ g) (hsettled : Settled g g') : Begun ptr g₀ g' := by
  rcases h with ⟨helsewhere, hmeta, hsome, hframes⟩
  rcases hsettled with ⟨hpackets, hmap, hmeta', hsome'⟩
  constructor
  · rw [hpackets]
    exact helsewhere
  · exact hmeta'.trans hmeta
  · exact hsome'.trans hsome
  · rw [hpackets, hmap]
    exact hframes

theorem test_settled (result : Except String Bool) :
    Leads (Settled (W := W) (R := R)) (test result) := by
  intro g
  unfold test
  cases result with
  | ok b => exact Std.Refl.refl g
  | error what => exact Std.Refl.refl g

theorem registOrReturn_settled (regist : W -> Except String (Option W))
    (pkt : RtmpPacket) (isConfig : Bool) :
    Leads (Settled (R := R)) (registOrReturn regist pkt isConfig) := by
  have hflag : Leads (Settled (W := W) (R := R))
      (do return some (<- test pkt.isVideoKeyframe)) :=
    Leads.bind (test_settled _) fun b => Leads.pure (some b)
  have hregist : Leads (Settled (R := R)) (registSource regist) := by
    intro g
    unfold registSource
    split
    · exact ⟨rfl, rfl, rfl, rfl⟩
    · exact Std.Refl.refl g
    · exact Std.Refl.refl g
  intro g
  change Settled g (resultState ((if g.source.isRegistered then
      (do return some (<- test pkt.isVideoKeyframe))
    else if isConfig then return none
    else do
      registSource regist
      return some (<- test pkt.isVideoKeyframe) : Call W R (Option Bool)) g))
  split_ifs
  · exact hflag g
  · exact Std.Refl.refl g
  · exact Leads.bind hregist (fun _ => hflag) g

theorem distribute_settled [DecidableEq R] (ptr : PacketPtr) (isIdr : Bool) :
    Leads (Settled (W := W) (R := R)) (distribute ptr isIdr) := by
  intro g
  unfold distribute
  split
  · exact Std.Refl.refl g
  · rename_i d hd
    refine ⟨rfl, rfl, rfl, ?_⟩
    rw [hd]
    rfl

/-- Whatever comes of a packet, the source keeps what it has. -/
theorem processAvPacket_ensures [DecidableEq R]
    (regist : W -> Except String (Option W))
    (h264DecSeqParameterSet : Bytes -> Bool) (ptr : PacketPtr)
    (g₀ : Ingest W R) :
    Ensures (Processing ptr g₀)
      (processAvPacket regist h264DecSeqParameterSet ptr)
      (fun _ => Begun ptr g₀) (Begun ptr g₀) := by
  have hsettled : forall {value : Type} {m : Call W R value},
      Leads Settled m -> Ensures (Begun ptr g₀) m (fun _ => Begun ptr g₀)
        (Begun ptr g₀) := by
    intro value m hm
    exact Ensures.of_leads hm fun g g' hg h => hg.settled h
  unfold processAvPacket
  apply Ensures.bind
  · unfold acceptPacket
    apply Ensures.bind (checkPacket_ensures ptr g₀)
    intro pkt
    apply Ensures.bind (demux_ensures h264DecSeqParameterSet ptr g₀ pkt)
    intro pkt'
    apply Ensures.bind (updateTrack_ensures ptr g₀ pkt')
    intro pkt''
    apply Ensures.bind (noteConfigFrame_ensures ptr g₀ pkt'')
    intro isConfig
    exact hsettled (registOrReturn_settled regist pkt'' isConfig)
  · intro isIdr
    cases isIdr with
    | none => exact Ensures.pure fun g hg => hg
    | some isIdr =>
        exact hsettled (distribute_settled ptr isIdr)

/-- Without a dispatcher no packet is accepted. -/
theorem processAvPacket_noDispatcher [DecidableEq R]
    (regist : W -> Except String (Option W)) (h264DecSeqParameterSet : Bytes -> Bool)
    (ptr : PacketPtr) {g : Ingest W R} (h : g.source.dispatcher = none) :
    resultState (processAvPacket regist h264DecSeqParameterSet ptr g) = g := by
  have hcheck : exists what, checkPacket ptr g = .error what g := by
    unfold checkPacket
    rw [h]
    split
    · exact ⟨_, rfl⟩
    · split_ifs with _ hnone
      · exact ⟨_, rfl⟩
      · exact ⟨_, rfl⟩
      · exact absurd rfl hnone
  rcases hcheck with ⟨what, hcheck⟩
  have haccept : acceptPacket regist h264DecSeqParameterSet ptr g =
      .error what g := by
    change EStateM.bind (checkPacket ptr) _ g = _
    unfold EStateM.bind
    rw [hcheck]
  change resultState (EStateM.bind
    (acceptPacket regist h264DecSeqParameterSet ptr) _ g) = g
  unfold EStateM.bind
  rw [haccept]
  rfl

/-- `init_tracks` gives the source both, or what it had is left. -/
theorem initTracks_effect (metaData : MetaDataPtr) (g : Ingest W R) :
    exists g', resultState (initTracks (some metaData) g) = g' ∧
      g'.packets = g.packets ∧ g'.registry = g.registry ∧
        g'.source.configFrameMap = g.source.configFrameMap ∧
          ((g'.source.dispatcher.isSome = true ∧
              g'.source.metaData.isSome = true) ∨
            (g'.source.dispatcher = g.source.dispatcher ∧
              g'.source.metaData = g.source.metaData)) := by
  refine ⟨_, rfl, ?_⟩
  unfold initTracks
  dsimp only
  split
  · exact ⟨rfl, rfl, rfl, Or.inr ⟨rfl, rfl⟩⟩
  · split
    · exact ⟨rfl, rfl, rfl, Or.inr ⟨rfl, rfl⟩⟩
    · exact ⟨rfl, rfl, rfl, Or.inl ⟨rfl, rfl⟩⟩

end Calls

namespace Server

section Playing

variable {R : Type}

/-!
## The sources of a server
-/

structure Playable (w : Server R) : Prop where
  entry : forall k s, w.registry.entry k = some s ->
    s < w.sourceCount ∧ (w.sources s).data.dispatcher.isSome = true
  metaData : forall s, (w.sources s).data.dispatcher.isSome = true ->
    (w.sources s).data.metaData.isSome = true
  frames : forall s, FramesSendable w.packets (w.sources s).data.configFrameMap
  tracked : forall s, (w.sources s).data.demuxer.Attached

theorem start_playable : ({} : Server R).Playable where
  entry := fun k s h => by
    cases (Registry.empty_entry k).symm.trans h
  metaData := fun s h => by cases h
  frames := fun s entry h => by cases h
  tracked := fun s => RtmpDemuxer.start_attached

/-- No source is given anything, and none is entered. -/
structure Undisturbed (w w' : Server R) : Prop where
  packets_eq : w'.packets = w.packets
  count_le : w.sourceCount <= w'.sourceCount
  entry : forall k s, w'.registry.entry k = some s ->
    w.registry.entry k = some s
  data : forall s, exists registered, (w'.sources s).data =
    { (w.sources s).data with isRegistered := registered }

theorem undisturbed_refl (w : Server R) : w.Undisturbed w :=
  ⟨rfl, Nat.le_refl _, fun _ _ h => h, fun _ => ⟨_, rfl⟩⟩

theorem Undisturbed.trans {w w' w'' : Server R} (h : w.Undisturbed w')
    (h' : w'.Undisturbed w'') : w.Undisturbed w'' := by
  refine ⟨h'.packets_eq.trans h.packets_eq,
    Nat.le_trans h.count_le h'.count_le,
    fun k s hs => h.entry k s (h'.entry k s hs), ?_⟩
  intro s
  rcases h.data s with ⟨before, hdata⟩
  rcases h'.data s with ⟨after, hdata'⟩
  refine ⟨after, ?_⟩
  rw [hdata', hdata]

theorem Playable.undisturbed {w w' : Server R} (h : w.Playable)
    (hkept : w.Undisturbed w') : w'.Playable := by
  have hdispatcher : forall s, (w'.sources s).data.dispatcher =
      (w.sources s).data.dispatcher := by
    intro s
    rcases hkept.data s with ⟨registered, hdata⟩
    rw [hdata]
  constructor
  · intro k s hs
    rw [hdispatcher]
    rcases h.entry k s (hkept.entry k s hs) with ⟨hlt, hsome⟩
    exact ⟨Nat.lt_of_lt_of_le hlt hkept.count_le, hsome⟩
  · intro s hs
    rw [hdispatcher] at hs
    rcases hkept.data s with ⟨registered, hdata⟩
    rw [hdata]
    exact h.metaData s hs
  · intro s
    rcases hkept.data s with ⟨registered, hdata⟩
    rw [hdata, hkept.packets_eq]
    exact h.frames s
  · intro s
    rcases hkept.data s with ⟨registered, hdata⟩
    rw [hdata]
    exact h.tracked s

theorem undisturbed_setPublisher (w : Server R) (c : Nat) (p : Publisher) :
    w.Undisturbed (w.setPublisher c p) :=
  ⟨rfl, Nat.le_refl _, fun _ _ h => h, fun _ => ⟨_, rfl⟩⟩

theorem undisturbed_destroy (w : Server R) (s : SourcePtr) :
    w.Undisturbed (w.destroy s) := by
  refine ⟨rfl, Nat.le_refl _, ?_, ?_⟩
  · intro k r hr
    exact (Registry.eraseMediaSource_entry.mp hr).1
  · intro r
    by_cases hr : r = s
    · subst hr
      have hsource : (w.destroy r).sources r = { w.sources r with
          alive := false
          data := { (w.sources r).data with isRegistered := false } } :=
        setSource_self _ _ _
      exact ⟨false, congrArg SharedSource.data hsource⟩
    · exact ⟨_, congrArg SharedSource.data (w.setSource_ne hr _)⟩

theorem undisturbed_dropPointer (w : Server R) (r : Option SourcePtr) :
    w.Undisturbed (w.dropPointer r) := by
  rcases w.dropPointer_cases r with hsame | ⟨s, _, _, hdestroy⟩
  · rw [hsame]
    exact w.undisturbed_refl
  · rw [hdestroy]
    exact w.undisturbed_destroy s

theorem undisturbed_fail (w : Server R) (c : Nat) : w.Undisturbed (w.fail c) :=
  (w.undisturbed_setPublisher c _).trans (undisturbed_dropPointer _ _)

theorem undisturbed_badName (w : Server R) (c : Nat) :
    w.Undisturbed (w.badName c) :=
  (w.undisturbed_setPublisher c _).trans (undisturbed_fail _ c)

theorem undisturbed_dropOwnership (w : Server R) (c : Nat) :
    w.Undisturbed (w.dropOwnership c) := by
  rcases w.dropOwnership_rest c with ⟨_, _, _, _, hcount, hregistry⟩
  refine ⟨?_, Nat.le_of_eq hcount.symm, ?_, ?_⟩
  · unfold dropOwnership
    dsimp only
    split
    · rfl
    · split <;> rfl
  · intro k s hs
    rw [hregistry] at hs
    exact hs
  · intro s
    rcases w.dropOwnership_source c s with ⟨owned, hsource⟩
    rw [hsource]
    exact ⟨_, rfl⟩

theorem undisturbed_takeOwnership (w : Server R) (c : Nat) (s : SourcePtr) :
    w.Undisturbed (w.takeOwnership c s) := by
  refine ⟨rfl, Nat.le_refl _, fun _ _ h => h, ?_⟩
  intro r
  rcases w.takeOwnership_source c s r with ⟨owned, hsource⟩
  have hdata : ((w.takeOwnership c s).sources r).data = (w.sources r).data := by
    rw [hsource]
  exact ⟨(w.sources r).data.isRegistered, hdata⟩

/-- A new source has nothing yet. -/
theorem Playable.newSource {w : Server R} (h : w.Playable) (i : Nat) :
    (w.newSource i).Playable := by
  have hold := fun s (hs : s < w.sourceCount) =>
    w.newSource_ne i (Nat.ne_of_lt hs)
  have hself := w.newSource_self i
  have hcases : forall s, (w.newSource i).sources s = w.sources s ∨
      ((w.newSource i).sources s).data = {} := by
    intro s
    by_cases hs : s = w.sourceCount
    · rw [hs]
      exact Or.inr (congrArg SharedSource.data hself)
    · exact Or.inl (w.newSource_ne i hs)
  constructor
  · intro k s hs
    rcases h.entry k s hs with ⟨hlt, hsome⟩
    rw [hold s hlt]
    exact ⟨Nat.lt_succ_of_lt hlt, hsome⟩
  · intro s hs
    rcases hcases s with hsame | hnew
    · rw [hsame] at hs ⊢
      exact h.metaData s hs
    · rw [hnew] at hs
      cases hs
  · intro s
    rcases hcases s with hsame | hnew
    · rw [hsame]
      exact h.frames s
    · rw [hnew]
      intro entry hentry
      cases hentry
  · intro s
    rcases hcases s with hsame | hnew
    · rw [hsame]
      exact h.tracked s
    · rw [hnew]
      exact RtmpDemuxer.start_attached

/-- A call of one source, of which the registry may come to know. -/
theorem Playable.restore {w : Server R} (h : w.Playable) (w₀ : Server R)
    {s : SourcePtr} (hs : s < w.sourceCount) {g' : Ingest Registry R}
    (hcount : w₀.sourceCount = w.sourceCount)
    (hsources : w₀.sources = w.sources)
    (hmetaData : g'.source.dispatcher.isSome = true ->
      g'.source.metaData.isSome = true)
    (hsame : forall r, r ≠ s -> FramesSendable g'.packets
      (w.sources r).data.configFrameMap)
    (hframes : FramesSendable g'.packets g'.source.configFrameMap)
    (htracked : Tracked g')
    (hentry : forall k r, g'.registry.entry k = some r ->
      (r ≠ s ∧ w.registry.entry k = some r) ∨
        (r = s ∧ g'.source.dispatcher.isSome = true)) :
    (w₀.restore s g').Playable := by
  have hself : ((w₀.restore s g').sources s).data = g'.source := by
    rw [restore_self]
  have hother : forall r, r ≠ s -> (w₀.restore s g').sources r = w.sources r := by
    intro r hr
    rw [← hsources]
    exact w₀.restore_ne hr _
  constructor
  · intro k r hr
    show r < w₀.sourceCount ∧ _
    rw [hcount]
    rcases hentry k r hr with ⟨hne, hold⟩ | ⟨heq, hsome⟩
    · rw [hother r hne]
      exact h.entry k r hold
    · rw [heq, hself]
      exact ⟨hs, hsome⟩
  · intro r hr
    by_cases heq : r = s
    · rw [heq, hself] at hr ⊢
      exact hmetaData hr
    · rw [hother r heq] at hr ⊢
      exact h.metaData r hr
  · intro r
    by_cases heq : r = s
    · rw [heq, hself]
      exact hframes
    · rw [hother r heq]
      exact hsame r heq
  · intro r
    by_cases heq : r = s
    · rw [heq, hself]
      exact htracked
    · rw [hother r heq]
      exact h.tracked r

theorem Playable.callSource {w : Server R} {c : Nat} {s : SourcePtr}
    {call : Call Registry R PUnit}
    (h : (w.restore s (resultState (call (w.ingest s)))).Playable) :
    (w.callSource c s call).Playable := by
  unfold Server.callSource
  cases hresult : call (w.ingest s) with
  | ok u g =>
      rw [hresult] at h
      exact h
  | error what g =>
      rw [hresult] at h
      exact h.undisturbed (undisturbed_fail _ c)

theorem publishNext_playable {w w' : Server R} {c : Nat} (hw : w.Playable)
    (h : w.publishNext c = some w') : w'.Playable := by
  rcases publishNext_cases h with ⟨i, _, hadvance⟩
  cases hadvance with
  | find _ =>
      unfold findSource
      split
      · exact hw.undisturbed (w.undisturbed_fail c)
      · exact hw.undisturbed (w.undisturbed_setPublisher c _)
  | create _ =>
      unfold createSource
      split
      · apply (hw.newSource _).undisturbed
        exact (undisturbed_dropOwnership _ c).trans
          (undisturbed_takeOwnership _ c _)
      · exact hw.undisturbed (w.undisturbed_badName c)
  | reconnect s _ =>
      apply hw.undisturbed
      exact (w.undisturbed_dropOwnership c).trans
        (undisturbed_setPublisher _ c _)
  | getOwnership s _ =>
      unfold getOwnership
      split
      · exact hw.undisturbed (w.undisturbed_badName c)
      · exact hw.undisturbed (w.undisturbed_takeOwnership c _)
  | start s _ =>
      apply hw.undisturbed
      exact (w.undisturbed_setPublisher c _).trans (undisturbed_dropPointer _ _)

theorem processMetadata_playable {w w' : Server R} {c : Nat}
    {entries : Metadata} (hshared : w.Shared) (hw : w.Playable)
    (h : w.processMetadata c entries = some w') : w'.Playable := by
  rcases processMetadata_cases h with ⟨_, metaData, kept, _, hkept, hw'⟩
  rcases hw' with ⟨_, hw'⟩ | ⟨s, hsource, hw'⟩
  · rw [hw', hkept]
    apply hw.undisturbed
    exact (w.undisturbed_setPublisher c _).trans (undisturbed_fail _ c)
  · have hfresh := hshared.fresh s (hshared.holds c s (Or.inl hsource))
    rw [hw', hkept]
    apply Playable.callSource
    generalize hbefore : (w.setPublisher c { w.publishers c with
      metaData := metaData }).ingest s = g
    have hsource : g.source = (w.sources s).data := by
      rw [← hbefore]
      rfl
    have htracked : Tracked (resultState (initTracks (some c) g)) := by
      apply initTracks_tracked
      unfold Tracked
      rw [hsource]
      exact hw.tracked s
    rcases initTracks_effect c g with
      ⟨g', hresult, hpackets, hregistry, hmap, htracks⟩
    rw [hsource] at hmap htracks
    have hpackets' : g'.packets = w.packets := by
      rw [hpackets, ← hbefore]
      rfl
    have hregistry' : g'.registry = w.registry := by
      rw [hregistry, ← hbefore]
      rfl
    rw [hresult] at htracked ⊢
    apply hw.restore (w.setPublisher c _) hfresh rfl rfl
    · intro hsome
      rcases htracks with ⟨_, hmetaData⟩ | ⟨hdispatcher, hmetaData⟩
      · exact hmetaData
      · rw [hdispatcher] at hsome
        rw [hmetaData]
        exact hw.metaData s hsome
    · intro r _
      rw [hpackets']
      exact hw.frames r
    · rw [hpackets', hmap]
      exact hw.frames s
    · exact htracked
    · intro k r hr
      rw [hregistry'] at hr
      by_cases heq : r = s
      · refine Or.inr ⟨heq, ?_⟩
        have hsome := (hw.entry k r hr).2
        rw [heq] at hsome
        rcases htracks with ⟨hdispatcher, _⟩ | ⟨hdispatcher, _⟩
        · exact hdispatcher
        · rw [hdispatcher]
          exact hsome
      · exact Or.inl ⟨heq, hr⟩

theorem FramesSendable.append {packets : List RtmpPacket}
    {entries : List (Nat × PacketPtr)} (h : FramesSendable packets entries)
    (pkt : RtmpPacket) : FramesSendable (packets ++ [pkt]) entries := by
  intro entry hentry
  rcases h entry hentry with ⟨found, hfound, hunread⟩
  have hlt := (List.getElem?_eq_some_iff.mp hfound).1
  refine ⟨found, ?_, hunread⟩
  rw [List.getElem?_append_left hlt]
  exact hfound

theorem Playable.withPacket {w : Server R} (h : w.Playable)
    (pkt : RtmpPacket) :
    { w with packets := w.packets ++ [pkt] }.Playable where
  entry := h.entry
  metaData := h.metaData
  frames := fun s => FramesSendable.append (h.frames s) pkt
  tracked := h.tracked

theorem processAv_playable [DecidableEq R]
    {h264DecSeqParameterSet : Bytes -> Bool} {w w' : Server R} {c : Nat}
    (hshared : w.Shared) (hw : w.Playable)
    (h : w.processAv h264DecSeqParameterSet c = some w') : w'.Playable := by
  rcases processAv_cases h with ⟨pkt, s, pushed, _, hsource, hpushed, hw'⟩
  have hfresh := hshared.fresh s (hshared.holds c s (Or.inl hsource))
  rw [hw', hpushed]
  apply Playable.callSource
  generalize hbefore : Server.ingest { w.setPublisher c
    { w.publishers c with stage := .idle } with
      packets := w.packets ++ [pkt] } s = g₀
  have hpackets : g₀.packets = w.packets ++ [pkt] := by
    rw [← hbefore]
    rfl
  have hregistry : g₀.registry = w.registry := by
    rw [← hbefore]
    rfl
  have hdata : g₀.source = (w.sources s).data := by
    rw [← hbefore]
    rfl
  have hprocessing : Processing w.packets.length g₀ g₀ := by
    refine ⟨⟨fun _ _ => rfl, rfl, rfl, ?_⟩, ?_⟩
    · rw [hpackets, hdata]
      exact FramesSendable.append (hw.frames s) pkt
    · intro entry hentry
      rw [hdata] at hentry
      rcases hw.frames s entry hentry with ⟨found, hfound, _⟩
      exact Nat.ne_of_lt (List.getElem?_eq_some_iff.mp hfound).1
  have hbegun := (processAvPacket_ensures (w.registSource s)
    h264DecSeqParameterSet w.packets.length g₀).resultState hprocessing
  have henrolled : Enrolled (w.registSource s) g₀ (resultState
      (processAvPacket (w.registSource s) h264DecSeqParameterSet
        w.packets.length g₀)) :=
    processAvPacket_leads h264DecSeqParameterSet w.packets.length g₀
  have hnone := processAvPacket_noDispatcher (w.registSource s)
    h264DecSeqParameterSet w.packets.length (g := g₀)
  have htracked := (processAvPacket_safe (w.registSource s)
    h264DecSeqParameterSet w.packets.length).resultState
      (show Tracked g₀ by unfold Tracked; rw [hdata]; exact hw.tracked s)
  generalize resultState (processAvPacket (w.registSource s)
    h264DecSeqParameterSet w.packets.length g₀) = g' at hbegun henrolled hnone htracked
  apply hw.restore { w.setPublisher c _ with packets := _ } hfresh rfl rfl
  · intro hsome
    rw [hbegun.dispatcher_eq, hdata] at hsome
    rw [hbegun.metaData_eq, hdata]
    exact hw.metaData s hsome
  · intro r _ entry hentry
    rcases FramesSendable.append (hw.frames r) pkt entry hentry with
      ⟨found, hfound, hunread⟩
    rcases hw.frames r entry hentry with ⟨_, hold, _⟩
    refine ⟨found, ?_, hunread⟩
    rw [hbegun.elsewhere entry.2
      (Nat.ne_of_lt (List.getElem?_eq_some_iff.mp hold).1), hpackets]
    exact hfound
  · exact hbegun.frames
  · exact htracked
  · intro k r hr
    have hold : w.registry.entry k = some r ->
        (r ≠ s ∧ w.registry.entry k = some r) ∨
          (r = s ∧ g'.source.dispatcher.isSome = true) := by
      intro hentry
      by_cases heq : r = s
      · refine Or.inr ⟨heq, ?_⟩
        rw [hbegun.dispatcher_eq, hdata, ← heq]
        exact (hw.entry k r hentry).2
      · exact Or.inl ⟨heq, hentry⟩
    rcases henrolled with ⟨hsame, _⟩ | ⟨hfalse, htrue, hregist⟩
    · rw [hsame, hregistry] at hr
      exact hold hr
    · rw [hregistry] at hregist
      rcases Registry.regist_ok hregist with ⟨hself, hother, _⟩
      by_cases hk : k = w.keyOf s
      · rw [hk, hself] at hr
        refine Or.inr ⟨(Option.some.inj hr).symm, ?_⟩
        rw [hbegun.dispatcher_eq]
        cases hdispatcher : g₀.source.dispatcher with
        | some d => rfl
        | none =>
            rw [hnone hdispatcher, hfalse] at htrue
            cases htrue
      · rw [hother k hk] at hr
        exact hold hr

theorem step_playable [DecidableEq R] {h264DecSeqParameterSet : Bytes -> Bool}
    {w w' : Server R} {e : ServerEvent} (hw : w.Shared ∧ w.Playable)
    (hstep : w.step h264DecSeqParameterSet e = some w') :
    w'.Shared ∧ w'.Playable := by
  refine ⟨step_shared hw.1 hstep, ?_⟩
  rcases hw with ⟨hshared, hplayable⟩
  have h := (step_cases hstep).2
  cases e with
  | accept =>
      cases h
      exact hplayable.undisturbed ⟨rfl, Nat.le_refl _, fun _ _ h => h,
        fun _ => ⟨_, rfl⟩⟩
  | connect c app tcUrl =>
      have hnew : forall info, w.Undisturbed
          { w.setPublisher c
              { w.publishers c with mediaInfo := some w.infoCount } with
            infos := Function.update w.infos w.infoCount info
            infoCount := w.infoCount + 1 } := by
        intro info
        exact ⟨rfl, Nat.le_refl _, fun _ _ h => h, fun _ => ⟨_, rfl⟩⟩
      rcases connect_cases h with ⟨_, info, created, hcreated, hw' | hw'⟩
      · rw [hw', hcreated]
        exact hplayable.undisturbed (hnew info)
      · rw [hw', hcreated]
        exact hplayable.undisturbed
          ((hnew info).trans (undisturbed_fail _ c))
  | publish c stream =>
      rcases publish_cases h with ⟨i, _, _, ⟨_, hw'⟩ | ⟨info, _, hw'⟩⟩
      · rw [hw']
        exact hplayable.undisturbed
          ((w.undisturbed_setPublisher c _).trans (undisturbed_fail _ c))
      · rw [hw']
        exact hplayable.undisturbed ⟨rfl, Nat.le_refl _, fun _ _ h => h,
          fun _ => ⟨_, rfl⟩⟩
  | publishNext c => exact publishNext_playable hplayable h
  | metadata c entries => exact processMetadata_playable hshared hplayable h
  | av c pkt =>
      rcases checkAv_cases h with ⟨_, hw' | ⟨_, hw'⟩⟩
      · rw [hw']
        exact hplayable.undisturbed (w.undisturbed_fail c)
      · rw [hw']
        exact hplayable.undisturbed (w.undisturbed_setPublisher c _)
  | process c => exact processAv_playable hshared hplayable h
  | malformed c =>
      rcases Option.ite_none_right_eq_some.mp h with ⟨_, hw'⟩
      cases hw'
      exact hplayable.undisturbed (w.undisturbed_fail c)
  | close c =>
      cases h
      exact hplayable.undisturbed (w.undisturbed_setPublisher c _)
  | destruct c =>
      rcases destruct_cases h with
        ⟨_, _, _, hw' | ⟨_, s, hw'⟩ | ⟨_, hw'⟩ | hw'⟩
      · rw [hw']
        exact hplayable.undisturbed ((w.undisturbed_setPublisher c _).trans
          (undisturbed_dropOwnership _ c))
      · rw [hw']
        exact hplayable.undisturbed ((w.undisturbed_setPublisher c _).trans
          (undisturbed_dropPointer _ _))
      · rw [hw']
        exact hplayable.undisturbed (w.undisturbed_setPublisher c _)
      · rw [hw']
        exact hplayable.undisturbed (w.undisturbed_setPublisher c _)
  | pull k =>
      cases h
      rcases w.pull_cases k with hsame | ⟨s, _, hpulled⟩
      · rw [hsame]
        exact hplayable
      · rw [hpulled]
        exact hplayable.undisturbed ⟨rfl, Nat.le_refl _, fun _ _ h => h,
          fun _ => ⟨_, rfl⟩⟩
  | letGo i =>
      cases h
      have hpulling : w.Undisturbed
          { w with pulling := w.pulling.eraseIdx i } :=
        ⟨rfl, Nat.le_refl _, fun _ _ h => h, fun _ => ⟨_, rfl⟩⟩
      exact hplayable.undisturbed (hpulling.trans (undisturbed_dropPointer _ _))

end Playing

end Server

end Rtmp
end Streaming
