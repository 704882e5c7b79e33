import Streaming.Rtmp.Publish

/-!
# Who owns a source

A token of a source is worth its `owned_` flag: there is one of them at most, and
whoever passes the check for audio and video has it.
-/

namespace Streaming
namespace Rtmp

open Foundation Media Util

/-- How the token of a connection goes with its pointers. -/
def Publisher.TokenOk (p : Publisher) : Prop :=
  match p.stage with
  | .dropped _ => p.srcOwnership = none
  | .won s => p.srcOwnership = some s
  | .pushing _ => p.srcOwnership ≠ none ∧ p.srcOwnership = p.rtmpSource
  | _ => p.srcOwnership = none ∨ p.srcOwnership = p.rtmpSource

theorem Publisher.TokenOk.holds {p : Publisher} (h : p.TokenOk)
    {s : SourcePtr} (hs : p.srcOwnership = some s) : p.Holds s := by
  unfold TokenOk at h
  unfold Holds
  cases hstage : p.stage with
  | dropped r =>
      rw [hstage] at h
      cases h.symm.trans hs
  | won r =>
      rw [hstage] at h
      exact Or.inr (congrArg some (Option.some.inj (h.symm.trans hs)))
  | pushing pkt =>
      rw [hstage] at h
      exact Or.inl (h.2.symm.trans hs)
  | idle | parsed | found r | stopped =>
      rw [hstage] at h
      rcases h with hnone | hsame
      · cases hnone.symm.trans hs
      · exact Or.inl (hsame.symm.trans hs)

/-- Only between the two assignments of `on_amf_publish` is the token not that
of `rtmp_source_`. -/
theorem Publisher.TokenOk.settled {p : Publisher} (h : p.TokenOk)
    (hstage : forall s, p.stage ≠ .won s) :
    p.srcOwnership = none ∨ p.srcOwnership = p.rtmpSource := by
  unfold TokenOk at h
  cases hst : p.stage with
  | won s => exact absurd hst (hstage s)
  | dropped s =>
      rw [hst] at h
      exact Or.inl h
  | pushing pkt =>
      rw [hst] at h
      exact Or.inr h.2
  | idle | parsed | found r | stopped =>
      rw [hst] at h
      exact h

namespace Server

section Effects

variable {R : Type}

/-!
## What the operations on pointers do
-/

@[simp] theorem setPublisher_self (w : Server R) (c : Nat) (p : Publisher) :
    (w.setPublisher c p).publishers c = p :=
  Function.update_self _ _ _

theorem setPublisher_ne (w : Server R) {c d : Nat} (hd : d ≠ c)
    (p : Publisher) : (w.setPublisher c p).publishers d = w.publishers d :=
  Function.update_of_ne hd _ _

@[simp] theorem setSource_self (w : Server R) (s : SourcePtr)
    (source : SharedSource R) : (w.setSource s source).sources s = source :=
  Function.update_self _ _ _

theorem setSource_ne (w : Server R) {s r : SourcePtr} (hr : r ≠ s)
    (source : SharedSource R) :
    (w.setSource s source).sources r = w.sources r :=
  Function.update_of_ne hr _ _

theorem setPublisher_setPublisher (w : Server R) (c : Nat) (p q : Publisher) :
    (w.setPublisher c p).setPublisher c q = w.setPublisher c q := by
  unfold setPublisher
  dsimp only
  rw [Function.update_idem]

theorem badName_eq (w : Server R) (c : Nat) :
    w.badName c = (w.setPublisher c { w.publishers c with
      stage := .stopped
      isOpen := false
      answer := some .badName }).dropPointer (w.publishers c).stage.pointer := by
  unfold badName fail
  rw [setPublisher_self, setPublisher_setPublisher]

theorem held_iff (w : Server R) (s : SourcePtr) :
    w.held s = true <-> s ∈ w.pulling ∨
      exists c, c < w.accepted ∧ (w.publishers c).Holds s := by
  simp [held]

/-- A pointer that goes away either leaves everything as it is, or it was the
last one. -/
theorem dropPointer_cases (w : Server R) (r : Option SourcePtr) :
    w.dropPointer r = w ∨ exists s, r = some s ∧ w.held s = false ∧
      w.dropPointer r = w.destroy s := by
  cases r with
  | none => exact Or.inl rfl
  | some s =>
      cases hheld : w.held s with
      | true => exact Or.inl (if_pos hheld)
      | false =>
          exact Or.inr ⟨s, rfl, hheld, if_neg (Bool.eq_false_iff.mp hheld)⟩

theorem destroy_ne (w : Server R) {s r : SourcePtr} (hr : r ≠ s) :
    (w.destroy s).sources r = w.sources r :=
  setSource_ne _ hr _

theorem destroy_alive (w : Server R) (s r : SourcePtr) :
    (w.destroy s).alive r = true <-> r ≠ s ∧ w.alive r = true := by
  unfold alive
  by_cases hr : r = s
  · subst hr
    simp [destroy]
  · rw [destroy_ne w hr]
    simp [hr]

theorem newSource_self (w : Server R) (i : Nat) :
    (w.newSource i).sources w.sourceCount = { info := i, alive := true } :=
  setSource_self _ _ _

theorem newSource_ne (w : Server R) (i : Nat) {s : SourcePtr}
    (hs : s ≠ w.sourceCount) : (w.newSource i).sources s = w.sources s :=
  setSource_ne _ hs _

theorem dropPointer_publishers (w : Server R) (r : Option SourcePtr) :
    (w.dropPointer r).publishers = w.publishers := by
  rcases w.dropPointer_cases r with hsame | ⟨s, _, _, hdestroy⟩
  · rw [hsame]
  · rw [hdestroy]
    rfl

theorem dropOwnership_self (w : Server R) (c : Nat) :
    (w.dropOwnership c).publishers c =
      { w.publishers c with srcOwnership := none } := by
  unfold dropOwnership
  dsimp only
  split
  · exact w.setPublisher_self c _
  · split
    · exact w.setPublisher_self c _
    · exact w.setPublisher_self c _

theorem dropOwnership_ne (w : Server R) {c d : Nat} (hd : d ≠ c) :
    (w.dropOwnership c).publishers d = w.publishers d := by
  unfold dropOwnership
  dsimp only
  split
  · exact w.setPublisher_ne hd _
  · split
    · exact w.setPublisher_ne hd _
    · exact w.setPublisher_ne hd _

/-- Of a source, the deleter changes the flag at most. -/
theorem dropOwnership_source (w : Server R) (c : Nat) (s : SourcePtr) :
    exists owned, (w.dropOwnership c).sources s =
      { w.sources s with owned := owned } := by
  unfold dropOwnership
  dsimp only
  split
  · exact ⟨_, rfl⟩
  · rename_i t ht
    split
    · by_cases hs : s = t
      · subst hs
        exact ⟨false, setSource_self _ _ _⟩
      · exact ⟨_, setSource_ne _ hs _⟩
    · exact ⟨_, rfl⟩

/-- A source that the token is not of stays as it is. -/
theorem dropOwnership_other {w : Server R} {c : Nat} {s : SourcePtr}
    (hs : (w.publishers c).srcOwnership ≠ some s) :
    (w.dropOwnership c).sources s = w.sources s := by
  unfold dropOwnership
  dsimp only
  split
  · rfl
  · rename_i t ht
    have hne : s ≠ t := by
      intro heq
      subst heq
      exact hs ht
    split
    · exact setSource_ne _ hne _
    · rfl

/-- The connection no longer has the token of any source. -/
theorem dropOwnership_holder (w : Server R) (c d : Nat) (s : SourcePtr) :
    ((w.dropOwnership c).publishers d).srcOwnership = some s <->
      d ≠ c ∧ (w.publishers d).srcOwnership = some s := by
  by_cases hd : d = c
  · rw [hd, dropOwnership_self]
    constructor
    · intro hnone
      cases hnone
    · intro hother
      exact absurd rfl hother.1
  · rw [dropOwnership_ne w hd]
    exact ⟨fun h => ⟨hd, h⟩, fun h => h.2⟩

theorem dropOwnership_cleared {w : Server R} {c : Nat} {s : SourcePtr}
    (hs : (w.publishers c).srcOwnership = some s) (halive : w.alive s = true) :
    ((w.dropOwnership c).sources s).owned = false := by
  unfold dropOwnership
  dsimp only
  rw [hs]
  dsimp only
  rw [if_pos halive, setSource_self]

theorem dropOwnership_rest (w : Server R) (c : Nat) :
    (w.dropOwnership c).accepted = w.accepted ∧
      (w.dropOwnership c).pulling = w.pulling ∧
      (w.dropOwnership c).infos = w.infos ∧
      (w.dropOwnership c).infoCount = w.infoCount ∧
      (w.dropOwnership c).sourceCount = w.sourceCount ∧
      (w.dropOwnership c).registry = w.registry := by
  unfold dropOwnership
  dsimp only
  split
  · exact ⟨rfl, rfl, rfl, rfl, rfl, rfl⟩
  · split
    · exact ⟨rfl, rfl, rfl, rfl, rfl, rfl⟩
    · exact ⟨rfl, rfl, rfl, rfl, rfl, rfl⟩

theorem dropOwnership_alive (w : Server R) (c : Nat) (s : SourcePtr) :
    (w.dropOwnership c).alive s = w.alive s := by
  rcases w.dropOwnership_source c s with ⟨owned, hsource⟩
  unfold alive
  rw [hsource]

theorem takeOwnership_self (w : Server R) (c : Nat) (s : SourcePtr) :
    (w.takeOwnership c s).publishers c =
      { w.publishers c with srcOwnership := some s, stage := .won s } :=
  setPublisher_self _ _ _

theorem takeOwnership_ne (w : Server R) {c d : Nat} (hd : d ≠ c)
    (s : SourcePtr) :
    (w.takeOwnership c s).publishers d = w.publishers d :=
  setPublisher_ne _ hd _

/-- The connection has this token; the others have what they had. -/
theorem takeOwnership_holder (w : Server R) (c : Nat) (s : SourcePtr) (d : Nat)
    (r : SourcePtr) :
    ((w.takeOwnership c s).publishers d).srcOwnership = some r <->
      (d = c ∧ r = s) ∨ (d ≠ c ∧ (w.publishers d).srcOwnership = some r) := by
  by_cases hd : d = c
  · rw [hd, takeOwnership_self]
    constructor
    · intro h
      cases h
      exact Or.inl ⟨rfl, rfl⟩
    · intro h
      rcases h with ⟨_, hr⟩ | ⟨hother, _⟩
      · rw [hr]
      · exact absurd rfl hother
  · rw [takeOwnership_ne w hd]
    constructor
    · intro h
      exact Or.inr ⟨hd, h⟩
    · intro h
      rcases h with ⟨heq, _⟩ | ⟨_, h⟩
      · exact absurd heq hd
      · exact h

theorem takeOwnership_taken (w : Server R) (c : Nat) (s : SourcePtr) :
    (w.takeOwnership c s).sources s = { w.sources s with owned := true } :=
  setSource_self _ _ _

theorem takeOwnership_kept (w : Server R) (c : Nat) {s r : SourcePtr}
    (hr : r ≠ s) : (w.takeOwnership c s).sources r = w.sources r :=
  setSource_ne _ hr _

theorem takeOwnership_source (w : Server R) (c : Nat) (s r : SourcePtr) :
    exists owned, (w.takeOwnership c s).sources r =
      { w.sources r with owned := owned } := by
  by_cases hr : r = s
  · rw [hr, takeOwnership_taken]
    exact ⟨_, rfl⟩
  · rw [takeOwnership_kept w c hr]
    exact ⟨_, rfl⟩

theorem takeOwnership_alive (w : Server R) (c : Nat) (s r : SourcePtr) :
    (w.takeOwnership c s).alive r = w.alive r := by
  rcases w.takeOwnership_source c s r with ⟨owned, hsource⟩
  unfold alive
  rw [hsource]

theorem restore_self (w : Server R) (s : SourcePtr) (g : Ingest Registry R) :
    (w.restore s g).sources s = { w.sources s with data := g.source } :=
  setSource_self _ _ _

theorem restore_ne (w : Server R) {s r : SourcePtr} (hr : r ≠ s)
    (g : Ingest Registry R) : (w.restore s g).sources r = w.sources r :=
  setSource_ne _ hr _

/-- A call changes the data of its source and nothing else of any source. -/
theorem restore_source (w : Server R) (s : SourcePtr) (g : Ingest Registry R)
    (r : SourcePtr) : exists data,
      (w.restore s g).sources r = { w.sources r with data := data } := by
  by_cases hr : r = s
  · rw [hr, restore_self]
    exact ⟨_, rfl⟩
  · rw [restore_ne w hr]
    exact ⟨_, rfl⟩

theorem restore_alive (w : Server R) (s : SourcePtr) (g : Ingest Registry R)
    (r : SourcePtr) : (w.restore s g).alive r = w.alive r := by
  rcases w.restore_source s g r with ⟨data, hdata⟩
  unfold alive
  rw [hdata]

theorem restore_owned (w : Server R) (s : SourcePtr) (g : Ingest Registry R)
    (r : SourcePtr) :
    ((w.restore s g).sources r).owned = (w.sources r).owned := by
  rcases w.restore_source s g r with ⟨data, hdata⟩
  rw [hdata]

theorem restore_info (w : Server R) (s : SourcePtr) (g : Ingest Registry R)
    (r : SourcePtr) :
    ((w.restore s g).sources r).info = (w.sources r).info := by
  rcases w.restore_source s g r with ⟨data, hdata⟩
  rw [hdata]

theorem restore_keyOf (w : Server R) (s : SourcePtr) (g : Ingest Registry R)
    (r : SourcePtr) : (w.restore s g).keyOf r = w.keyOf r := by
  unfold keyOf
  rw [restore_info]
  rfl

theorem restore_isRegistered_self (w : Server R) (s : SourcePtr)
    (g : Ingest Registry R) :
    (w.restore s g).isRegistered s = g.source.isRegistered := by
  unfold isRegistered
  rw [restore_self]

theorem restore_isRegistered_ne (w : Server R) {s r : SourcePtr} (hr : r ≠ s)
    (g : Ingest Registry R) :
    (w.restore s g).isRegistered r = w.isRegistered r := by
  unfold isRegistered
  rw [restore_ne w hr]

theorem step_cases [DecidableEq R] {h264DecSeqParameterSet : Bytes -> Bool}
    {w w' : Server R} {e : ServerEvent}
    (h : w.step h264DecSeqParameterSet e = some w') :
    (forall c, connection e = some c -> c < w.accepted) ∧
      w.handle h264DecSeqParameterSet e = some w' := by
  unfold step at h
  split at h
  · rename_i haccepted
    refine ⟨?_, h⟩
    intro c hc
    rw [hc] at haccepted
    simpa using haccepted
  · cases h

theorem step_of_handle [DecidableEq R]
    {h264DecSeqParameterSet : Bytes -> Bool} {w w' : Server R} {c : Nat}
    {e : ServerEvent} (hc : c < w.accepted) (he : connection e = some c)
    (h : w.handle h264DecSeqParameterSet e = some w') :
    w.step h264DecSeqParameterSet e = some w' := by
  unfold step
  rw [he, if_pos]
  · exact h
  · simpa using hc

/-!
## What a step can be
-/

theorem connect_cases {w w' : Server R} {c : Nat} {app tcUrl : Bytes}
    (h : w.connect c app tcUrl = some w') :
    (w.publishers c).stage = .idle ∧ exists info created,
      created = { w.setPublisher c
          { w.publishers c with mediaInfo := some w.infoCount } with
        infos := Function.update w.infos w.infoCount info
        infoCount := w.infoCount + 1 } ∧
      (w' = created ∨ w' = created.fail c) := by
  unfold connect at h
  dsimp only at h
  split at h
  · rename_i hstage
    refine ⟨hstage, ?_⟩
    split at h
    · rename_i info _
      cases h
      exact ⟨info, _, rfl, Or.inl rfl⟩
    · rename_i info _
      cases h
      exact ⟨info, _, rfl, Or.inr rfl⟩
  · cases h

/-- What `publish` does when `parse_stream` returns. -/
theorem publish_cases {w w' : Server R} {c : Nat} {stream : Bytes}
    (h : w.publish c stream = some w') :
    exists i, (w.publishers c).stage = .idle ∧
      (w.publishers c).mediaInfo = some i ∧
      (((exists what,
          MediaInfo.parseStream stream (w.infos i) = .error what) ∧
        w' = (w.setPublisher c { w.publishers c with answer := none }).fail c) ∨
        exists info, MediaInfo.parseStream stream (w.infos i) = .ok info ∧
          w' = { w.setPublisher c { w.publishers c with
              answer := none
              stage := .parsed } with
            infos := Function.update w.infos i info }) := by
  unfold publish at h
  dsimp only at h
  split at h
  · rename_i i hstage hinfo
    refine ⟨i, hstage, hinfo, ?_⟩
    split at h
    · rename_i what hparse
      cases h
      exact Or.inl ⟨⟨what, hparse⟩, rfl⟩
    · rename_i info hparse
      cases h
      exact Or.inr ⟨info, hparse, rfl⟩
  · cases h

/-- A step within `on_amf_publish`. -/
inductive Advance (w : Server R) (c i : Nat) : Server R -> Prop where
  | find (hstage : (w.publishers c).stage = .parsed) :
      Advance w c i (w.findSource c i)
  | create (hstage : (w.publishers c).stage = .found none) :
      Advance w c i (w.createSource c i)
  | reconnect (s : SourcePtr)
      (hstage : (w.publishers c).stage = .found (some s)) :
      Advance w c i (w.reconnect c s)
  | getOwnership (s : SourcePtr)
      (hstage : (w.publishers c).stage = .dropped s) :
      Advance w c i (w.getOwnership c s)
  | start (s : SourcePtr) (hstage : (w.publishers c).stage = .won s) :
      Advance w c i (w.startPublish c i s)

theorem publishNext_cases {w w' : Server R} {c : Nat}
    (h : w.publishNext c = some w') :
    exists i, (w.publishers c).mediaInfo = some i ∧ w.Advance c i w' := by
  unfold publishNext at h
  split at h
  · rename_i i hstage hinfo
    cases h
    exact ⟨i, hinfo, .find hstage⟩
  · rename_i i hstage hinfo
    cases h
    exact ⟨i, hinfo, .create hstage⟩
  · rename_i s i hstage hinfo
    cases h
    exact ⟨i, hinfo, .reconnect s hstage⟩
  · rename_i s i hstage hinfo
    cases h
    exact ⟨i, hinfo, .getOwnership s hstage⟩
  · rename_i s i hstage hinfo
    cases h
    exact ⟨i, hinfo, .start s hstage⟩
  · cases h

theorem processMetadata_cases {w w' : Server R} {c : Nat} {entries : Metadata}
    (h : w.processMetadata c entries = some w') :
    (w.publishers c).stage = .idle ∧ exists metaData kept,
      metaData = entries.foldl emplace (w.publishers c).metaData ∧
      kept = w.setPublisher c { w.publishers c with metaData := metaData } ∧
      (((w.publishers c).rtmpSource = none ∧ w' = kept.fail c) ∨
        exists s, (w.publishers c).rtmpSource = some s ∧
          w' = kept.callSource c s
            (RtmpMediaSource.initTracks (some c))) := by
  unfold processMetadata at h
  dsimp only at h
  split at h
  · rename_i hstage hsource
    cases h
    exact ⟨hstage, _, _, rfl, rfl, Or.inl ⟨hsource, rfl⟩⟩
  · rename_i s hstage hsource
    cases h
    exact ⟨hstage, _, _, rfl, rfl, Or.inr ⟨s, hsource, rfl⟩⟩
  · cases h

theorem checkAv_cases {w w' : Server R} {c : Nat} {pkt : RtmpPacket}
    (h : w.checkAv c pkt = some w') :
    (w.publishers c).stage = .idle ∧ (w' = w.fail c ∨
      ((w.publishers c).srcOwnership ≠ none ∧
        w' = w.setPublisher c { w.publishers c with stage := .pushing pkt })) := by
  unfold checkAv at h
  split at h
  · rename_i hstage
    refine ⟨hstage, ?_⟩
    split at h
    · cases h
      exact Or.inl rfl
    · rename_i hcheck
      rw [not_or] at hcheck
      cases h
      exact Or.inr ⟨hcheck.2, rfl⟩
  · cases h

theorem processAv_cases [DecidableEq R]
    {h264DecSeqParameterSet : Bytes -> Bool} {w w' : Server R} {c : Nat}
    (h : w.processAv h264DecSeqParameterSet c = some w') :
    exists pkt s pushed, (w.publishers c).stage = .pushing pkt ∧
      (w.publishers c).rtmpSource = some s ∧
      pushed = { w.setPublisher c { w.publishers c with stage := .idle } with
        packets := w.packets ++ [pkt] } ∧
      w' = pushed.callSource c s (RtmpMediaSource.processAvPacket
        (w.registSource s) h264DecSeqParameterSet w.packets.length) := by
  unfold processAv at h
  dsimp only at h
  split at h
  · rename_i pkt s hstage hsource
    cases h
    exact ⟨pkt, s, _, hstage, hsource, rfl, rfl⟩
  · cases h

/-- A member of the connection that is destroyed goes. -/
theorem destruct_cases {w w' : Server R} {c : Nat}
    (h : w.destruct c = some w') :
    c < w.accepted ∧ (w.publishers c).isOpen ≠ true ∧
      ((w.publishers c).stage = .idle ∨ (w.publishers c).stage = .stopped) ∧
      (w' = (w.setPublisher c
          { w.publishers c with stage := .stopped }).dropOwnership c ∨
        ((w.publishers c).srcOwnership = none ∧ exists s,
          w' = (w.setPublisher c { w.publishers c with
            stage := .stopped
            rtmpSource := none }).dropPointer (some s)) ∨
        ((w.publishers c).srcOwnership = none ∧
          w' = w.setPublisher c { w.publishers c with
            stage := .stopped
            mediaInfo := none }) ∨
        w' = w.setPublisher c { w.publishers c with
          stage := .stopped
          metaDataAlive := false }) := by
  unfold destruct at h
  dsimp only at h
  split at h
  · cases h
  · rename_i hend
    simp only [not_or, Nat.not_le] at hend
    refine ⟨hend.1, hend.2.1, by tauto, ?_⟩
    split at h
    · cases h
      exact Or.inr (Or.inr (Or.inr rfl))
    · cases h
      exact Or.inl rfl
    · rename_i s _ hown _
      cases h
      exact Or.inr (Or.inl ⟨hown, s, rfl⟩)
    · rename_i _ hown _
      cases h
      exact Or.inr (Or.inr (Or.inl ⟨hown, rfl⟩))

theorem pull_cases (w : Server R) (k : StreamKey) :
    w.pull k = w ∨ exists s, w.alive s = true ∧
      w.pull k = { w with pulling := s :: w.pulling } := by
  unfold pull
  split
  · rename_i s created hfind
    exact Or.inr ⟨s, (Registry.find_some hfind).2, rfl⟩
  · exact Or.inl rfl

end Effects

/-!
## The invariant
-/

section Ownership

variable {R : Type}

structure Shared (w : Server R) : Prop where
  bounded : forall c, w.accepted <= c -> w.publishers c = {}
  fresh : forall s, w.alive s = true -> s < w.sourceCount
  pulled : forall s, s ∈ w.pulling -> w.alive s = true
  holds : forall c s, (w.publishers c).Holds s -> w.alive s = true
  token : forall c, (w.publishers c).TokenOk
  unique : forall c d s, (w.publishers c).srcOwnership = some s ->
    (w.publishers d).srcOwnership = some s -> c = d
  owned : forall s, w.alive s = true -> ((w.sources s).owned = true <->
    exists c, (w.publishers c).srcOwnership = some s)

theorem start_shared : ({} : Server R).Shared where
  bounded := fun _ _ => rfl
  fresh := fun s h => by cases h
  pulled := fun s h => by cases h
  holds := fun c s h => by rcases h with h | h <;> cases h
  token := fun c => Or.inl rfl
  unique := fun c d s h => by cases h
  owned := fun s h => by cases h

namespace Shared

/-- A change of one connection that leaves its token alone. -/
theorem setPublisher {w : Server R} (h : w.Shared) {c : Nat}
    (hc : c < w.accepted) {p : Publisher} (htoken : p.TokenOk)
    (hown : p.srcOwnership = (w.publishers c).srcOwnership)
    (hholds : forall s, p.Holds s -> w.alive s = true) :
    (w.setPublisher c p).Shared := by
  have hsame : forall d, ((w.setPublisher c p).publishers d).srcOwnership =
      (w.publishers d).srcOwnership := by
    intro d
    by_cases hd : d = c
    · rw [hd, setPublisher_self]
      exact hown
    · rw [w.setPublisher_ne hd]
  refine ⟨?_, h.fresh, h.pulled, ?_, ?_, ?_, ?_⟩
  · intro d hd
    have hne : d ≠ c := fun heq => Nat.not_le.mpr hc (heq ▸ hd)
    rw [w.setPublisher_ne hne]
    exact h.bounded d hd
  · intro d s hs
    by_cases hd : d = c
    · rw [hd, setPublisher_self] at hs
      exact hholds s hs
    · rw [w.setPublisher_ne hd] at hs
      exact h.holds d s hs
  · intro d
    by_cases hd : d = c
    · rw [hd, setPublisher_self]
      exact htoken
    · rw [w.setPublisher_ne hd]
      exact h.token d
  · intro d e s hds hes
    rw [hsame] at hds hes
    exact h.unique d e s hds hes
  · intro s hs
    rw [show (w.setPublisher c p).sources = w.sources from rfl, h.owned s hs]
    simp only [hsame]

theorem destroy {w : Server R} (h : w.Shared) {s : SourcePtr}
    (hheld : w.held s = false) : (w.destroy s).Shared := by
  have hnone : forall c, ¬ (w.publishers c).Holds s := by
    intro c hs
    by_cases hc : c < w.accepted
    · cases hheld.symm.trans ((w.held_iff s).mpr (Or.inr ⟨c, hc, hs⟩))
    · rw [h.bounded c (Nat.le_of_not_lt hc)] at hs
      rcases hs with hs | hs <;> cases hs
  have halive := w.destroy_alive s
  refine ⟨h.bounded, ?_, ?_, ?_, h.token, h.unique, ?_⟩
  · intro r hr
    exact h.fresh r ((halive r).mp hr).2
  · intro r hr
    refine (halive r).mpr ⟨?_, h.pulled r hr⟩
    intro heq
    subst heq
    cases hheld.symm.trans ((w.held_iff r).mpr (Or.inl hr))
  · intro c r hr
    refine (halive r).mpr ⟨?_, h.holds c r hr⟩
    intro heq
    subst heq
    exact hnone c hr
  · intro r hr
    rcases (halive r).mp hr with ⟨hne, hold⟩
    rw [destroy_ne w hne]
    exact h.owned r hold

theorem dropPointer {w : Server R} (h : w.Shared) (r : Option SourcePtr) :
    (w.dropPointer r).Shared := by
  rcases w.dropPointer_cases r with hsame | ⟨s, _, hheld, hdestroy⟩
  · rw [hsame]
    exact h
  · rw [hdestroy]
    exact h.destroy hheld

/-- The handler throws where its token, if it has one, goes with its source. -/
theorem stop {w : Server R} (h : w.Shared) {c : Nat} (hc : c < w.accepted)
    (htoken : (w.publishers c).srcOwnership = none ∨
      (w.publishers c).srcOwnership = (w.publishers c).rtmpSource)
    (answer : Option Answer) :
    (w.setPublisher c { w.publishers c with
      stage := .stopped
      isOpen := false
      answer := answer }).Shared := by
  apply h.setPublisher hc
  · exact htoken
  · rfl
  · intro s hs
    rcases hs with hs | hs
    · exact h.holds c s (Or.inl hs)
    · cases hs

theorem fail {w : Server R} (h : w.Shared) {c : Nat} (hc : c < w.accepted)
    (htoken : (w.publishers c).srcOwnership = none ∨
      (w.publishers c).srcOwnership = (w.publishers c).rtmpSource) :
    (w.fail c).Shared :=
  (h.stop hc htoken (w.publishers c).answer).dropPointer _

theorem dropOwnership {w : Server R} (h : w.Shared) {c : Nat}
    (hc : c < w.accepted)
    (hstage : forall s, (w.publishers c).stage ≠ .won s)
    (hpushing : forall pkt, (w.publishers c).stage ≠ .pushing pkt) :
    (w.dropOwnership c).Shared := by
  rcases w.dropOwnership_rest c with ⟨haccepted, hpulling, _, _, hcount, _⟩
  have hself := w.dropOwnership_self c
  have hne := fun d (hd : d ≠ c) => w.dropOwnership_ne hd
  refine ⟨?_, ?_, ?_, ?_, ?_, ?_, ?_⟩
  · intro d hd
    rw [haccepted] at hd
    have hdc : d ≠ c := fun heq => Nat.not_le.mpr hc (heq ▸ hd)
    rw [hne d hdc]
    exact h.bounded d hd
  · intro s hs
    rw [dropOwnership_alive] at hs
    rw [hcount]
    exact h.fresh s hs
  · intro s hs
    rw [hpulling] at hs
    rw [dropOwnership_alive]
    exact h.pulled s hs
  · intro d s hs
    rw [dropOwnership_alive]
    by_cases hd : d = c
    · subst hd
      rw [hself] at hs
      exact h.holds d s hs
    · rw [hne d hd] at hs
      exact h.holds d s hs
  · intro d
    by_cases hd : d = c
    · subst hd
      rw [hself]
      unfold Publisher.TokenOk
      cases hst : (w.publishers d).stage with
      | won s => exact absurd hst (hstage s)
      | pushing pkt => exact absurd hst (hpushing pkt)
      | dropped s => rfl
      | idle | parsed | found r | stopped => exact Or.inl rfl
    · rw [hne d hd]
      exact h.token d
  · intro d e s hds hes
    have hd := (w.dropOwnership_holder c d s).mp hds
    have he := (w.dropOwnership_holder c e s).mp hes
    exact h.unique d e s hd.2 he.2
  · intro s hs
    rw [dropOwnership_alive] at hs
    by_cases hmine : (w.publishers c).srcOwnership = some s
    · rw [dropOwnership_cleared hmine hs]
      constructor
      · intro hfalse
        cases hfalse
      · intro hholder
        rcases hholder with ⟨d, hd⟩
        rcases (w.dropOwnership_holder c d s).mp hd with ⟨hdc, hd⟩
        exact absurd (h.unique d c s hd hmine) hdc
    · rw [dropOwnership_other hmine, h.owned s hs]
      constructor
      · intro hholder
        rcases hholder with ⟨d, hd⟩
        have hdc : d ≠ c := by
          intro heq
          rw [heq] at hd
          exact hmine hd
        exact ⟨d, (w.dropOwnership_holder c d s).mpr ⟨hdc, hd⟩⟩
      · intro hholder
        rcases hholder with ⟨d, hd⟩
        exact ⟨d, ((w.dropOwnership_holder c d s).mp hd).2⟩

theorem newSource {w : Server R} (h : w.Shared) (i : Nat) :
    (w.newSource i).Shared := by
  have hold := fun s (hs : s ≠ w.sourceCount) => w.newSource_ne i hs
  have hdead : w.alive w.sourceCount = false := by
    cases halive : w.alive w.sourceCount with
    | false => rfl
    | true => exact absurd (h.fresh _ halive) (Nat.lt_irrefl _)
  have hkeep : forall s, w.alive s = true ->
      s ≠ w.sourceCount ∧ (w.newSource i).alive s = true := by
    intro s hs
    have hne : s ≠ w.sourceCount := Nat.ne_of_lt (h.fresh s hs)
    refine ⟨hne, ?_⟩
    unfold alive
    rw [hold s hne]
    exact hs
  refine ⟨h.bounded, ?_, fun s hs => (hkeep s (h.pulled s hs)).2,
    fun c s hs => (hkeep s (h.holds c s hs)).2, h.token, h.unique, ?_⟩
  · intro s hs
    by_cases hne : s = w.sourceCount
    · rw [hne]
      exact Nat.lt_succ_self _
    · unfold alive at hs
      rw [hold s hne] at hs
      exact Nat.lt_succ_of_lt (h.fresh s hs)
  · intro s hs
    by_cases hne : s = w.sourceCount
    · subst hne
      have hnew : ((w.newSource i).sources w.sourceCount).owned = false := by
        rw [newSource_self]
      rw [hnew]
      constructor
      · intro hfalse
        cases hfalse
      · rintro ⟨c, hc⟩
        cases hdead.symm.trans (h.holds c _ ((h.token c).holds hc))
    · unfold alive at hs
      rw [hold s hne] at hs ⊢
      exact h.owned s hs

theorem takeOwnership {w : Server R} (h : w.Shared) {c : Nat}
    (hc : c < w.accepted) {s : SourcePtr} (hs : w.alive s = true)
    (hown : (w.publishers c).srcOwnership = none)
    (hfree : (w.sources s).owned = false) : (w.takeOwnership c s).Shared := by
  have hself := w.takeOwnership_self c s
  have hne := fun d (hd : d ≠ c) => w.takeOwnership_ne hd s
  have halive := w.takeOwnership_alive c s
  have hnobody : forall d, (w.publishers d).srcOwnership ≠ some s := by
    intro d hd
    cases hfree.symm.trans ((h.owned s hs).mpr ⟨d, hd⟩)
  refine ⟨?_, ?_, ?_, ?_, ?_, ?_, ?_⟩
  · intro d hd
    have hdc : d ≠ c := fun heq => Nat.not_le.mpr hc (heq ▸ hd)
    rw [hne d hdc]
    exact h.bounded d hd
  · intro r hr
    rw [halive] at hr
    exact h.fresh r hr
  · intro r hr
    rw [halive]
    exact h.pulled r hr
  · intro d r hr
    rw [halive]
    by_cases hd : d = c
    · subst hd
      rw [hself] at hr
      rcases hr with hr | hr
      · exact h.holds d r (Or.inl hr)
      · cases hr
        exact hs
    · rw [hne d hd] at hr
      exact h.holds d r hr
  · intro d
    by_cases hd : d = c
    · subst hd
      rw [hself]
      rfl
    · rw [hne d hd]
      exact h.token d
  · intro d e r hdr her
    rcases (w.takeOwnership_holder c s d r).mp hdr with ⟨hd, hr⟩ | ⟨_, hd⟩
    · rcases (w.takeOwnership_holder c s e r).mp her with ⟨he, _⟩ | ⟨_, he⟩
      · exact hd.trans he.symm
      · rw [hr] at he
        exact absurd he (hnobody e)
    · rcases (w.takeOwnership_holder c s e r).mp her with ⟨_, hr⟩ | ⟨_, he⟩
      · rw [hr] at hd
        exact absurd hd (hnobody d)
      · exact h.unique d e r hd he
  · intro r hr
    rw [halive] at hr
    by_cases hrs : r = s
    · subst hrs
      rw [takeOwnership_taken]
      refine ⟨fun _ => ⟨c, by rw [hself]⟩, fun _ => rfl⟩
    · rw [takeOwnership_kept w c hrs, h.owned r hr]
      constructor
      · intro hholder
        rcases hholder with ⟨d, hd⟩
        have hdc : d ≠ c := by
          intro heq
          rw [heq, hown] at hd
          cases hd
        exact ⟨d, (w.takeOwnership_holder c s d r).mpr (Or.inr ⟨hdc, hd⟩)⟩
      · intro hholder
        rcases hholder with ⟨d, hd⟩
        rcases (w.takeOwnership_holder c s d r).mp hd with ⟨_, heq⟩ | ⟨_, hd⟩
        · exact absurd heq hrs
        · exact ⟨d, hd⟩

theorem restore {w : Server R} (h : w.Shared) (s : SourcePtr)
    (g : Ingest Registry R) : (w.restore s g).Shared := by
  have halive := w.restore_alive s g
  refine ⟨h.bounded, ?_, ?_, ?_, h.token, h.unique, ?_⟩
  · intro r hr
    rw [halive] at hr
    exact h.fresh r hr
  · intro r hr
    rw [halive]
    exact h.pulled r hr
  · intro c r hr
    rw [halive]
    exact h.holds c r hr
  · intro r hr
    rw [halive] at hr
    rw [restore_owned]
    exact h.owned r hr

end Shared

/-!
## Every step keeps it
-/

theorem Shared.withInfos {w : Server R} (h : w.Shared) (infos : Nat -> MediaInfo)
    (n : Nat) : { w with infos := infos, infoCount := n }.Shared :=
  ⟨h.bounded, h.fresh, h.pulled, h.holds, h.token, h.unique, h.owned⟩

theorem Shared.withPackets {w : Server R} (h : w.Shared)
    (packets : List RtmpPacket) : { w with packets := packets }.Shared :=
  ⟨h.bounded, h.fresh, h.pulled, h.holds, h.token, h.unique, h.owned⟩

theorem badName_shared {w : Server R} (hw : w.Shared) {c : Nat}
    (hc : c < w.accepted) (hstage : forall s, (w.publishers c).stage ≠ .won s) :
    (w.badName c).Shared := by
  rw [badName_eq]
  exact (hw.stop hc ((hw.token c).settled hstage) _).dropPointer _

theorem callSource_shared {w : Server R} (hw : w.Shared) {c : Nat}
    (hc : c < w.accepted) (hstage : forall s, (w.publishers c).stage ≠ .won s)
    (s : SourcePtr) (call : RtmpMediaSource.Call Registry R PUnit) :
    (w.callSource c s call).Shared := by
  unfold callSource
  split
  · exact hw.restore s _
  · exact (hw.restore s _).fail hc ((hw.token c).settled hstage)

theorem connect_shared {w w' : Server R} (hw : w.Shared) {c : Nat}
    (hc : c < w.accepted) {app tcUrl : Bytes}
    (h : w.connect c app tcUrl = some w') : w'.Shared := by
  rcases connect_cases h with ⟨hstage, info, created, hcreated, hw'⟩
  have hcreate : (w.setPublisher c
      { w.publishers c with mediaInfo := some w.infoCount }).Shared :=
    hw.setPublisher hc (hw.token c) rfl fun s hs => hw.holds c s hs
  have hshared : created.Shared := by
    rw [hcreated]
    exact hcreate.withInfos _ _
  rcases hw' with hdone | hthrown
  · rw [hdone]
    exact hshared
  · rw [hthrown]
    apply hshared.fail
    · rw [hcreated]
      exact hc
    · rw [hcreated]
      show ((w.setPublisher c _).publishers c).srcOwnership = none ∨
        ((w.setPublisher c _).publishers c).srcOwnership =
          ((w.setPublisher c _).publishers c).rtmpSource
      rw [setPublisher_self]
      exact (hw.token c).settled (by rw [hstage]; nofun)

theorem publish_shared {w w' : Server R} (hw : w.Shared) {c : Nat}
    (hc : c < w.accepted) {stream : Bytes}
    (h : w.publish c stream = some w') : w'.Shared := by
  rcases publish_cases h with ⟨i, hstage, _, ⟨_, hw'⟩ | ⟨info, _, hw'⟩⟩
  · have hanswer : (w.setPublisher c
        { w.publishers c with answer := none }).Shared :=
      hw.setPublisher hc (hw.token c) rfl fun s hs => hw.holds c s hs
    rw [hw']
    apply hanswer.fail hc
    rw [setPublisher_self]
    exact (hw.token c).settled (by rw [hstage]; nofun)
  · have hparsed : (w.setPublisher c { w.publishers c with
        answer := none
        stage := .parsed }).Shared := by
      apply hw.setPublisher hc
      · exact (hw.token c).settled (by rw [hstage]; nofun)
      · rfl
      · intro s hs
        rcases hs with hs | hs
        · exact hw.holds c s (Or.inl hs)
        · cases hs
    rw [hw']
    exact hparsed.withInfos _ w.infoCount

theorem findSource_shared {w : Server R} (hw : w.Shared) {c i : Nat}
    (hc : c < w.accepted) (hstage : (w.publishers c).stage = .parsed) :
    (w.findSource c i).Shared := by
  have htoken := (hw.token c).settled (by rw [hstage]; nofun)
  unfold findSource
  split
  · exact hw.fail hc htoken
  · rename_i mediaPtr created hfind
    apply hw.setPublisher hc
    · exact htoken
    · rfl
    · intro s hs
      rcases hs with hs | hs
      · exact hw.holds c s (Or.inl hs)
      · change mediaPtr = some s at hs
        rw [hs] at hfind
        exact (Registry.find_some hfind).2

theorem createSource_shared {w : Server R} (hw : w.Shared) {c i : Nat}
    (hc : c < w.accepted) (hstage : (w.publishers c).stage = .found none) :
    (w.createSource c i).Shared := by
  unfold createSource
  split
  · have hnew := hw.newSource i
    have hdropped := hnew.dropOwnership hc
      (by rw [show (w.newSource i).publishers = w.publishers from rfl, hstage]; nofun)
      (by rw [show (w.newSource i).publishers = w.publishers from rfl, hstage]; nofun)
    rcases (w.newSource i).dropOwnership_rest c with ⟨haccepted, _⟩
    apply hdropped.takeOwnership
    · rw [haccepted]
      exact hc
    · rw [dropOwnership_alive]
      unfold alive
      rw [newSource_self]
    · rw [dropOwnership_self]
    · have hnone : ((w.newSource i).publishers c).srcOwnership ≠
          some w.sourceCount := by
        intro hown
        have halive := hw.holds c _ ((hw.token c).holds hown)
        exact absurd (hw.fresh _ halive) (Nat.lt_irrefl _)
      have hkept : ((w.newSource i).dropOwnership c).sources w.sourceCount =
          (w.newSource i).sources w.sourceCount :=
        dropOwnership_other hnone
      rw [hkept, newSource_self]
  · exact badName_shared hw hc (by rw [hstage]; nofun)

theorem reconnect_shared {w : Server R} (hw : w.Shared) {c : Nat}
    (hc : c < w.accepted) {s : SourcePtr}
    (hstage : (w.publishers c).stage = .found (some s)) :
    (w.reconnect c s).Shared := by
  have hdropped := hw.dropOwnership hc (by rw [hstage]; nofun)
    (by rw [hstage]; nofun)
  rcases w.dropOwnership_rest c with ⟨haccepted, _⟩
  have hself := w.dropOwnership_self c
  apply hdropped.setPublisher (haccepted.symm ▸ hc)
  · show ((w.dropOwnership c).publishers c).srcOwnership = none
    rw [hself]
  · rfl
  · intro r hr
    rw [dropOwnership_alive]
    rw [hself] at hr
    rcases hr with hr | hr
    · exact hw.holds c r (Or.inl hr)
    · cases hr
      exact hw.holds c s (Or.inr (by rw [hstage]; rfl))

theorem getOwnership_shared {w : Server R} (hw : w.Shared) {c : Nat}
    (hc : c < w.accepted) {s : SourcePtr}
    (hstage : (w.publishers c).stage = .dropped s) :
    (w.getOwnership c s).Shared := by
  have htoken := hw.token c
  unfold Publisher.TokenOk at htoken
  rw [hstage] at htoken
  unfold getOwnership
  split
  · exact badName_shared hw hc (by rw [hstage]; nofun)
  · rename_i hfree
    exact hw.takeOwnership hc (hw.holds c s (Or.inr (by rw [hstage]; rfl)))
      htoken (Bool.eq_false_iff.mpr hfree)

/-- Before the pointer to the old source goes. -/
theorem started_shared {w : Server R} (hw : w.Shared) {c : Nat}
    (hc : c < w.accepted) {s : SourcePtr}
    (hstage : (w.publishers c).stage = .won s) (answer : Option Answer) :
    (w.setPublisher c { w.publishers c with
      rtmpSource := some s
      stage := .idle
      answer := answer }).Shared := by
  have htoken := hw.token c
  unfold Publisher.TokenOk at htoken
  rw [hstage] at htoken
  apply hw.setPublisher hc
  · exact Or.inr htoken
  · rfl
  · intro r hr
    rcases hr with hr | hr
    · cases hr
      exact hw.holds c s (Or.inr (by rw [hstage]; rfl))
    · cases hr

theorem startPublish_shared {w : Server R} (hw : w.Shared) {c i : Nat}
    (hc : c < w.accepted) {s : SourcePtr}
    (hstage : (w.publishers c).stage = .won s) :
    (w.startPublish c i s).Shared :=
  (started_shared hw hc hstage _).dropPointer _

theorem publishNext_shared {w w' : Server R} (hw : w.Shared) {c : Nat}
    (hc : c < w.accepted) (h : w.publishNext c = some w') : w'.Shared := by
  rcases publishNext_cases h with ⟨i, _, hadvance⟩
  cases hadvance with
  | find hstage => exact findSource_shared hw hc hstage
  | create hstage => exact createSource_shared hw hc hstage
  | reconnect s hstage => exact reconnect_shared hw hc hstage
  | getOwnership s hstage => exact getOwnership_shared hw hc hstage
  | start s hstage => exact startPublish_shared hw hc hstage

theorem processMetadata_shared {w w' : Server R} (hw : w.Shared) {c : Nat}
    (hc : c < w.accepted) {entries : Metadata}
    (h : w.processMetadata c entries = some w') : w'.Shared := by
  rcases processMetadata_cases h with ⟨hstage, metaData, kept, _, hkept, hw'⟩
  have hkeep : kept.Shared := by
    rw [hkept]
    exact hw.setPublisher hc (hw.token c) rfl fun s hs => hw.holds c s hs
  have hself : kept.publishers c =
      { w.publishers c with metaData := metaData } := by
    rw [hkept, setPublisher_self]
  have haccepted : c < kept.accepted := by
    rw [hkept]
    exact hc
  rcases hw' with ⟨_, hw'⟩ | ⟨s, _, hw'⟩
  · rw [hw']
    apply hkeep.fail haccepted
    rw [hself]
    exact (hw.token c).settled (by rw [hstage]; nofun)
  · rw [hw']
    apply callSource_shared hkeep haccepted
    rw [hself]
    dsimp only
    rw [hstage]
    nofun

theorem checkAv_shared {w w' : Server R} (hw : w.Shared) {c : Nat}
    (hc : c < w.accepted) {pkt : RtmpPacket}
    (h : w.checkAv c pkt = some w') : w'.Shared := by
  rcases checkAv_cases h with ⟨hstage, hw' | ⟨hown, hw'⟩⟩
  · rw [hw']
    exact hw.fail hc ((hw.token c).settled (by rw [hstage]; nofun))
  · have hidle := (hw.token c).settled (by rw [hstage]; nofun)
    rw [hw']
    apply hw.setPublisher hc
    · exact ⟨hown, hidle.resolve_left hown⟩
    · rfl
    · intro s hs
      rcases hs with hs | hs
      · exact hw.holds c s (Or.inl hs)
      · cases hs

theorem processAv_shared [DecidableEq R]
    {h264DecSeqParameterSet : Bytes -> Bool} {w w' : Server R} (hw : w.Shared)
    {c : Nat} (hc : c < w.accepted)
    (h : w.processAv h264DecSeqParameterSet c = some w') : w'.Shared := by
  rcases processAv_cases h with ⟨pkt, s, pushed, hstage, _, hpushed, hw'⟩
  have hidle : (w.setPublisher c
      { w.publishers c with stage := .idle }).Shared := by
    apply hw.setPublisher hc
    · exact (hw.token c).settled (by rw [hstage]; nofun)
    · rfl
    · intro r hr
      rcases hr with hr | hr
      · exact hw.holds c r (Or.inl hr)
      · cases hr
  rw [hw', hpushed]
  apply callSource_shared (hidle.withPackets _) hc
  show forall r, ((w.setPublisher c _).publishers c).stage ≠ .won r
  rw [setPublisher_self]
  nofun

theorem destruct_shared {w w' : Server R} (hw : w.Shared) {c : Nat}
    (h : w.destruct c = some w') : w'.Shared := by
  rcases destruct_cases h with ⟨hc, _, hstage, hend⟩
  have htoken : (w.publishers c).srcOwnership = none ∨
      (w.publishers c).srcOwnership = (w.publishers c).rtmpSource := by
    apply (hw.token c).settled
    rcases hstage with hidle | hstopped
    · rw [hidle]
      nofun
    · rw [hstopped]
      nofun
  have hpointer : forall p : Publisher, p.stage = .stopped ->
      (p.rtmpSource = none ∨ p.rtmpSource = (w.publishers c).rtmpSource) ->
        forall s, p.Holds s -> w.alive s = true := by
    intro p hp hsource s hs
    rcases hs with hs | hs
    · rcases hsource with hnone | hsame
      · cases hnone.symm.trans hs
      · exact hw.holds c s (Or.inl (hsame.symm.trans hs))
    · rw [hp] at hs
      cases hs
  rcases hend with hw' | ⟨hown, s, hw'⟩ | ⟨hown, hw'⟩ | hw'
  · have hstopped : (w.setPublisher c
        { w.publishers c with stage := .stopped }).Shared :=
      hw.setPublisher hc htoken rfl (hpointer _ rfl (Or.inr rfl))
    rw [hw']
    apply hstopped.dropOwnership hc
    · rw [setPublisher_self]
      nofun
    · rw [setPublisher_self]
      nofun
  · rw [hw']
    apply Shared.dropPointer
    exact hw.setPublisher hc (Or.inl hown) rfl (hpointer _ rfl (Or.inl rfl))
  · rw [hw']
    exact hw.setPublisher hc (Or.inl hown) rfl (hpointer _ rfl (Or.inr rfl))
  · rw [hw']
    exact hw.setPublisher hc htoken rfl (hpointer _ rfl (Or.inr rfl))

theorem pull_shared {w : Server R} (hw : w.Shared) (k : StreamKey) :
    (w.pull k).Shared := by
  rcases w.pull_cases k with hsame | ⟨s, halive, hpulled⟩
  · rw [hsame]
    exact hw
  · rw [hpulled]
    refine ⟨hw.bounded, hw.fresh, ?_, hw.holds, hw.token, hw.unique, hw.owned⟩
    intro r hr
    rcases List.mem_cons.mp hr with heq | hold
    · rw [heq]
      exact halive
    · exact hw.pulled r hold

theorem letGo_shared {w : Server R} (hw : w.Shared) (i : Nat) :
    (w.letGo i).Shared := by
  apply Shared.dropPointer
  exact ⟨hw.bounded, hw.fresh, fun s hs => hw.pulled s (List.eraseIdx_subset hs),
    hw.holds, hw.token, hw.unique, hw.owned⟩

theorem step_shared [DecidableEq R] {h264DecSeqParameterSet : Bytes -> Bool}
    {w w' : Server R} {e : ServerEvent} (hw : w.Shared)
    (h : w.step h264DecSeqParameterSet e = some w') : w'.Shared := by
  rcases step_cases h with ⟨haccepted, h⟩
  cases e with
  | accept =>
      cases h
      exact ⟨fun c hc => hw.bounded c (Nat.le_of_succ_le hc), hw.fresh,
        hw.pulled, hw.holds, hw.token, hw.unique, hw.owned⟩
  | connect c app tcUrl => exact connect_shared hw (haccepted c rfl) h
  | publish c stream => exact publish_shared hw (haccepted c rfl) h
  | publishNext c => exact publishNext_shared hw (haccepted c rfl) h
  | metadata c entries => exact processMetadata_shared hw (haccepted c rfl) h
  | av c pkt => exact checkAv_shared hw (haccepted c rfl) h
  | process c => exact processAv_shared hw (haccepted c rfl) h
  | malformed c =>
      rcases Option.ite_none_right_eq_some.mp h with ⟨hstage, hw'⟩
      cases hw'
      exact hw.fail (haccepted c rfl)
        ((hw.token c).settled (by rw [hstage]; nofun))
  | close c =>
      cases h
      exact hw.setPublisher (haccepted c rfl) (hw.token c) rfl
        fun s hs => hw.holds c s hs
  | destruct c => exact destruct_shared hw h
  | pull k =>
      cases h
      exact pull_shared hw k
  | letGo i =>
      cases h
      exact letGo_shared hw i

/-!
## One writer
-/

/-- The check in `handle_chunk` would let audio and video of the connection
through to the source. -/
def Passes (w : Server R) (c : Nat) (s : SourcePtr) : Prop :=
  (w.publishers c).rtmpSource = some s ∧ (w.publishers c).srcOwnership ≠ none

/-- The connection is in a call of `process_av_packet` of the source. -/
def Feeds (w : Server R) (c : Nat) (s : SourcePtr) : Prop :=
  (w.publishers c).rtmpSource = some s ∧
    exists pkt, (w.publishers c).stage = .pushing pkt

structure OneWriter (w : Server R) (s : SourcePtr) : Prop where
  token : forall c d, (w.publishers c).srcOwnership = some s ->
    (w.publishers d).srcOwnership = some s -> c = d
  owned : w.alive s = true -> ((w.sources s).owned = true <->
    exists c, (w.publishers c).srcOwnership = some s)
  /-- The check is not made between the two assignments of `on_amf_publish`. -/
  guard : forall c, (forall r, (w.publishers c).stage ≠ .won r) ->
    w.Passes c s -> (w.publishers c).srcOwnership = some s
  passes : forall c d, (forall r, (w.publishers c).stage ≠ .won r) ->
    (forall r, (w.publishers d).stage ≠ .won r) ->
      w.Passes c s -> w.Passes d s -> c = d
  feeds : forall c d, w.Feeds c s -> w.Feeds d s -> c = d

/--
At every moment of every run, a source has one token at most, and `owned_` is set
exactly while it has one; a connection that passes the check for the source has
that token, so that no two connections pass it or feed the source.
-/
theorem one_writer [DecidableEq R] {h264DecSeqParameterSet : Bytes -> Bool}
    {es : List ServerEvent} {w : Server R}
    (h : run (step h264DecSeqParameterSet) {} es = some w) (s : SourcePtr) :
    w.OneWriter s := by
  have hw : w.Shared := run_keeps step_shared start_shared h
  have hpasses : forall c, (forall r, (w.publishers c).stage ≠ .won r) ->
      w.Passes c s -> (w.publishers c).srcOwnership = some s := by
    intro c hstage hpass
    rcases (hw.token c).settled hstage with hnone | hsame
    · exact absurd hnone hpass.2
    · exact hsame.trans hpass.1
  have hfeeds : forall c, w.Feeds c s ->
      (w.publishers c).srcOwnership = some s := by
    rintro c ⟨hsource, pkt, hstage⟩
    have htoken := hw.token c
    unfold Publisher.TokenOk at htoken
    rw [hstage] at htoken
    exact htoken.2.trans hsource
  refine ⟨fun c d => hw.unique c d s, hw.owned s, hpasses, ?_, ?_⟩
  · intro c d hc hd hpassc hpassd
    exact hw.unique c d s (hpasses c hc hpassc) (hpasses d hd hpassd)
  · intro c d hfeedc hfeedd
    exact hw.unique c d s (hfeeds c hfeedc) (hfeeds d hfeedd)

/-- One connection publishes, then another one begins. -/
def twoPublishers : List ServerEvent :=
  [.accept, .accept, .connect 0 [97] [116], .connect 1 [97] [116],
    .publish 0 liveStream, .publishNext 0, .publishNext 0, .publishNext 0,
    .publish 1 liveStream, .publishNext 1]

theorem one_writer_two :
    exists w : Server Nat, run (step fun _ => true) {} twoPublishers = some w ∧
      w.OneWriter 0 :=
  ⟨(run (step fun _ => true) {} twoPublishers).get (by decide +kernel),
    (Option.some_get _).symm, one_writer (Option.some_get _).symm 0⟩

end Ownership

end Server

end Rtmp
end Streaming
