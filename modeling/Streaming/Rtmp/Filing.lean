import Streaming.Rtmp.Ownership

/-!
# What the registry says of the sources

An entry is found again by the media information of its source, which belongs to
the connection as well.  As long as no publish command changes the key in it
while the source is registered, the registry stays true to the sources.
-/

namespace Streaming
namespace Rtmp

open Foundation Media RtmpMediaSource Util

namespace Server

section Filing

variable {R : Type}

/-- The registry and the sources agree. -/
structure Consistent (w : Server R) : Prop where
  entry : forall k s, w.registry.entry k = some s ->
    w.alive s = true ∧ w.isRegistered s = true ∧ w.keyOf s = k
  filed : forall s, w.alive s = true -> w.isRegistered s = true ->
    w.registry.entry (w.keyOf s) = some s
  noneEmpty : NestedMap.NoneEmpty w.registry
  find : forall k s created, w.registry.find w.alive k = .ok (s, created) ->
    s.isSome = created

/-- The entries decide what `find` returns. -/
theorem find_created {w : Server R}
    (hentry : forall k s, w.registry.entry k = some s -> w.alive s = true)
    {k : StreamKey} {s : Option SourcePtr} {created : Bool}
    (h : w.registry.find w.alive k = .ok (s, created)) :
    s.isSome = created := by
  rcases Registry.find_ok h with ⟨hcreated, hs⟩
  rw [hcreated, hs]
  cases hk : w.registry.entry k with
  | none => rfl
  | some r => simp [Option.filter, hentry k r hk]

/-- A call leaves registry and flags as they are, or the source registers. -/
theorem enrolled_cases {w : Server R} {s : SourcePtr} {g : Ingest Registry R}
    (h : Enrolled (w.registSource s) (w.ingest s) g) :
    ((w.restore s g).registry = w.registry ∧
      forall r, (w.restore s g).isRegistered r = w.isRegistered r) ∨
    (w.isRegistered s = false ∧ (w.restore s g).isRegistered s = true ∧
      w.registSource s w.registry = .ok (some (w.restore s g).registry) ∧
      (w.restore s g).registry.entry (w.keyOf s) = some s ∧
      (forall k, k ≠ w.keyOf s ->
        (w.restore s g).registry.entry k = w.registry.entry k) ∧
      forall r, w.registry.entry (w.keyOf s) = some r ->
        w.alive r = false) := by
  rcases h with ⟨hsame, hflag⟩ | ⟨hbefore, hdone, hregist⟩
  · refine Or.inl ⟨hsame, ?_⟩
    intro r
    by_cases hr : r = s
    · rw [hr, restore_isRegistered_self, hflag]
      rfl
    · exact w.restore_isRegistered_ne hr g
  · rcases Registry.regist_ok hregist with ⟨hentry, hrest, hmine⟩
    right
    refine ⟨hbefore, ?_, hregist, hentry, hrest, hmine⟩
    rw [restore_isRegistered_self]
    exact hdone

/-- What is kept besides. -/
structure Filed (w : Server R) : Prop extends w.Consistent where
  known : forall c i, (w.publishers c).mediaInfo = some i -> i < w.infoCount
  described : forall s, w.alive s = true -> (w.sources s).info < w.infoCount

theorem start_filed : ({} : Server R).Filed where
  entry := fun k s h => by
    cases (Registry.empty_entry k).symm.trans h
  filed := fun s h => by cases h
  noneEmpty := NestedMap.noneEmpty_empty 3
  find := fun k s created h => by
    apply find_created _ h
    intro k s hs
    cases (Registry.empty_entry k).symm.trans hs
  known := fun c i h => by cases h
  described := fun s h => by cases h

namespace Filed

/-- Nothing changes that the registry has to do with. -/
theorem congr {w : Server R} (h : w.Filed) (w' : Server R)
    (hpublishers : forall c,
      (w'.publishers c).mediaInfo = (w.publishers c).mediaInfo ∨
        (w'.publishers c).mediaInfo = none)
    (halive : forall s, w'.alive s = w.alive s)
    (hinfo : forall s, (w'.sources s).info = (w.sources s).info)
    (hregistered : forall s, w'.isRegistered s = w.isRegistered s)
    (hinfos : w'.infos = w.infos) (hcount : w'.infoCount = w.infoCount)
    (hregistry : w'.registry = w.registry) : w'.Filed := by
  have hkey : forall s, w'.keyOf s = w.keyOf s := by
    intro s
    unfold keyOf
    rw [hinfos, hinfo]
  have hentry : forall k s, w'.registry.entry k = some s ->
      w'.alive s = true ∧ w'.isRegistered s = true ∧ w'.keyOf s = k := by
    intro k s hs
    rw [hregistry] at hs
    rw [halive, hregistered, hkey]
    exact h.entry k s hs
  refine ⟨⟨hentry, ?_, ?_, ?_⟩, ?_, ?_⟩
  · intro s hs hs'
    rw [halive] at hs
    rw [hregistered] at hs'
    rw [hregistry, hkey]
    exact h.filed s hs hs'
  · rw [hregistry]
    exact h.noneEmpty
  · intro k s created hfind
    exact find_created (fun k s hs => (hentry k s hs).1) hfind
  · intro c i hi
    rw [hcount]
    rcases hpublishers c with hsame | hnone
    · exact h.known c i (hsame.symm.trans hi)
    · cases hnone.symm.trans hi
  · intro s hs
    rw [halive] at hs
    rw [hcount, hinfo]
    exact h.described s hs

theorem setPublisher {w : Server R} (h : w.Filed) (c : Nat) {p : Publisher}
    (hinfo : p.mediaInfo = (w.publishers c).mediaInfo ∨ p.mediaInfo = none) :
    (w.setPublisher c p).Filed := by
  apply h.congr (w.setPublisher c p) _ (fun _ => rfl) (fun _ => rfl)
    (fun _ => rfl) rfl rfl rfl
  intro d
  by_cases hd : d = c
  · rw [hd, setPublisher_self]
    exact hinfo
  · rw [w.setPublisher_ne hd]
    exact Or.inl rfl

theorem dropOwnership {w : Server R} (h : w.Filed) (c : Nat) :
    (w.dropOwnership c).Filed := by
  rcases w.dropOwnership_rest c with ⟨_, _, hinfos, hcount, _, hregistry⟩
  apply h.congr (w.dropOwnership c) _ (w.dropOwnership_alive c) _ _ hinfos
    hcount hregistry
  · intro d
    by_cases hd : d = c
    · rw [hd, dropOwnership_self]
      exact Or.inl rfl
    · rw [w.dropOwnership_ne hd]
      exact Or.inl rfl
  · intro s
    rcases w.dropOwnership_source c s with ⟨owned, hsource⟩
    rw [hsource]
  · intro s
    rcases w.dropOwnership_source c s with ⟨owned, hsource⟩
    unfold isRegistered
    rw [hsource]

theorem takeOwnership {w : Server R} (h : w.Filed) (c : Nat) (s : SourcePtr) :
    (w.takeOwnership c s).Filed := by
  have hsource := w.takeOwnership_source c s
  apply h.congr (w.takeOwnership c s) _ (w.takeOwnership_alive c s) _ _ rfl rfl
    rfl
  · intro d
    by_cases hd : d = c
    · rw [hd, takeOwnership_self]
      exact Or.inl rfl
    · rw [w.takeOwnership_ne hd]
      exact Or.inl rfl
  · intro r
    rcases hsource r with ⟨owned, hr⟩
    rw [hr]
  · intro r
    rcases hsource r with ⟨owned, hr⟩
    unfold isRegistered
    rw [hr]

/-- A source that dies takes its entry with it, and no other. -/
theorem destroy {w : Server R} (h : w.Filed) (s : SourcePtr) :
    (w.destroy s).Filed := by
  have hother := fun r (hr : r ≠ s) => w.destroy_ne hr
  have hkeys : forall r, r ≠ s ->
      (w.destroy s).alive r = w.alive r ∧
        (w.destroy s).isRegistered r = w.isRegistered r ∧
          (w.destroy s).keyOf r = w.keyOf r := by
    intro r hr
    unfold alive isRegistered keyOf
    rw [hother r hr]
    exact ⟨rfl, rfl, rfl⟩
  have hlive := fun r => (w.destroy_alive s r).mp
  have hentry : forall k r, (w.destroy s).registry.entry k = some r ->
      (w.destroy s).alive r = true ∧ (w.destroy s).isRegistered r = true ∧
        (w.destroy s).keyOf r = k := by
    intro k r hr
    rcases Registry.eraseMediaSource_entry.mp hr with ⟨hold, hkept⟩
    have hr' := h.entry k r hold
    have hne : r ≠ s := by
      intro heq
      subst heq
      exact (hkept hr'.2.2.symm).2 rfl
    rcases hkeys r hne with ⟨h₁, h₂, h₃⟩
    rw [h₁, h₂, h₃]
    exact hr'
  refine ⟨⟨hentry, ?_, ?_, ?_⟩, h.known, ?_⟩
  · intro r hr hregistered
    rcases hlive r hr with ⟨hne, halive⟩
    rcases hkeys r hne with ⟨_, h₂, h₃⟩
    rw [h₂] at hregistered
    rw [h₃]
    exact Registry.eraseMediaSource_entry.mpr
      ⟨h.filed r halive hregistered, fun _ => ⟨halive, hne⟩⟩
  · exact Registry.eraseMediaSource_noneEmpty h.noneEmpty w.alive s (w.keyOf s)
  · intro k r created hfind
    exact find_created (fun k r hr => (hentry k r hr).1) hfind
  · intro r hr
    rcases hlive r hr with ⟨hne, halive⟩
    rw [hother r hne]
    exact h.described r halive

theorem dropPointer {w : Server R} (h : w.Filed) (r : Option SourcePtr) :
    (w.dropPointer r).Filed := by
  rcases w.dropPointer_cases r with hsame | ⟨s, _, _, hdestroy⟩
  · rw [hsame]
    exact h
  · rw [hdestroy]
    exact h.destroy s

theorem fail {w : Server R} (h : w.Filed) (c : Nat) : (w.fail c).Filed := by
  apply dropPointer
  apply h.setPublisher
  exact Or.inl rfl

theorem newSource {w : Server R} (h : w.Filed) (hw : w.Shared) {i : Nat}
    (hi : i < w.infoCount) : (w.newSource i).Filed := by
  have hnew := w.newSource_self i
  have hdead : w.alive w.sourceCount ≠ true :=
    fun halive => absurd (hw.fresh _ halive) (Nat.lt_irrefl _)
  have hother := fun s (hs : s ≠ w.sourceCount) => w.newSource_ne i hs
  have hkeys : forall s, s ≠ w.sourceCount ->
      (w.newSource i).alive s = w.alive s ∧
        (w.newSource i).isRegistered s = w.isRegistered s ∧
          (w.newSource i).keyOf s = w.keyOf s := by
    intro s hs
    unfold alive isRegistered keyOf
    rw [hother s hs]
    exact ⟨rfl, rfl, rfl⟩
  have hentry : forall k s, (w.newSource i).registry.entry k = some s ->
      (w.newSource i).alive s = true ∧ (w.newSource i).isRegistered s = true ∧
        (w.newSource i).keyOf s = k := by
    intro k s hs
    have hold := h.entry k s hs
    have hne : s ≠ w.sourceCount := by
      intro heq
      subst heq
      exact hdead hold.1
    rcases hkeys s hne with ⟨h₁, h₂, h₃⟩
    rw [h₁, h₂, h₃]
    exact hold
  refine ⟨⟨hentry, ?_, h.noneEmpty, ?_⟩, h.known, ?_⟩
  · intro s hs hregistered
    by_cases hne : s = w.sourceCount
    · subst hne
      unfold isRegistered at hregistered
      rw [hnew] at hregistered
      cases hregistered
    · rcases hkeys s hne with ⟨h₁, h₂, h₃⟩
      rw [h₁] at hs
      rw [h₂] at hregistered
      rw [h₃]
      exact h.filed s hs hregistered
  · intro k s created hfind
    exact find_created (fun k s hs => (hentry k s hs).1) hfind
  · intro s hs
    by_cases hne : s = w.sourceCount
    · rw [hne, hnew]
      exact hi
    · rw [(hkeys s hne).1] at hs
      rw [hother s hne]
      exact h.described s hs

/-- A call of a source's function, which may register it. -/
theorem restore {w : Server R} (h : w.Filed) {s : SourcePtr}
    (hs : w.alive s = true) {g : Ingest Registry R}
    (hg : Enrolled (w.registSource s) (w.ingest s) g) :
    (w.restore s g).Filed := by
  have halive := w.restore_alive s g
  have hinfo := w.restore_info s g
  have hkey := w.restore_keyOf s g
  have hregistered := fun r (hr : r ≠ s) => w.restore_isRegistered_ne hr g
  rcases enrolled_cases hg with
    ⟨hsame, hflags⟩ | ⟨_, hdone, hregist, hentry, hrest, hmine⟩
  · exact h.congr (w.restore s g) (fun _ => Or.inl rfl) halive hinfo hflags rfl
      rfl hsame
  · have hentries : forall k r, (w.restore s g).registry.entry k = some r ->
        (w.restore s g).alive r = true ∧
          (w.restore s g).isRegistered r = true ∧
            (w.restore s g).keyOf r = k := by
      intro k r hr
      rw [halive, hkey]
      by_cases hk : k = w.keyOf s
      · rw [hk, hentry] at hr
        cases hr
        exact ⟨hs, hdone, hk.symm⟩
      · rw [hrest k hk] at hr
        have hold := h.entry k r hr
        have hne : r ≠ s := by
          intro heq
          subst heq
          exact hk hold.2.2.symm
        rw [hregistered r hne]
        exact hold
    refine ⟨⟨hentries, ?_, ?_, ?_⟩, h.known, ?_⟩
    · intro r hr hr'
      rw [halive] at hr
      rw [hkey]
      by_cases hne : r = s
      · rw [hne]
        exact hentry
      · rw [hregistered r hne] at hr'
        have hold := h.filed r hr hr'
        by_cases hk : w.keyOf r = w.keyOf s
        · rw [hk] at hold
          cases hr.symm.trans (hmine r hold)
        · rw [hrest _ hk]
          exact hold
    · exact Registry.regist_noneEmpty h.noneEmpty hregist
    · intro k r created hfind
      exact find_created (fun k r hr => (hentries k r hr).1) hfind
    · intro r hr
      rw [halive] at hr
      rw [hinfo]
      exact h.described r hr

theorem callSource {w : Server R} (h : w.Filed) (c : Nat) {s : SourcePtr}
    (hs : w.alive s = true) {call : Call Registry R PUnit}
    (hcall : Leads (Enrolled (w.registSource s)) call) :
    (w.callSource c s call).Filed := by
  have hlead := hcall (w.ingest s)
  unfold Server.callSource
  split
  · rename_i u g hok
    rw [hok] at hlead
    exact h.restore hs hlead
  · rename_i what g herror
    rw [herror] at hlead
    exact (h.restore hs hlead).fail c

/-- The media information of a new connect command. -/
theorem newInfo {w : Server R} (h : w.Filed) (c : Nat) (info : MediaInfo) :
    { w.setPublisher c
        { w.publishers c with mediaInfo := some w.infoCount } with
      infos := Function.update w.infos w.infoCount info
      infoCount := w.infoCount + 1 }.Filed := by
  have hkey : forall s, w.alive s = true ->
      (Function.update w.infos w.infoCount info (w.sources s).info).key =
        w.keyOf s := by
    intro s hs
    rw [Function.update_of_ne (Nat.ne_of_lt (h.described s hs))]
    rfl
  refine ⟨⟨?_, ?_, h.noneEmpty, h.find⟩, ?_, ?_⟩
  · intro k s hs
    rcases h.entry k s hs with ⟨halive, hregistered, hk⟩
    exact ⟨halive, hregistered, (hkey s halive).trans hk⟩
  · intro s hs hregistered
    have hold := h.filed s hs hregistered
    rw [← hkey s hs] at hold
    exact hold
  · intro d i hi
    by_cases hd : d = c
    · subst hd
      rw [show _ = _ from setPublisher_self w d _] at hi
      cases hi
      exact Nat.lt_succ_self _
    · rw [show _ = _ from setPublisher_ne w hd _] at hi
      exact Nat.lt_succ_of_lt (h.known d i hi)
  · intro s hs
    exact Nat.lt_succ_of_lt (h.described s hs)

end Filed

/-!
## Steps that keep the keys
-/

/-- A publish command leaves the key in the media information of a connection as
it is while a source is registered with it. -/
def KeepsKey (w : Server R) : ServerEvent -> Prop
  | .publish c stream => forall i info s,
      (w.publishers c).mediaInfo = some i ->
        MediaInfo.parseStream stream (w.infos i) = .ok info ->
          w.alive s = true -> w.isRegistered s = true ->
            (w.sources s).info = i -> info.key = (w.infos i).key
  | _ => True

theorem connect_filed {w w' : Server R} (hw : w.Filed) {c : Nat}
    {app tcUrl : Bytes} (h : w.connect c app tcUrl = some w') : w'.Filed := by
  rcases connect_cases h with ⟨_, info, created, hcreated, hw' | hw'⟩
  · rw [hw', hcreated]
    exact hw.newInfo c info
  · rw [hw', hcreated]
    exact (hw.newInfo c info).fail c

theorem publish_filed {w w' : Server R} (hw : w.Filed) {c : Nat}
    {stream : Bytes} (hkeeps : w.KeepsKey (.publish c stream))
    (h : w.publish c stream = some w') : w'.Filed := by
  rcases publish_cases h with ⟨i, _, hinfo, ⟨_, hw'⟩ | ⟨info, hparse, hw'⟩⟩
  · rw [hw']
    apply Filed.fail
    apply hw.setPublisher
    exact Or.inl rfl
  · have hkey : forall s, w.alive s = true -> w.isRegistered s = true ->
        w'.keyOf s = w.keyOf s := by
      intro s hs hregistered
      rw [hw']
      show (Function.update w.infos i info (w.sources s).info).key =
        (w.infos (w.sources s).info).key
      by_cases hi : (w.sources s).info = i
      · rw [hi, Function.update_self]
        exact hkeeps i info s hinfo hparse hs hregistered hi
      · rw [Function.update_of_ne hi]
    have hmoved := hw.setPublisher c
      (p := { w.publishers c with answer := none, stage := .parsed })
      (Or.inl rfl)
    rw [hw'] at hkey ⊢
    refine ⟨⟨?_, ?_, hw.noneEmpty, hw.find⟩, hmoved.known, hw.described⟩
    · intro k s hs
      rcases hw.entry k s hs with ⟨halive, hregistered, hk⟩
      exact ⟨halive, hregistered, (hkey s halive hregistered).trans hk⟩
    · intro s hs hregistered
      rw [hkey s hs hregistered]
      exact hw.filed s hs hregistered

theorem badName_filed {w : Server R} (hw : w.Filed) (c : Nat) :
    (w.badName c).Filed := by
  apply Filed.fail
  apply hw.setPublisher
  exact Or.inl rfl

theorem publishNext_filed {w w' : Server R} (hw : w.Filed) (hshared : w.Shared)
    {c : Nat} (h : w.publishNext c = some w') : w'.Filed := by
  rcases publishNext_cases h with ⟨i, hinfo, hadvance⟩
  cases hadvance with
  | find _ =>
      unfold findSource
      split
      · exact hw.fail c
      · exact hw.setPublisher c (Or.inl rfl)
  | create _ =>
      unfold createSource
      split
      · exact ((hw.newSource hshared (hw.known c i hinfo)).dropOwnership
          c).takeOwnership c _
      · exact badName_filed hw c
  | reconnect s _ => exact (hw.dropOwnership c).setPublisher c (Or.inl rfl)
  | getOwnership s _ =>
      unfold getOwnership
      split
      · exact badName_filed hw c
      · exact hw.takeOwnership c _
  | start s _ =>
      apply Filed.dropPointer
      exact hw.setPublisher c (Or.inl rfl)

theorem processMetadata_filed {w w' : Server R} (hw : w.Filed)
    (hshared : w.Shared) {c : Nat} {entries : Metadata}
    (h : w.processMetadata c entries = some w') : w'.Filed := by
  rcases processMetadata_cases h with ⟨_, metaData, kept, _, hkept, hw'⟩
  have hkeep : kept.Filed := by
    rw [hkept]
    exact hw.setPublisher c (Or.inl rfl)
  rcases hw' with ⟨_, hw'⟩ | ⟨s, hsource, hw'⟩
  · rw [hw']
    exact hkeep.fail c
  · have halive : kept.alive s = true := by
      rw [hkept]
      exact hshared.holds c s (Or.inl hsource)
    rw [hw']
    exact hkeep.callSource c halive (initTracks_leads _)

theorem checkAv_filed {w w' : Server R} (hw : w.Filed) {c : Nat}
    {pkt : RtmpPacket} (h : w.checkAv c pkt = some w') : w'.Filed := by
  rcases checkAv_cases h with ⟨_, hw' | ⟨_, hw'⟩⟩
  · rw [hw']
    exact hw.fail c
  · rw [hw']
    exact hw.setPublisher c (Or.inl rfl)

theorem processAv_filed [DecidableEq R]
    {h264DecSeqParameterSet : Bytes -> Bool} {w w' : Server R} (hw : w.Filed)
    (hshared : w.Shared) {c : Nat}
    (h : w.processAv h264DecSeqParameterSet c = some w') : w'.Filed := by
  rcases processAv_cases h with ⟨pkt, s, pushed, _, hsource, hpushed, hw'⟩
  have hidle := hw.setPublisher c
    (p := { w.publishers c with stage := .idle }) (Or.inl rfl)
  have hpackets := hidle.congr
    { w.setPublisher c { w.publishers c with stage := .idle } with
      packets := w.packets ++ [pkt] }
    (fun _ => Or.inl rfl) (fun _ => rfl) (fun _ => rfl) (fun _ => rfl) rfl rfl
    rfl
  rw [hw', hpushed]
  exact hpackets.callSource c (hshared.holds c s (Or.inl hsource))
    (processAvPacket_leads _ _)

theorem destruct_filed {w w' : Server R} (hw : w.Filed) {c : Nat}
    (h : w.destruct c = some w') : w'.Filed := by
  rcases destruct_cases h with
    ⟨_, _, _, hw' | ⟨_, s, hw'⟩ | ⟨_, hw'⟩ | hw'⟩
  · rw [hw']
    apply Filed.dropOwnership
    exact hw.setPublisher c (Or.inl rfl)
  · rw [hw']
    apply Filed.dropPointer
    exact hw.setPublisher c (Or.inl rfl)
  · rw [hw']
    exact hw.setPublisher c (Or.inr rfl)
  · rw [hw']
    exact hw.setPublisher c (Or.inl rfl)

theorem Filed.withPulling {w : Server R} (hw : w.Filed)
    (pulling : List SourcePtr) : { w with pulling := pulling }.Filed :=
  hw.congr { w with pulling := pulling } (fun _ => Or.inl rfl) (fun _ => rfl)
    (fun _ => rfl) (fun _ => rfl) rfl rfl rfl

theorem step_filed [DecidableEq R] {h264DecSeqParameterSet : Bytes -> Bool}
    {w w' : Server R} {e : ServerEvent} (hw : w.Shared ∧ w.Filed)
    (hkeeps : w.KeepsKey e)
    (hstep : w.step h264DecSeqParameterSet e = some w') :
    w'.Shared ∧ w'.Filed := by
  refine ⟨step_shared hw.1 hstep, ?_⟩
  rcases hw with ⟨hshared, hfiled⟩
  have h := (step_cases hstep).2
  cases e with
  | accept =>
      cases h
      exact hfiled.congr { w with accepted := w.accepted + 1 }
        (fun _ => Or.inl rfl) (fun _ => rfl) (fun _ => rfl) (fun _ => rfl) rfl
        rfl rfl
  | connect c app tcUrl => exact connect_filed hfiled h
  | publish c stream => exact publish_filed hfiled hkeeps h
  | publishNext c => exact publishNext_filed hfiled hshared h
  | metadata c entries => exact processMetadata_filed hfiled hshared h
  | av c pkt => exact checkAv_filed hfiled h
  | process c => exact processAv_filed hfiled hshared h
  | malformed c =>
      rcases Option.ite_none_right_eq_some.mp h with ⟨_, hw'⟩
      cases hw'
      exact hfiled.fail c
  | close c =>
      cases h
      exact hfiled.setPublisher c (Or.inl rfl)
  | destruct c => exact destruct_filed hfiled h
  | pull k =>
      cases h
      rcases w.pull_cases k with hsame | ⟨s, _, hpulled⟩
      · rw [hsame]
        exact hfiled
      · rw [hpulled]
        exact hfiled.withPulling _
  | letGo i =>
      cases h
      exact (hfiled.withPulling _).dropPointer _

/-- A publish command that changes the key leaves the entry behind. -/
theorem keepsKey_of_consistent [DecidableEq R]
    {h264DecSeqParameterSet : Bytes -> Bool} {w w' : Server R}
    {e : ServerEvent} (hw : w.Shared ∧ w.Filed)
    (hstep : w.step h264DecSeqParameterSet e = some w')
    (hgood : w'.Consistent) : w.KeepsKey e := by
  cases e with
  | publish c stream =>
      intro i info s hinfo hparse hs hregistered hi
      rcases publish_cases (step_cases hstep).2 with
        ⟨j, _, hj, ⟨⟨what, hfailed⟩, _⟩ | ⟨parsed, hparsed, hw'⟩⟩
      · cases hj.symm.trans hinfo
        cases hparse.symm.trans hfailed
      · cases hj.symm.trans hinfo
        cases hparse.symm.trans hparsed
        have hold := hw.2.filed s hs hregistered
        have hnew := hgood.entry (w.keyOf s) s (by rw [hw']; exact hold)
        have hkey := hnew.2.2
        rw [hw'] at hkey
        change (Function.update w.infos i info (w.sources s).info).key =
          (w.infos (w.sources s).info).key at hkey
        rw [hi, Function.update_self] at hkey
        exact hkey
  | _ => trivial

/--
The registry is consistent in every state of a run exactly when no publish
command of the run changes the key of a registered source.
-/
theorem registry_consistent_iff [DecidableEq R]
    {h264DecSeqParameterSet : Bytes -> Bool} {es : List ServerEvent}
    {w : Server R} (h : run (step h264DecSeqParameterSet) {} es = some w) :
    (forall front back t, es = front ++ back ->
        run (step (R := R) h264DecSeqParameterSet) {} front = some t ->
          t.Consistent) <->
      Meets KeepsKey (step (R := R) h264DecSeqParameterSet) {} es := by
  constructor
  · exact meets_of_good step_filed keepsKey_of_consistent
      ⟨start_shared, start_filed⟩ h
  · intro hmeets front back t hes hfront
    rw [hes] at hmeets
    exact (run_keeps_of_meets _ step_filed ⟨start_shared, start_filed⟩
      hmeets.front hfront).2.toConsistent

end Filing

theorem registry_consistent_iff_live :
    exists w : Server Nat, run (step fun _ => true) {} liveEvents = some w ∧
      ((forall front back t, liveEvents = front ++ back ->
          run (step (R := Nat) fun _ => true) {} front = some t ->
            t.Consistent) <->
        Meets KeepsKey (step (R := Nat) fun _ => true) {} liveEvents) := by
  have hends : (run (step (R := Nat) fun _ => true) {} liveEvents).isSome :=
    by decide +kernel
  rcases Option.isSome_iff_exists.mp hends with ⟨w, hrun⟩
  exact ⟨w, hrun, registry_consistent_iff hrun⟩

def liveKey : StreamKey :=
  ⟨kRtmpSchema, ascii ['v'], [97], ascii ['l', 'i', 'v', 'e']⟩

/-- A second publish command on the connection, all of it. -/
def renamingEvents : List ServerEvent :=
  liveEvents ++ [.publish 0 nextStream, .publishNext 0, .publishNext 0,
    .publishNext 0]

/-- The source is gone, its entry is not. -/
theorem registry_dead_entry :
    exists w : Server Nat,
      run (step fun _ => true) {} renamingEvents = some w ∧
        (w.publishers 0).stage = .idle ∧ ¬ w.Consistent := by
  have hends : ((run (step (R := Nat) fun _ => true) {} renamingEvents).any
      fun w => decide ((w.publishers 0).stage = .idle) &&
        decide (w.registry.entry liveKey = some 0) && !w.alive 0) = true := by
    decide +kernel
  rcases (Option.any_eq_true _ _).mp hends with ⟨w, hrun, hw⟩
  simp only [Bool.and_eq_true, decide_eq_true_eq, Bool.not_eq_true'] at hw
  refine ⟨w, hrun, hw.1.1, ?_⟩
  intro hconsistent
  cases (hconsistent.entry liveKey 0 hw.1.2).1.symm.trans hw.2

end Server

end Rtmp
end Streaming
