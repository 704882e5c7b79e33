import Streaming.Rtmp.Filing

/-!
# Where the sources of publishers are filed

A connection that was told to publish a key points to a source that is either
under this key in the registry, or has it in media information that nobody else
may change.
-/

namespace Streaming
namespace Rtmp

open Foundation Media RtmpMediaSource Util

/-- Within `on_amf_publish`. -/
def Stage.publishing : Stage -> Bool
  | parsed => true
  | found _ => true
  | dropped _ => true
  | won _ => true
  | _ => false

namespace Server

section Exclusivity

variable {R : Type}

/-- A source is under a key in the registry, or will be once it is registered. -/
def Placed (w : Server R) (s : SourcePtr) (k : StreamKey) : Prop :=
  (w.isRegistered s = true -> w.registry.entry k = some s) ∧
    (w.isRegistered s = false -> w.keyOf s = k)

/-- The connection is open and has been told to publish the key. -/
def Publishing (w : Server R) (c : Nat) (k : StreamKey) : Prop :=
  (w.publishers c).isOpen = true ∧ (w.publishers c).answer = some (.start k)

/-- What holds of a connection and the sources it points to. -/
structure Fits (w : Server R) (c : Nat) (p : Publisher) : Prop where
  known : forall i, p.mediaInfo = some i -> i < w.infoCount
  /-- Nobody else may change the key of a source that is not registered. -/
  unfiled : forall s, p.Holds s -> w.isRegistered s = false ->
    forall d, (w.publishers d).mediaInfo = some (w.sources s).info -> d = c
  pointing : forall s i, p.stage.pointer = some s -> p.mediaInfo = some i ->
    (w.infos i).key.Complete ∧ w.Placed s (w.infos i).key
  answered : p.isOpen = true -> forall k, p.answer = some (.start k) ->
    k.Complete ∧ exists s, p.rtmpSource = some s ∧ p.srcOwnership = some s ∧
      w.Placed s k
  unanswered : p.stage.publishing = true -> p.answer = none

structure Exclusive (w : Server R) : Prop where
  entry_registered : forall k s, w.registry.entry k = some s ->
    w.alive s = true -> w.isRegistered s = true
  entry_lt : forall k s, w.registry.entry k = some s -> s < w.sourceCount
  described : forall s, w.alive s = true -> (w.sources s).info < w.infoCount
  own_info : forall c d i, (w.publishers c).mediaInfo = some i ->
    (w.publishers d).mediaInfo = some i -> c = d
  fits : forall c, w.Fits c (w.publishers c)

theorem start_exclusive : ({} : Server R).Exclusive where
  entry_registered := fun k s h => by
    cases (Registry.empty_entry k).symm.trans h
  entry_lt := fun k s h => by
    cases (Registry.empty_entry k).symm.trans h
  described := fun s h => by cases h
  own_info := fun c d i h => by cases h
  fits := fun c => by
    refine ⟨nofun, ?_, nofun, nofun, nofun⟩
    intro s hs
    rcases hs with hs | hs <;> cases hs

namespace Exclusive

/-- A change of one connection, which may lose its media information. -/
theorem setPublisher {w : Server R} (h : w.Exclusive) {c : Nat} {p : Publisher}
    (hinfo : p.mediaInfo = (w.publishers c).mediaInfo ∨ p.mediaInfo = none)
    (hp : w.Fits c p) : (w.setPublisher c p).Exclusive := by
  have hsub : forall d i, ((w.setPublisher c p).publishers d).mediaInfo =
      some i -> (w.publishers d).mediaInfo = some i := by
    intro d i hi
    by_cases hd : d = c
    · subst hd
      rw [setPublisher_self] at hi
      rcases hinfo with hsame | hnone
      · exact hsame.symm.trans hi
      · cases hnone.symm.trans hi
    · rw [w.setPublisher_ne hd] at hi
      exact hi
  have hfits : forall d q, w.Fits d q -> (w.setPublisher c p).Fits d q := by
    intro d q hq
    exact ⟨hq.known, fun s hs hregistered e he =>
      hq.unfiled s hs hregistered e (hsub e _ he), hq.pointing, hq.answered,
      hq.unanswered⟩
  refine ⟨h.entry_registered, h.entry_lt, h.described, ?_, ?_⟩
  · intro d e i hd he
    exact h.own_info d e i (hsub d i hd) (hsub e i he)
  · intro d
    by_cases hd : d = c
    · rw [hd, setPublisher_self]
      exact hfits c p hp
    · rw [w.setPublisher_ne hd]
      exact hfits d _ (h.fits d)

/-- A change of sources and registry that leaves alone what is pointed to, save
that it may be registered. -/
theorem change {w : Server R} (h : w.Exclusive) (w' : Server R)
    (hpublishers : w'.publishers = w.publishers) (hinfos : w'.infos = w.infos)
    (hcount : w'.infoCount = w.infoCount)
    (hregistered : forall k s, w'.registry.entry k = some s ->
      w'.alive s = true -> w'.isRegistered s = true)
    (hlt : forall k s, w'.registry.entry k = some s -> s < w'.sourceCount)
    (hdescribed : forall s, w'.alive s = true ->
      (w'.sources s).info < w'.infoCount)
    (hkept : forall c s, (w.publishers c).Holds s ->
      (w'.sources s).info = (w.sources s).info ∧
        (w'.isRegistered s = false -> w.isRegistered s = false) ∧
          forall k, w.Placed s k -> w'.Placed s k) : w'.Exclusive := by
  refine ⟨hregistered, hlt, hdescribed, ?_, ?_⟩
  · rw [hpublishers]
    exact h.own_info
  · intro c
    rw [hpublishers]
    have hc := h.fits c
    refine ⟨?_, ?_, ?_, ?_, hc.unanswered⟩
    · rw [hcount]
      exact hc.known
    · intro s hs hfalse d hd
      rcases hkept c s hs with ⟨hinfo, hflag, _⟩
      rw [hpublishers, hinfo] at hd
      exact hc.unfiled s hs (hflag hfalse) d hd
    · intro s i hs hi
      rw [hinfos]
      rcases hc.pointing s i hs hi with ⟨hcomplete, hplaced⟩
      exact ⟨hcomplete, (hkept c s (Or.inr hs)).2.2 _ hplaced⟩
    · intro hopen k hk
      rcases hc.answered hopen k hk with ⟨hcomplete, s, hs, hown, hplaced⟩
      exact ⟨hcomplete, s, hs, hown, (hkept c s (Or.inl hs)).2.2 k hplaced⟩

theorem setOwned {w : Server R} (h : w.Exclusive) (s : SourcePtr) (b : Bool) :
    (w.setSource s { w.sources s with owned := b }).Exclusive := by
  have hsource : forall r, exists owned,
      (w.setSource s { w.sources s with owned := b }).sources r =
        { w.sources r with owned := owned } := by
    intro r
    by_cases hr : r = s
    · subst hr
      exact ⟨b, setSource_self _ _ _⟩
    · exact ⟨_, setSource_ne _ hr _⟩
  have hflag : forall r,
      (w.setSource s { w.sources s with owned := b }).isRegistered r =
        w.isRegistered r := by
    intro r
    rcases hsource r with ⟨owned, hr⟩
    unfold isRegistered
    rw [hr]
  have halive : forall r,
      (w.setSource s { w.sources s with owned := b }).alive r = w.alive r := by
    intro r
    rcases hsource r with ⟨owned, hr⟩
    unfold alive
    rw [hr]
  have hinfo : forall r,
      ((w.setSource s { w.sources s with owned := b }).sources r).info =
        (w.sources r).info := by
    intro r
    rcases hsource r with ⟨owned, hr⟩
    rw [hr]
  apply h.change (w.setSource s { w.sources s with owned := b }) rfl rfl rfl
  · intro k r hr hlive
    rw [halive] at hlive
    rw [hflag]
    exact h.entry_registered k r hr hlive
  · exact h.entry_lt
  · intro r hr
    rw [halive] at hr
    rw [hinfo]
    exact h.described r hr
  · intro c r hr
    refine ⟨hinfo r, ?_, ?_⟩
    · rw [hflag]
      exact id
    · intro k hk
      unfold Placed keyOf
      rw [hflag, hinfo]
      exact hk

/-- A token goes with a connection that is closed or has no answer. -/
theorem dropOwnership {w : Server R} (h : w.Exclusive) {c : Nat}
    (hc : forall k, ¬ w.Publishing c k) : (w.dropOwnership c).Exclusive := by
  have hfits := h.fits c
  have hdropped : (w.setPublisher c
      { w.publishers c with srcOwnership := none }).Exclusive := by
    apply h.setPublisher
    · exact Or.inl rfl
    · refine ⟨hfits.known, hfits.unfiled, hfits.pointing, ?_, hfits.unanswered⟩
      intro hopen k hk
      exact absurd ⟨hopen, hk⟩ (hc k)
  unfold Server.dropOwnership
  dsimp only
  split
  · exact hdropped
  · split
    · exact hdropped.setOwned _ false
    · exact hdropped

theorem takeOwnership {w : Server R} (h : w.Exclusive) {c : Nat}
    {s : SourcePtr} (hanswer : (w.publishers c).answer = none)
    (hunfiled : w.isRegistered s = false -> forall d,
      (w.publishers d).mediaInfo = some (w.sources s).info -> d = c)
    (hplaced : forall i, (w.publishers c).mediaInfo = some i ->
      (w.infos i).key.Complete ∧ w.Placed s (w.infos i).key) :
    (w.takeOwnership c s).Exclusive := by
  have hfits := h.fits c
  have htaken : (w.setPublisher c { w.publishers c with
      srcOwnership := some s
      stage := .won s }).Exclusive := by
    apply h.setPublisher
    · exact Or.inl rfl
    · refine ⟨hfits.known, ?_, ?_, ?_, fun _ => hanswer⟩
      · intro r hr hfalse d hd
        rcases hr with hr | hr
        · exact hfits.unfiled r (Or.inl hr) hfalse d hd
        · cases hr
          exact hunfiled hfalse d hd
      · intro r i hr hi
        cases hr
        exact hplaced i hi
      · intro _ k hk
        cases hanswer.symm.trans hk
  exact htaken.setOwned s true

/-- Nobody points to a source that dies. -/
theorem destroy {w : Server R} (h : w.Exclusive) (hshared : w.Shared)
    {s : SourcePtr} (hheld : w.held s = false) : (w.destroy s).Exclusive := by
  have hother := fun r (hr : r ≠ s) => w.destroy_ne hr
  have hlive := fun r => (w.destroy_alive s r).mp
  have hentry : forall k r, (w.destroy s).registry.entry k = some r ->
      w.registry.entry k = some r :=
    fun k r hr => (Registry.eraseMediaSource_entry.mp hr).1
  have hpointed : forall c r, (w.publishers c).Holds r ->
      r ≠ s ∧ w.alive r = true := by
    intro c r hr
    have hafter := (hshared.destroy hheld).holds c r hr
    exact hlive r hafter
  apply h.change (w.destroy s) rfl rfl rfl
  · intro k r hr halive
    rcases hlive r halive with ⟨hne, hold⟩
    unfold isRegistered
    rw [hother r hne]
    exact h.entry_registered k r (hentry k r hr) hold
  · intro k r hr
    exact h.entry_lt k r (hentry k r hr)
  · intro r hr
    rcases hlive r hr with ⟨hne, hold⟩
    rw [hother r hne]
    exact h.described r hold
  · intro c r hr
    rcases hpointed c r hr with ⟨hne, hold⟩
    have hflag : (w.destroy s).isRegistered r = w.isRegistered r := by
      unfold isRegistered
      rw [hother r hne]
    refine ⟨by rw [hother r hne], by rw [hflag]; exact id, ?_⟩
    rintro k ⟨hfiled, hkey⟩
    unfold Placed keyOf
    rw [hflag, hother r hne]
    refine ⟨?_, hkey⟩
    intro hregistered
    exact Registry.eraseMediaSource_entry.mpr
      ⟨hfiled hregistered, fun _ => ⟨hold, hne⟩⟩

theorem dropPointer {w : Server R} (h : w.Exclusive) (hshared : w.Shared)
    (r : Option SourcePtr) : (w.dropPointer r).Exclusive := by
  rcases w.dropPointer_cases r with hsame | ⟨s, _, hheld, hdestroy⟩
  · rw [hsame]
    exact h
  · rw [hdestroy]
    exact h.destroy hshared hheld

theorem newSource {w : Server R} (h : w.Exclusive) (hshared : w.Shared)
    {i : Nat} (hi : i < w.infoCount) : (w.newSource i).Exclusive := by
  have hnew := w.newSource_self i
  have hother := fun s (hs : s ≠ w.sourceCount) => w.newSource_ne i hs
  apply h.change (w.newSource i) rfl rfl rfl
  · intro k s hs halive
    have hne : s ≠ w.sourceCount := Nat.ne_of_lt (h.entry_lt k s hs)
    unfold alive at halive
    unfold isRegistered
    rw [hother s hne] at halive ⊢
    exact h.entry_registered k s hs halive
  · intro k s hs
    exact Nat.lt_succ_of_lt (h.entry_lt k s hs)
  · intro s hs
    by_cases hne : s = w.sourceCount
    · rw [hne, hnew]
      exact hi
    · unfold alive at hs
      rw [hother s hne] at hs ⊢
      exact h.described s hs
  · intro c s hs
    have hne : s ≠ w.sourceCount :=
      Nat.ne_of_lt (hshared.fresh s (hshared.holds c s hs))
    unfold Placed isRegistered keyOf
    rw [hother s hne]
    exact ⟨rfl, id, fun k hk => hk⟩

/-- A call may register the source, which then is where it was to be. -/
theorem restore {w : Server R} (h : w.Exclusive) (hshared : w.Shared)
    {s : SourcePtr} (hs : w.alive s = true) {g : Ingest Registry R}
    (hg : Enrolled (w.registSource s) (w.ingest s) g) :
    (w.restore s g).Exclusive := by
  have halive := w.restore_alive s g
  have hinfo := w.restore_info s g
  have hkey := w.restore_keyOf s g
  have hflagOther := fun r (hr : r ≠ s) => w.restore_isRegistered_ne hr g
  have hdescribed : forall r, (w.restore s g).alive r = true ->
      ((w.restore s g).sources r).info < (w.restore s g).infoCount := by
    intro r hr
    rw [halive] at hr
    rw [hinfo]
    exact h.described r hr
  rcases enrolled_cases hg with
    ⟨hentries, hflags⟩ | ⟨hbefore, hdone, _, hentry, hrest, hmine⟩
  · apply h.change (w.restore s g) rfl rfl rfl _ _ hdescribed
    · intro c r hr
      refine ⟨hinfo r, by rw [hflags]; exact id, ?_⟩
      intro k hk
      unfold Placed
      rw [hflags, hkey, hentries]
      exact hk
    · intro k r hr hr'
      rw [hentries] at hr
      rw [halive] at hr'
      rw [hflags]
      exact h.entry_registered k r hr hr'
    · intro k r hr
      rw [hentries] at hr
      exact h.entry_lt k r hr
  · apply h.change (w.restore s g) rfl rfl rfl _ _ hdescribed
    · intro c r hr
      have hr' := hshared.holds c r hr
      refine ⟨hinfo r, ?_, ?_⟩
      · intro hfalse
        by_cases hne : r = s
        · rw [hne] at hfalse
          cases hfalse.symm.trans hdone
        · rw [hflagOther r hne] at hfalse
          exact hfalse
      · rintro k ⟨hfiled, hunfiled⟩
        unfold Placed
        rw [hkey]
        by_cases hne : r = s
        · subst hne
          refine ⟨fun _ => ?_, hunfiled ∘ fun _ => hbefore⟩
          rw [← hunfiled hbefore]
          exact hentry
        · rw [hflagOther r hne]
          refine ⟨?_, hunfiled⟩
          intro hregistered
          have hold := hfiled hregistered
          by_cases hk : k = w.keyOf s
          · rw [hk] at hold
            cases hr'.symm.trans (hmine r hold)
          · rw [hrest k hk]
            exact hold
    · intro k r hr hr'
      rw [halive] at hr'
      by_cases hne : r = s
      · rw [hne]
        exact hdone
      · rw [hflagOther r hne]
        by_cases hk : k = w.keyOf s
        · rw [hk, hentry] at hr
          exact absurd (Option.some.inj hr).symm hne
        · rw [hrest k hk] at hr
          exact h.entry_registered k r hr hr'
    · intro k r hr
      by_cases hk : k = w.keyOf s
      · rw [hk, hentry] at hr
        cases hr
        exact hshared.fresh s hs
      · rw [hrest k hk] at hr
        exact h.entry_lt k r hr

end Exclusive

/-!
## Every step keeps it
-/

theorem Exclusive.withPulling {w : Server R} (h : w.Exclusive)
    (pulling : List SourcePtr) : { w with pulling := pulling }.Exclusive :=
  h.change { w with pulling := pulling } rfl rfl rfl h.entry_registered
    h.entry_lt h.described fun _ _ _ => ⟨rfl, id, fun _ hk => hk⟩

theorem Exclusive.withPackets {w : Server R} (h : w.Exclusive)
    (packets : List RtmpPacket) : { w with packets := packets }.Exclusive :=
  h.change { w with packets := packets } rfl rfl rfl h.entry_registered
    h.entry_lt h.described fun _ _ _ => ⟨rfl, id, fun _ hk => hk⟩

theorem Exclusive.stop {w : Server R} (h : w.Exclusive) (hshared : w.Shared)
    {c : Nat} (hc : c < w.accepted)
    (htoken : (w.publishers c).srcOwnership = none ∨
      (w.publishers c).srcOwnership = (w.publishers c).rtmpSource)
    (answer : Option Answer) (r : Option SourcePtr) :
    ((w.setPublisher c { w.publishers c with
      stage := .stopped
      isOpen := false
      answer := answer }).dropPointer r).Exclusive := by
  have hfits := h.fits c
  apply Exclusive.dropPointer _ (hshared.stop hc htoken answer)
  apply h.setPublisher
  · exact Or.inl rfl
  · refine ⟨hfits.known, ?_, nofun, nofun, nofun⟩
    intro s hs
    rcases hs with hs | hs
    · exact hfits.unfiled s (Or.inl hs)
    · cases hs

theorem Exclusive.fail {w : Server R} (h : w.Exclusive) (hshared : w.Shared)
    {c : Nat} (hc : c < w.accepted)
    (htoken : (w.publishers c).srcOwnership = none ∨
      (w.publishers c).srcOwnership = (w.publishers c).rtmpSource) :
    (w.fail c).Exclusive :=
  h.stop hshared hc htoken (w.publishers c).answer _

theorem badName_exclusive {w : Server R} (hw : w.Exclusive)
    (hshared : w.Shared) {c : Nat} (hc : c < w.accepted)
    (hstage : forall s, (w.publishers c).stage ≠ .won s) :
    (w.badName c).Exclusive := by
  rw [badName_eq]
  exact hw.stop hshared hc ((hshared.token c).settled hstage) _ _

theorem callSource_exclusive {w : Server R} (hw : w.Exclusive)
    (hshared : w.Shared) {c : Nat} (hc : c < w.accepted)
    (hstage : forall s, (w.publishers c).stage ≠ .won s) {s : SourcePtr}
    (hs : w.alive s = true) {call : Call Registry R PUnit}
    (hcall : Leads (Enrolled (w.registSource s)) call) :
    (w.callSource c s call).Exclusive := by
  have hlead := hcall (w.ingest s)
  unfold callSource
  split
  · rename_i u g hok
    rw [hok] at hlead
    exact hw.restore hshared hs hlead
  · rename_i what g herror
    rw [herror] at hlead
    exact (hw.restore hshared hs hlead).fail (hshared.restore s g) hc
      ((hshared.token c).settled hstage)

/-- Media information that is new belongs to no source. -/
theorem Exclusive.newInfo {w : Server R} (h : w.Exclusive) (hshared : w.Shared)
    {c : Nat} (hstage : (w.publishers c).stage = .idle) (info : MediaInfo) :
    { w.setPublisher c
        { w.publishers c with mediaInfo := some w.infoCount } with
      infos := Function.update w.infos w.infoCount info
      infoCount := w.infoCount + 1 }.Exclusive := by
  have hold : forall i, i < w.infoCount ->
      Function.update w.infos w.infoCount info i = w.infos i :=
    fun i hi => Function.update_of_ne (Nat.ne_of_lt hi) _ _
  have hself := w.setPublisher_self c
    { w.publishers c with mediaInfo := some w.infoCount }
  have hother := fun d (hd : d ≠ c) => w.setPublisher_ne hd
    { w.publishers c with mediaInfo := some w.infoCount }
  have hinfo : forall d i, ((w.setPublisher c { w.publishers c with
      mediaInfo := some w.infoCount }).publishers d).mediaInfo = some i ->
        (d = c ∧ i = w.infoCount) ∨
          (d ≠ c ∧ (w.publishers d).mediaInfo = some i ∧ i < w.infoCount) := by
    intro d i hi
    by_cases hd : d = c
    · rw [hd, hself] at hi
      cases hi
      exact Or.inl ⟨hd, rfl⟩
    · rw [hother d hd] at hi
      exact Or.inr ⟨hd, hi, (h.fits d).known i hi⟩
  have hplaced : forall d s k, (w.publishers d).Holds s -> w.Placed s k ->
      Placed { w.setPublisher c
          { w.publishers c with mediaInfo := some w.infoCount } with
        infos := Function.update w.infos w.infoCount info
        infoCount := w.infoCount + 1 } s k := by
    intro d s k hs hk
    refine ⟨hk.1, ?_⟩
    intro hfalse
    have hlt := h.described s (hshared.holds d s hs)
    exact (congrArg MediaInfo.key (hold _ hlt)).trans (hk.2 hfalse)
  refine ⟨h.entry_registered, h.entry_lt, ?_, ?_, ?_⟩
  · intro s hs
    exact Nat.lt_succ_of_lt (h.described s hs)
  · intro d e i hd he
    rcases hinfo d i hd with ⟨hd, hi⟩ | ⟨_, hd, hi⟩
    · rcases hinfo e i he with ⟨he, _⟩ | ⟨_, _, hlt⟩
      · exact hd.trans he.symm
      · exact absurd hlt (hi ▸ Nat.lt_irrefl _)
    · rcases hinfo e i he with ⟨_, heq⟩ | ⟨_, he, _⟩
      · exact absurd hi (heq ▸ Nat.lt_irrefl _)
      · exact h.own_info d e i hd he
  · intro d
    have hd := h.fits d
    have hunfiled : forall s, (w.publishers d).Holds s ->
        w.isRegistered s = false -> forall e,
          ((w.setPublisher c { w.publishers c with
            mediaInfo := some w.infoCount }).publishers e).mediaInfo =
              some (w.sources s).info -> e = d := by
      intro s hs hfalse e he
      rcases hinfo e _ he with ⟨_, heq⟩ | ⟨_, he, _⟩
      · have hlt := h.described s (hshared.holds d s hs)
        exact absurd hlt (heq ▸ Nat.lt_irrefl _)
      · exact hd.unfiled s hs hfalse e he
    show Fits _ d ((w.setPublisher c _).publishers d)
    by_cases hdc : d = c
    · subst hdc
      rw [hself]
      refine ⟨?_, hunfiled, ?_, ?_, hd.unanswered⟩
      · intro i hi
        cases hi
        exact Nat.lt_succ_self _
      · intro s i hs
        change (w.publishers d).stage.pointer = some s at hs
        rw [hstage] at hs
        cases hs
      · intro hopen k hk
        rcases hd.answered hopen k hk with ⟨hcomplete, s, hs, hown, hsk⟩
        exact ⟨hcomplete, s, hs, hown, hplaced d s k (Or.inl hs) hsk⟩
    · rw [hother d hdc]
      refine ⟨?_, hunfiled, ?_, ?_, hd.unanswered⟩
      · intro i hi
        exact Nat.lt_succ_of_lt (hd.known i hi)
      · intro s i hs hi
        rcases hd.pointing s i hs hi with ⟨hcomplete, hsk⟩
        have hkey : Function.update w.infos w.infoCount info i = w.infos i :=
          hold i (hd.known i hi)
        dsimp only
        rw [hkey]
        exact ⟨hcomplete, hplaced d s _ (Or.inr hs) hsk⟩
      · intro hopen k hk
        rcases hd.answered hopen k hk with ⟨hcomplete, s, hs, hown, hsk⟩
        exact ⟨hcomplete, s, hs, hown, hplaced d s k (Or.inl hs) hsk⟩

/-- A publish command changes its own key only. -/
theorem Exclusive.parsed {w : Server R} (h : w.Exclusive) {c i : Nat}
    (hi : (w.publishers c).mediaInfo = some i)
    (hstage : (w.publishers c).stage = .idle) (info : MediaInfo) :
    { w.setPublisher c { w.publishers c with
        answer := none
        stage := .parsed } with
      infos := Function.update w.infos i info }.Exclusive := by
  have hself := w.setPublisher_self c
    { w.publishers c with answer := none, stage := .parsed }
  have hother := fun d (hd : d ≠ c) => w.setPublisher_ne hd
    { w.publishers c with answer := none, stage := .parsed }
  have hinfo : forall d, ((w.setPublisher c { w.publishers c with
      answer := none
      stage := .parsed }).publishers d).mediaInfo =
        (w.publishers d).mediaInfo := by
    intro d
    by_cases hd : d = c
    · rw [hd, hself]
    · rw [hother d hd]
  have hplaced : forall d s k, d ≠ c -> (w.publishers d).Holds s ->
      w.Placed s k -> Placed { w.setPublisher c { w.publishers c with
          answer := none
          stage := .parsed } with
        infos := Function.update w.infos i info } s k := by
    intro d s k hd hs hk
    refine ⟨hk.1, ?_⟩
    intro hfalse
    have hne : (w.sources s).info ≠ i := by
      intro heq
      have hc := (h.fits d).unfiled s hs hfalse c (heq ▸ hi)
      exact hd hc.symm
    show (Function.update w.infos i info (w.sources s).info).key = k
    rw [Function.update_of_ne hne]
    exact hk.2 hfalse
  refine ⟨h.entry_registered, h.entry_lt, h.described, ?_, ?_⟩
  · intro d e j hd he
    exact h.own_info d e j ((hinfo d).symm.trans hd) ((hinfo e).symm.trans he)
  · intro d
    have hd := h.fits d
    have hunfiled : forall s, (w.publishers d).Holds s ->
        w.isRegistered s = false -> forall e,
          ((w.setPublisher c { w.publishers c with
            answer := none
            stage := .parsed }).publishers e).mediaInfo =
              some (w.sources s).info -> e = d :=
      fun s hs hfalse e he => hd.unfiled s hs hfalse e ((hinfo e).symm.trans he)
    show Fits _ d ((w.setPublisher c _).publishers d)
    by_cases hdc : d = c
    · subst hdc
      rw [hself]
      refine ⟨hd.known, ?_, nofun, nofun, fun _ => rfl⟩
      intro s hs
      rcases hs with hs | hs
      · exact hunfiled s (Or.inl hs)
      · cases hs
    · rw [hother d hdc]
      refine ⟨hd.known, hunfiled, ?_, ?_, hd.unanswered⟩
      · intro s j hs hj
        have hne : j ≠ i := by
          intro heq
          subst heq
          exact hdc (h.own_info d c j hj hi)
        dsimp only
        rw [Function.update_of_ne hne]
        rcases hd.pointing s j hs hj with ⟨hcomplete, hsk⟩
        exact ⟨hcomplete, hplaced d s _ hdc (Or.inr hs) hsk⟩
      · intro hopen k hk
        rcases hd.answered hopen k hk with ⟨hcomplete, s, hs, hown, hsk⟩
        exact ⟨hcomplete, s, hs, hown, hplaced d s k hdc (Or.inl hs) hsk⟩

theorem connect_exclusive {w w' : Server R} (hw : w.Exclusive)
    (hshared : w.Shared) {c : Nat} (hc : c < w.accepted) {app tcUrl : Bytes}
    (h : w.connect c app tcUrl = some w') : w'.Exclusive := by
  rcases connect_cases h with ⟨hstage, info, created, hcreated, hw' | hw'⟩
  · rw [hw', hcreated]
    exact hw.newInfo hshared hstage info
  · have hcreate : (w.setPublisher c
        { w.publishers c with mediaInfo := some w.infoCount }).Shared :=
      hshared.setPublisher hc (hshared.token c) rfl
        fun s hs => hshared.holds c s hs
    rw [hw', hcreated]
    apply (hw.newInfo hshared hstage info).fail (hcreate.withInfos _ _) hc
    show ((w.setPublisher c _).publishers c).srcOwnership = none ∨
      ((w.setPublisher c _).publishers c).srcOwnership =
        ((w.setPublisher c _).publishers c).rtmpSource
    rw [setPublisher_self]
    exact (hshared.token c).settled (by rw [hstage]; nofun)

theorem publish_exclusive {w w' : Server R} (hw : w.Exclusive)
    (hshared : w.Shared) {c : Nat} (hc : c < w.accepted) {stream : Bytes}
    (h : w.publish c stream = some w') : w'.Exclusive := by
  rcases publish_cases h with ⟨i, hstage, hinfo, ⟨_, hw'⟩ | ⟨info, _, hw'⟩⟩
  · have hfits := hw.fits c
    have hanswer : (w.setPublisher c
        { w.publishers c with answer := none }).Exclusive := by
      apply hw.setPublisher
      · exact Or.inl rfl
      · exact ⟨hfits.known, hfits.unfiled, hfits.pointing, nofun, fun _ => rfl⟩
    have hsharedAnswer : (w.setPublisher c
        { w.publishers c with answer := none }).Shared :=
      hshared.setPublisher hc (hshared.token c) rfl
        fun s hs => hshared.holds c s hs
    rw [hw']
    apply hanswer.fail hsharedAnswer hc
    rw [setPublisher_self]
    exact (hshared.token c).settled (by rw [hstage]; nofun)
  · rw [hw']
    exact hw.parsed hinfo hstage info

theorem findSource_exclusive {w : Server R} (hw : w.Exclusive)
    (hshared : w.Shared) {c i : Nat} (hc : c < w.accepted)
    (hstage : (w.publishers c).stage = .parsed)
    (hinfo : (w.publishers c).mediaInfo = some i) :
    (w.findSource c i).Exclusive := by
  have hfits := hw.fits c
  have hanswer := hfits.unanswered (by rw [hstage]; rfl)
  unfold findSource
  split
  · exact hw.fail hshared hc
      ((hshared.token c).settled (by rw [hstage]; nofun))
  · rename_i mediaPtr created hfind
    have hfound : forall s, mediaPtr = some s ->
        w.registry.entry (w.infos i).key = some s ∧
          w.isRegistered s = true := by
      intro s hs
      rw [hs] at hfind
      rcases Registry.find_some hfind with ⟨hentry, halive⟩
      exact ⟨hentry, hw.entry_registered _ s hentry halive⟩
    apply hw.setPublisher
    · exact Or.inl rfl
    · refine ⟨hfits.known, ?_, ?_, ?_, fun _ => hanswer⟩
      · intro s hs hfalse
        rcases hs with hs | hs
        · exact hfits.unfiled s (Or.inl hs) hfalse
        · cases hfalse.symm.trans (hfound s hs).2
      · intro s j hs hj
        cases hinfo.symm.trans hj
        rcases hfound s hs with ⟨hentry, hregistered⟩
        refine ⟨Registry.find_complete hfind, fun _ => hentry, ?_⟩
        intro hfalse
        cases hfalse.symm.trans hregistered
      · intro _ k hk
        cases hanswer.symm.trans hk

theorem createSource_exclusive {w : Server R} (hw : w.Exclusive)
    (hshared : w.Shared) {c i : Nat} (hc : c < w.accepted)
    (hstage : (w.publishers c).stage = .found none)
    (hinfo : (w.publishers c).mediaInfo = some i) :
    (w.createSource c i).Exclusive := by
  have hfits := hw.fits c
  have hanswer := hfits.unanswered (by rw [hstage]; rfl)
  unfold createSource
  split
  · rename_i hcomplete
    have hnew := hw.newSource hshared (hfits.known i hinfo)
    have hsource := w.newSource_self i
    have hdropped := hnew.dropOwnership (c := c) (by
      rintro k ⟨_, hk⟩
      cases hanswer.symm.trans hk)
    rcases (w.newSource i).dropOwnership_rest c with ⟨_, _, hinfos, _⟩
    rcases (w.newSource i).dropOwnership_source c w.sourceCount with
      ⟨owned, howned⟩
    rw [hsource] at howned
    have hmedia : forall d,
        (((w.newSource i).dropOwnership c).publishers d).mediaInfo =
          (w.publishers d).mediaInfo := by
      intro d
      by_cases hd : d = c
      · rw [hd, dropOwnership_self]
        rfl
      · rw [dropOwnership_ne _ hd]
        rfl
    apply hdropped.takeOwnership
    · rw [dropOwnership_self]
      exact hanswer
    · intro _ d hd
      rw [howned, hmedia] at hd
      exact hw.own_info d c i hd hinfo
    · intro j hj
      rw [hmedia] at hj
      cases hinfo.symm.trans hj
      unfold Placed isRegistered keyOf
      rw [hinfos, howned]
      exact ⟨(MediaInfo.isComplete_iff _).mp hcomplete.2, nofun, fun _ => rfl⟩
  · exact badName_exclusive hw hshared hc (by rw [hstage]; nofun)

theorem reconnect_exclusive {w : Server R} (hw : w.Exclusive) {c : Nat}
    {s : SourcePtr} (hstage : (w.publishers c).stage = .found (some s)) :
    (w.reconnect c s).Exclusive := by
  have hanswer := (hw.fits c).unanswered (by rw [hstage]; rfl)
  have hdropped := hw.dropOwnership (c := c) (by
    rintro k ⟨_, hk⟩
    cases hanswer.symm.trans hk)
  have hfits := hdropped.fits c
  rw [dropOwnership_self] at hfits
  apply hdropped.setPublisher
  · exact Or.inl rfl
  · rw [dropOwnership_self]
    refine ⟨hfits.known, ?_, ?_, hfits.answered, fun _ => hanswer⟩
    · intro r hr
      rcases hr with hr | hr
      · exact hfits.unfiled r (Or.inl hr)
      · apply hfits.unfiled r (Or.inr _)
        show (w.publishers c).stage.pointer = some r
        rw [hstage]
        exact hr
    · intro r i hr
      apply hfits.pointing r i
      show (w.publishers c).stage.pointer = some r
      rw [hstage]
      exact hr

theorem getOwnership_exclusive {w : Server R} (hw : w.Exclusive)
    (hshared : w.Shared) {c : Nat} (hc : c < w.accepted) {s : SourcePtr}
    (hstage : (w.publishers c).stage = .dropped s) :
    (w.getOwnership c s).Exclusive := by
  have hfits := hw.fits c
  have hpointer : (w.publishers c).stage.pointer = some s := by
    rw [hstage]
    rfl
  unfold getOwnership
  split
  · exact badName_exclusive hw hshared hc (by rw [hstage]; nofun)
  · apply hw.takeOwnership
    · exact hfits.unanswered (by rw [hstage]; rfl)
    · exact hfits.unfiled s (Or.inr hpointer)
    · intro i hi
      exact hfits.pointing s i hpointer hi

theorem startPublish_exclusive {w : Server R} (hw : w.Exclusive)
    (hshared : w.Shared) {c i : Nat} (hc : c < w.accepted) {s : SourcePtr}
    (hstage : (w.publishers c).stage = .won s)
    (hinfo : (w.publishers c).mediaInfo = some i) :
    (w.startPublish c i s).Exclusive := by
  have hfits := hw.fits c
  have hpointer : (w.publishers c).stage.pointer = some s := by
    rw [hstage]
    rfl
  have htoken := hshared.token c
  unfold Publisher.TokenOk at htoken
  rw [hstage] at htoken
  rcases hfits.pointing s i hpointer hinfo with ⟨hcomplete, hplaced⟩
  apply Exclusive.dropPointer _ (started_shared hshared hc hstage _)
  apply hw.setPublisher
  · exact Or.inl rfl
  · refine ⟨hfits.known, ?_, nofun, ?_, nofun⟩
    · intro r hr
      rcases hr with hr | hr
      · cases hr
        exact hfits.unfiled s (Or.inr hpointer)
      · cases hr
    · intro _ k hk
      cases hk
      exact ⟨hcomplete, s, rfl, htoken, hplaced⟩

theorem publishNext_exclusive {w w' : Server R} (hw : w.Exclusive)
    (hshared : w.Shared) {c : Nat} (hc : c < w.accepted)
    (h : w.publishNext c = some w') : w'.Exclusive := by
  rcases publishNext_cases h with ⟨i, hinfo, hadvance⟩
  cases hadvance with
  | find hstage => exact findSource_exclusive hw hshared hc hstage hinfo
  | create hstage => exact createSource_exclusive hw hshared hc hstage hinfo
  | reconnect s hstage => exact reconnect_exclusive hw hstage
  | getOwnership s hstage => exact getOwnership_exclusive hw hshared hc hstage
  | start s hstage => exact startPublish_exclusive hw hshared hc hstage hinfo

theorem processMetadata_exclusive {w w' : Server R} (hw : w.Exclusive)
    (hshared : w.Shared) {c : Nat} (hc : c < w.accepted) {entries : Metadata}
    (h : w.processMetadata c entries = some w') : w'.Exclusive := by
  rcases processMetadata_cases h with ⟨hstage, metaData, kept, _, hkept, hw'⟩
  have hfits := hw.fits c
  have hkeep : kept.Exclusive := by
    rw [hkept]
    exact hw.setPublisher (Or.inl rfl) ⟨hfits.known, hfits.unfiled,
      hfits.pointing, hfits.answered, hfits.unanswered⟩
  have hsharedKeep : kept.Shared := by
    rw [hkept]
    exact hshared.setPublisher hc (hshared.token c) rfl
      fun s hs => hshared.holds c s hs
  have hself : kept.publishers c =
      { w.publishers c with metaData := metaData } := by
    rw [hkept, setPublisher_self]
  have haccepted : c < kept.accepted := by
    rw [hkept]
    exact hc
  rcases hw' with ⟨_, hw'⟩ | ⟨s, hsource, hw'⟩
  · rw [hw']
    apply hkeep.fail hsharedKeep haccepted
    rw [hself]
    exact (hshared.token c).settled (by rw [hstage]; nofun)
  · rw [hw']
    apply callSource_exclusive hkeep hsharedKeep haccepted
    · rw [hself]
      dsimp only
      rw [hstage]
      nofun
    · rw [hkept]
      exact hshared.holds c s (Or.inl hsource)
    · exact initTracks_leads _

theorem checkAv_exclusive {w w' : Server R} (hw : w.Exclusive)
    (hshared : w.Shared) {c : Nat} (hc : c < w.accepted) {pkt : RtmpPacket}
    (h : w.checkAv c pkt = some w') : w'.Exclusive := by
  have hfits := hw.fits c
  rcases checkAv_cases h with ⟨hstage, hw' | ⟨_, hw'⟩⟩
  · rw [hw']
    exact hw.fail hshared hc
      ((hshared.token c).settled (by rw [hstage]; nofun))
  · rw [hw']
    apply hw.setPublisher
    · exact Or.inl rfl
    · refine ⟨hfits.known, ?_, nofun, hfits.answered, nofun⟩
      intro s hs
      rcases hs with hs | hs
      · exact hfits.unfiled s (Or.inl hs)
      · cases hs

theorem processAv_exclusive [DecidableEq R]
    {h264DecSeqParameterSet : Bytes -> Bool} {w w' : Server R}
    (hw : w.Exclusive) (hshared : w.Shared) {c : Nat} (hc : c < w.accepted)
    (h : w.processAv h264DecSeqParameterSet c = some w') : w'.Exclusive := by
  have hfits := hw.fits c
  rcases processAv_cases h with ⟨pkt, s, pushed, hstage, hsource, hpushed, hw'⟩
  have hidle : (w.setPublisher c
      { w.publishers c with stage := .idle }).Exclusive := by
    apply hw.setPublisher
    · exact Or.inl rfl
    · refine ⟨hfits.known, ?_, nofun, hfits.answered, nofun⟩
      intro r hr
      rcases hr with hr | hr
      · exact hfits.unfiled r (Or.inl hr)
      · cases hr
  have hsharedIdle : (w.setPublisher c
      { w.publishers c with stage := .idle }).Shared := by
    apply hshared.setPublisher hc
    · exact (hshared.token c).settled (by rw [hstage]; nofun)
    · rfl
    · intro r hr
      rcases hr with hr | hr
      · exact hshared.holds c r (Or.inl hr)
      · cases hr
  rw [hw', hpushed]
  apply callSource_exclusive (hidle.withPackets _) (hsharedIdle.withPackets _)
    hc
  · show forall r, ((w.setPublisher c _).publishers c).stage ≠ .won r
    rw [setPublisher_self]
    nofun
  · exact hshared.holds c s (Or.inl hsource)
  · exact processAvPacket_leads _ _

theorem destruct_exclusive {w w' : Server R} (hw : w.Exclusive)
    (hshared : w.Shared) {c : Nat} (h : w.destruct c = some w') :
    w'.Exclusive := by
  have hfits := hw.fits c
  rcases destruct_cases h with ⟨hc, hclosed, _, hend⟩
  have hstop : forall p : Publisher, p.stage = .stopped ->
      (p.mediaInfo = (w.publishers c).mediaInfo ∨ p.mediaInfo = none) ->
        (p.rtmpSource = none ∨
          p.rtmpSource = (w.publishers c).rtmpSource) ->
          p.isOpen = (w.publishers c).isOpen -> w.Fits c p := by
    intro p hp hinfo hsource hopen
    refine ⟨?_, ?_, ?_, ?_, ?_⟩
    · intro i hi
      rcases hinfo with hsame | hnone
      · exact hfits.known i (hsame.symm.trans hi)
      · cases hnone.symm.trans hi
    · intro s hs
      rcases hs with hs | hs
      · rcases hsource with hnone | hsame
        · cases hnone.symm.trans hs
        · exact hfits.unfiled s (Or.inl (hsame.symm.trans hs))
      · rw [hp] at hs
        cases hs
    · intro s i hs
      rw [hp] at hs
      cases hs
    · intro hpopen
      exact absurd (hopen.symm.trans hpopen) hclosed
    · intro hpublishing
      rw [hp] at hpublishing
      cases hpublishing
  rcases hend with hw' | ⟨hown, s, hw'⟩ | ⟨_, hw'⟩ | hw'
  · rw [hw']
    apply Exclusive.dropOwnership
    · exact hw.setPublisher (Or.inl rfl)
        (hstop _ rfl (Or.inl rfl) (Or.inr rfl) rfl)
    · rintro k ⟨hopen, _⟩
      rw [setPublisher_self] at hopen
      exact hclosed hopen
  · rw [hw']
    apply Exclusive.dropPointer
    · exact hw.setPublisher (Or.inl rfl)
        (hstop _ rfl (Or.inl rfl) (Or.inl rfl) rfl)
    · apply hshared.setPublisher hc
      · exact Or.inl hown
      · rfl
      · intro r hr
        rcases hr with hr | hr <;> cases hr
  · rw [hw']
    exact hw.setPublisher (Or.inr rfl)
      (hstop _ rfl (Or.inr rfl) (Or.inr rfl) rfl)
  · rw [hw']
    exact hw.setPublisher (Or.inl rfl)
      (hstop _ rfl (Or.inl rfl) (Or.inr rfl) rfl)

theorem step_exclusive [DecidableEq R] {h264DecSeqParameterSet : Bytes -> Bool}
    {w w' : Server R} {e : ServerEvent} (hw : w.Shared ∧ w.Exclusive)
    (hstep : w.step h264DecSeqParameterSet e = some w') :
    w'.Shared ∧ w'.Exclusive := by
  refine ⟨step_shared hw.1 hstep, ?_⟩
  rcases hw with ⟨hshared, hexclusive⟩
  rcases step_cases hstep with ⟨haccepted, h⟩
  cases e with
  | accept =>
      cases h
      exact hexclusive.change { w with accepted := w.accepted + 1 } rfl rfl rfl
        hexclusive.entry_registered hexclusive.entry_lt hexclusive.described
        fun _ _ _ => ⟨rfl, id, fun _ hk => hk⟩
  | connect c app tcUrl =>
      exact connect_exclusive hexclusive hshared (haccepted c rfl) h
  | publish c stream =>
      exact publish_exclusive hexclusive hshared (haccepted c rfl) h
  | publishNext c =>
      exact publishNext_exclusive hexclusive hshared (haccepted c rfl) h
  | metadata c entries =>
      exact processMetadata_exclusive hexclusive hshared (haccepted c rfl) h
  | av c pkt => exact checkAv_exclusive hexclusive hshared (haccepted c rfl) h
  | process c =>
      exact processAv_exclusive hexclusive hshared (haccepted c rfl) h
  | malformed c =>
      rcases Option.ite_none_right_eq_some.mp h with ⟨hstage, hw'⟩
      cases hw'
      exact hexclusive.fail hshared (haccepted c rfl)
        ((hshared.token c).settled (by rw [hstage]; nofun))
  | close c =>
      cases h
      have hfits := hexclusive.fits c
      exact hexclusive.setPublisher (Or.inl rfl)
        ⟨hfits.known, hfits.unfiled, hfits.pointing, nofun, hfits.unanswered⟩
  | destruct c => exact destruct_exclusive hexclusive hshared h
  | pull k =>
      cases h
      rcases w.pull_cases k with hsame | ⟨s, _, hpulled⟩
      · rw [hsame]
        exact hexclusive
      · rw [hpulled]
        exact hexclusive.withPulling _
  | letGo i =>
      cases h
      apply (hexclusive.withPulling _).dropPointer
      exact ⟨hshared.bounded, hshared.fresh,
        fun s hs => hshared.pulled s (List.eraseIdx_subset hs), hshared.holds,
        hshared.token, hshared.unique, hshared.owned⟩

end Exclusivity

end Server

end Rtmp
end Streaming
