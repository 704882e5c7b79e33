import Streaming.Rtmp.Exclusivity

/-!
# Publishing one key

Two connections may both be told to start publishing a key that no source is
registered for yet: sources are registered with their first packet behind the
config frames, on purpose.  What is exclusive is the place in the registry, and
who comes after it has been taken is turned away.
-/

namespace Streaming
namespace Rtmp

open Foundation Media RtmpMediaSource Util

namespace Server

section TurnedAway

variable {R : Type}

/-!
## What a step leaves alone
-/

theorem dropPointer_infos (w : Server R) (r : Option SourcePtr) :
    (w.dropPointer r).infos = w.infos := by
  rcases w.dropPointer_cases r with hsame | ⟨s, _, _, hdestroy⟩
  · rw [hsame]
  · rw [hdestroy]
    rfl

/-- Nothing happens to a connection and to its key. -/
def Untouched (w w' : Server R) (y : Nat) : Prop :=
  w'.publishers y = w.publishers y ∧
    forall i, (w.publishers y).mediaInfo = some i -> w'.infos i = w.infos i

theorem untouched_setPublisher (w : Server R) {x y : Nat} (hy : y ≠ x)
    (p : Publisher) : w.Untouched (w.setPublisher x p) y :=
  ⟨w.setPublisher_ne hy p, fun _ _ => rfl⟩

theorem Untouched.dropPointer {w w' : Server R} {y : Nat}
    (h : w.Untouched w' y) (r : Option SourcePtr) :
    w.Untouched (w'.dropPointer r) y := by
  unfold Untouched
  rw [dropPointer_publishers, dropPointer_infos]
  exact h

theorem Untouched.fail {w w' : Server R} {x y : Nat} (h : w.Untouched w' y)
    (hy : y ≠ x) : w.Untouched (w'.fail x) y :=
  Untouched.dropPointer ⟨(w'.setPublisher_ne hy _).trans h.1, h.2⟩ _

theorem untouched_refl (w : Server R) (y : Nat) : w.Untouched w y :=
  ⟨rfl, fun _ _ => rfl⟩

theorem untouched_dropOwnership (w : Server R) {x y : Nat} (hy : y ≠ x) :
    w.Untouched (w.dropOwnership x) y := by
  rcases w.dropOwnership_rest x with ⟨_, _, hinfos, _⟩
  unfold Untouched
  rw [w.dropOwnership_ne hy, hinfos]
  exact w.untouched_refl y

theorem untouched_callSource {w w' : Server R} {x y : Nat}
    (h : w.Untouched w' y) (hy : y ≠ x) (s : SourcePtr)
    (call : Call Registry R PUnit) : w.Untouched (w'.callSource x s call) y := by
  unfold callSource
  split
  · exact h
  · rename_i what g _
    have hrestored : w.Untouched (w'.restore s g) y := h
    exact hrestored.fail hy

theorem untouched_publishNext {w w' : Server R} {x y : Nat} (hy : y ≠ x)
    (h : w.publishNext x = some w') : w.Untouched w' y := by
  have hbadName : w.Untouched (w.badName x) y :=
    Untouched.fail (w.untouched_setPublisher hy _) hy
  rcases publishNext_cases h with ⟨i, _, hadvance⟩
  cases hadvance with
  | find _ =>
      unfold findSource
      split
      · exact (w.untouched_refl y).fail hy
      · exact w.untouched_setPublisher hy _
  | create _ =>
      unfold createSource
      split
      · have hdropped := (w.newSource i).untouched_dropOwnership hy
        refine ⟨?_, hdropped.2⟩
        exact (takeOwnership_ne _ hy _).trans hdropped.1
      · exact hbadName
  | reconnect s _ =>
      have hdropped := w.untouched_dropOwnership hy
      exact ⟨((w.dropOwnership x).setPublisher_ne hy _).trans hdropped.1,
        hdropped.2⟩
  | getOwnership s _ =>
      unfold getOwnership
      split
      · exact hbadName
      · exact ⟨w.takeOwnership_ne hy _, fun _ _ => rfl⟩
  | start s _ => exact (w.untouched_setPublisher hy _).dropPointer _

/-- An event of one connection is none of another's. -/
theorem step_untouched [DecidableEq R] {h264DecSeqParameterSet : Bytes -> Bool}
    {w w' : Server R} {e : ServerEvent} (hw : w.Exclusive)
    (hstep : w.step h264DecSeqParameterSet e = some w') {y : Nat}
    (hy : connection e ≠ some y) : w.Untouched w' y := by
  have hother : forall x, connection e = some x -> y ≠ x := by
    intro x hx heq
    exact hy (heq ▸ hx)
  have h := (step_cases hstep).2
  cases e with
  | accept =>
      cases h
      exact w.untouched_refl y
  | connect x app tcUrl =>
      have hne : y ≠ x := hother x rfl
      have hnew : forall info, w.Untouched
          { w.setPublisher x
              { w.publishers x with mediaInfo := some w.infoCount } with
            infos := Function.update w.infos w.infoCount info
            infoCount := w.infoCount + 1 } y := by
        intro info
        refine ⟨w.setPublisher_ne hne _, ?_⟩
        intro i hi
        exact Function.update_of_ne (Nat.ne_of_lt ((hw.fits y).known i hi)) _ _
      rcases connect_cases h with ⟨_, info, created, hcreated, hw' | hw'⟩
      · rw [hw', hcreated]
        exact hnew info
      · rw [hw', hcreated]
        exact (hnew info).fail hne
  | publish x stream =>
      have hne : y ≠ x := hother x rfl
      rcases publish_cases h with ⟨i, _, hi, ⟨_, hw'⟩ | ⟨info, _, hw'⟩⟩
      · rw [hw']
        exact (w.untouched_setPublisher hne _).fail hne
      · rw [hw']
        refine ⟨w.setPublisher_ne hne _, ?_⟩
        intro j hj
        have hij : j ≠ i := by
          intro heq
          subst heq
          exact hne (hw.own_info y x j hj hi)
        exact Function.update_of_ne hij _ _
  | publishNext x =>
      exact untouched_publishNext (hother x rfl) h
  | metadata x entries =>
      have hne : y ≠ x := hother x rfl
      rcases processMetadata_cases h with ⟨_, metaData, kept, _, hkept, hw'⟩
      have hkeep : w.Untouched kept y := by
        rw [hkept]
        exact w.untouched_setPublisher hne _
      rcases hw' with ⟨_, hw'⟩ | ⟨s, _, hw'⟩
      · rw [hw']
        exact hkeep.fail hne
      · rw [hw']
        exact untouched_callSource hkeep hne s _
  | av x pkt =>
      have hne : y ≠ x := hother x rfl
      rcases checkAv_cases h with ⟨_, hw' | ⟨_, hw'⟩⟩
      · rw [hw']
        exact (w.untouched_refl y).fail hne
      · rw [hw']
        exact w.untouched_setPublisher hne _
  | process x =>
      have hne : y ≠ x := hother x rfl
      rcases processAv_cases h with ⟨pkt, s, pushed, _, _, hpushed, hw'⟩
      have hidle : w.Untouched pushed y := by
        rw [hpushed]
        exact w.untouched_setPublisher hne _
      rw [hw']
      exact untouched_callSource hidle hne s _
  | malformed x =>
      rcases Option.ite_none_right_eq_some.mp h with ⟨_, hw'⟩
      cases hw'
      exact (w.untouched_refl y).fail (hother x rfl)
  | close x =>
      cases h
      exact w.untouched_setPublisher (hother x rfl) _
  | destruct x =>
      have hne : y ≠ x := hother x rfl
      rcases destruct_cases h with
        ⟨_, _, _, hw' | ⟨_, s, hw'⟩ | ⟨_, hw'⟩ | hw'⟩
      · have hstopped := w.untouched_setPublisher hne
          { w.publishers x with stage := .stopped }
        have hdropped := untouched_dropOwnership
          (w.setPublisher x { w.publishers x with stage := .stopped }) hne
        rw [hw']
        refine ⟨hdropped.1.trans hstopped.1, ?_⟩
        intro i hi
        exact hdropped.2 i ((congrArg Publisher.mediaInfo hstopped.1).trans hi)
      · rw [hw']
        exact (w.untouched_setPublisher hne _).dropPointer _
      · rw [hw']
        exact w.untouched_setPublisher hne _
      · rw [hw']
        exact w.untouched_setPublisher hne _
  | pull k =>
      cases h
      rcases w.pull_cases k with hsame | ⟨s, _, hpulled⟩
      · rw [hsame]
        exact w.untouched_refl y
      · rw [hpulled]
        exact w.untouched_refl y
  | letGo i =>
      cases h
      have hpulling : w.Untouched
          { w with pulling := w.pulling.eraseIdx i } y := w.untouched_refl y
      exact hpulling.dropPointer _

theorem fail_rtmpSource (w : Server R) (c : Nat) :
    ((w.fail c).publishers c).rtmpSource = (w.publishers c).rtmpSource := by
  unfold fail
  rw [dropPointer_publishers, setPublisher_self]

theorem callSource_rtmpSource (w : Server R) (c : Nat) (s : SourcePtr)
    (call : Call Registry R PUnit) :
    ((w.callSource c s call).publishers c).rtmpSource =
      (w.publishers c).rtmpSource := by
  unfold callSource
  split
  · rfl
  · exact fail_rtmpSource _ c

/-- Outside of `on_amf_publish`, an open connection keeps its source. -/
theorem step_rtmpSource [DecidableEq R] {h264DecSeqParameterSet : Bytes -> Bool}
    {w w' : Server R} {e : ServerEvent} (hw : w.Exclusive)
    (hstep : w.step h264DecSeqParameterSet e = some w') {d : Nat}
    (hopen : (w.publishers d).isOpen = true)
    (hstage : (w.publishers d).stage.publishing = false) :
    (w'.publishers d).rtmpSource = (w.publishers d).rtmpSource := by
  by_cases hd : connection e = some d
  · have h := (step_cases hstep).2
    cases e with
    | accept | pull _ | letGo _ => cases hd
    | connect x app tcUrl =>
        cases hd
        rcases connect_cases h with ⟨_, info, created, hcreated, hw'⟩
        have hsame : (created.publishers d).rtmpSource =
            (w.publishers d).rtmpSource := by
          rw [hcreated]
          show ((w.setPublisher d _).publishers d).rtmpSource = _
          rw [setPublisher_self]
        rcases hw' with hw' | hw'
        · rw [hw']
          exact hsame
        · rw [hw', fail_rtmpSource]
          exact hsame
    | publish x stream =>
        cases hd
        rcases publish_cases h with ⟨i, _, _, ⟨_, hw'⟩ | ⟨info, _, hw'⟩⟩
        · rw [hw', fail_rtmpSource, setPublisher_self]
        · rw [hw']
          show ((w.setPublisher d _).publishers d).rtmpSource = _
          rw [setPublisher_self]
    | publishNext x =>
        cases hd
        rcases publishNext_cases h with ⟨i, _, hadvance⟩
        cases hadvance with
        | find hst | create hst | reconnect s hst | getOwnership s hst
        | start s hst =>
            rw [hst] at hstage
            cases hstage
    | metadata x entries =>
        cases hd
        rcases processMetadata_cases h with ⟨_, metaData, kept, _, hkept, hw'⟩
        have hsame : (kept.publishers d).rtmpSource =
            (w.publishers d).rtmpSource := by
          rw [hkept, setPublisher_self]
        rcases hw' with ⟨_, hw'⟩ | ⟨s, _, hw'⟩
        · rw [hw', fail_rtmpSource]
          exact hsame
        · rw [hw', callSource_rtmpSource]
          exact hsame
    | av x pkt =>
        cases hd
        rcases checkAv_cases h with ⟨_, hw' | ⟨_, hw'⟩⟩
        · rw [hw']
          exact w.fail_rtmpSource d
        · rw [hw', setPublisher_self]
    | process x =>
        cases hd
        rcases processAv_cases h with ⟨pkt, s, pushed, _, _, hpushed, hw'⟩
        rw [hw', callSource_rtmpSource, hpushed]
        show ((w.setPublisher d _).publishers d).rtmpSource = _
        rw [setPublisher_self]
    | malformed x =>
        cases hd
        rcases Option.ite_none_right_eq_some.mp h with ⟨_, hw'⟩
        cases hw'
        exact w.fail_rtmpSource d
    | close x =>
        cases hd
        cases h
        rw [setPublisher_self]
    | destruct x =>
        cases hd
        exact absurd hopen (destruct_cases h).2.1
  · rw [(step_untouched hw hstep hd).1]

/-!
## Who is turned away
-/

/-- The connection's source is registered. -/
def OnAir (w : Server R) (d : Nat) : Prop :=
  exists s, (w.publishers d).rtmpSource = some s ∧ w.isRegistered s = true

/-- Where a publish command stands that came after the key was taken. -/
inductive Barred (w : Server R) (c d : Nat) (k : StreamKey) : Prop where
  | parsed (i : Nat) (hstage : (w.publishers c).stage = .parsed)
      (hinfo : (w.publishers c).mediaInfo = some i)
      (hkey : (w.infos i).key = k) (hanswer : (w.publishers c).answer = none)
  | found (hstage : (w.publishers c).stage =
        .found (w.publishers d).rtmpSource)
      (hanswer : (w.publishers c).answer = none)
  | dropped (s : SourcePtr) (hstage : (w.publishers c).stage = .dropped s)
      (hsource : (w.publishers d).rtmpSource = some s)
      (hanswer : (w.publishers c).answer = none)
  | turnedAway (hstage : (w.publishers c).stage = .stopped)
      (hclosed : (w.publishers c).isOpen = false)
      (hanswer : (w.publishers c).answer = some .badName)

theorem Barred.not_started {w : Server R} {c d : Nat} {k : StreamKey}
    (h : w.Barred c d k) (j : StreamKey) :
    (w.publishers c).answer ≠ some (.start j) := by
  intro hj
  cases h with
  | parsed i _ _ _ hanswer => cases hanswer.symm.trans hj
  | found _ hanswer => cases hanswer.symm.trans hj
  | dropped s _ _ hanswer => cases hanswer.symm.trans hj
  | turnedAway _ _ hanswer => cases hanswer.symm.trans hj

/-- Who publishes a key with a source that is registered has the entry. -/
theorem onAir_entry {w : Server R} (hw : w.Exclusive) {d : Nat} {k : StreamKey}
    (hpublishing : w.Publishing d k) (honAir : w.OnAir d) :
    k.Complete ∧ exists s, (w.publishers d).rtmpSource = some s ∧
      (w.publishers d).srcOwnership = some s ∧
        w.registry.entry k = some s := by
  rcases (hw.fits d).answered hpublishing.1 k hpublishing.2 with
    ⟨hcomplete, s, hs, hown, hplaced⟩
  rcases honAir with ⟨r, hr, hregistered⟩
  cases hs.symm.trans hr
  exact ⟨hcomplete, s, hs, hown, hplaced.1 hregistered⟩

/-- The connection's own steps lead it on to the answer. -/
theorem barred_next {w w' : Server R} (hshared : w.Shared) (hw : w.Exclusive)
    {c d : Nat} (hne : c ≠ d) {k : StreamKey}
    (hpublishing : w.Publishing d k) (honAir : w.OnAir d)
    (hbarred : w.Barred c d k) (h : w.publishNext c = some w') :
    w'.Barred c d k := by
  rcases onAir_entry hw hpublishing honAir with
    ⟨hcomplete, s, hs, hown, hentry⟩
  have halive := hshared.holds d s (Or.inl hs)
  unfold publishNext at h
  cases hbarred with
  | parsed i hstage hinfo hkey hanswer =>
      rw [hstage, hinfo] at h
      cases h
      have hfind : w.registry.find w.alive (w.infos i).key =
          .ok (some s, true) := by
        rw [hkey]
        unfold Registry.find
        rw [if_neg (by
          rcases hcomplete with ⟨h₁, h₂, h₃, h₄⟩
          rintro (h | h | h | h) <;> contradiction), hentry]
        dsimp only
        rw [if_pos halive]
      have hresult : w.findSource c i =
          w.setPublisher c { w.publishers c with stage := .found (some s) } := by
        unfold findSource
        rw [hfind]
      rw [hresult]
      apply Barred.found
      · rw [setPublisher_self, w.setPublisher_ne (Ne.symm hne), hs]
      · rw [setPublisher_self]
        exact hanswer
  | found hstage hanswer =>
      rw [hs] at hstage
      cases hinfo : (w.publishers c).mediaInfo with
      | none =>
          rw [hstage, hinfo] at h
          cases h
      | some i =>
          rw [hstage, hinfo] at h
          cases h
          have hself := w.dropOwnership_self c
          have hother := w.dropOwnership_ne (Ne.symm hne)
          apply Barred.dropped s
          · exact congrArg Publisher.stage (setPublisher_self _ c _)
          · show (((w.dropOwnership c).setPublisher c _).publishers d).rtmpSource
              = some s
            rw [setPublisher_ne _ (Ne.symm hne), hother]
            exact hs
          · show (((w.dropOwnership c).setPublisher c _).publishers c).answer
              = none
            rw [setPublisher_self, hself]
            exact hanswer
  | dropped r hstage hsource hanswer =>
      cases hsource.symm.trans hs
      cases hinfo : (w.publishers c).mediaInfo with
      | none =>
          rw [hstage, hinfo] at h
          cases h
      | some i =>
          rw [hstage, hinfo] at h
          cases h
          have howned : (w.sources s).owned = true :=
            (hshared.owned s halive).mpr ⟨d, hown⟩
          have hresult : w.getOwnership c s = w.badName c := if_pos howned
          rw [hresult, badName_eq]
          apply Barred.turnedAway
          · rw [dropPointer_publishers, setPublisher_self]
          · rw [dropPointer_publishers, setPublisher_self]
          · rw [dropPointer_publishers, setPublisher_self]
  | turnedAway hstage _ _ =>
      rw [hstage] at h
      cases h

theorem Barred.not_idle {w : Server R} {c d : Nat} {k : StreamKey}
    (h : w.Barred c d k) : (w.publishers c).stage ≠ .idle := by
  intro hidle
  cases h with
  | parsed i hstage _ _ _ => cases hidle.symm.trans hstage
  | found hstage _ => cases hidle.symm.trans hstage
  | dropped s hstage _ _ => cases hidle.symm.trans hstage
  | turnedAway hstage _ _ => cases hidle.symm.trans hstage

theorem Barred.not_pushing {w : Server R} {c d : Nat} {k : StreamKey}
    (h : w.Barred c d k) (pkt : RtmpPacket) :
    (w.publishers c).stage ≠ .pushing pkt := by
  intro hpushing
  cases h with
  | parsed i hstage _ _ _ => cases hpushing.symm.trans hstage
  | found hstage _ => cases hpushing.symm.trans hstage
  | dropped s hstage _ _ => cases hpushing.symm.trans hstage
  | turnedAway hstage _ _ => cases hpushing.symm.trans hstage

/-- A connection that may be closed, and is otherwise as it was. -/
theorem Barred.kept {w w' : Server R} {c d : Nat} {k : StreamKey}
    (h : w.Barred c d k)
    (hstage : (w'.publishers c).stage = (w.publishers c).stage)
    (hinfo : (w'.publishers c).mediaInfo = (w.publishers c).mediaInfo)
    (hanswer : (w'.publishers c).answer = (w.publishers c).answer)
    (hclosed : (w.publishers c).isOpen = false ->
      (w'.publishers c).isOpen = false)
    (hinfos : forall i, (w.publishers c).mediaInfo = some i ->
      w'.infos i = w.infos i)
    (hsource : (w'.publishers d).rtmpSource = (w.publishers d).rtmpSource) :
    w'.Barred c d k := by
  cases h with
  | parsed i hparsed hi hkey hnone =>
      apply Barred.parsed i (hstage.trans hparsed) (hinfo.trans hi)
      · rw [hinfos i hi]
        exact hkey
      · exact hanswer.trans hnone
  | found hfound hnone =>
      apply Barred.found
      · rw [hsource]
        exact hstage.trans hfound
      · exact hanswer.trans hnone
  | dropped s hdropped hs hnone =>
      exact .dropped s (hstage.trans hdropped) (hsource.trans hs)
        (hanswer.trans hnone)
  | turnedAway hstopped hshut hbad =>
      exact .turnedAway (hstage.trans hstopped) (hclosed hshut)
        (hanswer.trans hbad)

/-- Whoever is destroyed after a publish command has been turned away. -/
theorem barred_destruct {w w' : Server R} {c d : Nat} {k : StreamKey}
    (hbarred : w.Barred c d k) (h : w.destruct c = some w') :
    w'.Barred c d k := by
  rcases destruct_cases h with ⟨_, _, hdone, hend⟩
  have hstopped := hdone.resolve_left hbarred.not_idle
  cases hbarred with
  | turnedAway hstage hclosed hanswer =>
      have hkept : forall p : Publisher, p.stage = .stopped ->
          p.isOpen = false -> p.answer = some .badName ->
            w'.publishers c = p -> w'.Barred c d k := by
        intro p h₁ h₂ h₃ hp
        subst hp
        exact .turnedAway h₁ h₂ h₃
      rcases hend with hw' | ⟨_, s, hw'⟩ | ⟨_, hw'⟩ | hw'
      · exact hkept { w.publishers c with
            stage := .stopped
            srcOwnership := none } rfl hclosed hanswer
          (by rw [hw', dropOwnership_self, setPublisher_self])
      · exact hkept { w.publishers c with
            stage := .stopped
            rtmpSource := none } rfl hclosed hanswer
          (by rw [hw', dropPointer_publishers, setPublisher_self])
      · exact hkept { w.publishers c with
            stage := .stopped
            mediaInfo := none } rfl hclosed hanswer
          (by rw [hw', setPublisher_self])
      · exact hkept { w.publishers c with
            stage := .stopped
            metaDataAlive := false } rfl hclosed hanswer
          (by rw [hw', setPublisher_self])
  | parsed i hstage _ _ _ => cases hstopped.symm.trans hstage
  | found hstage _ => cases hstopped.symm.trans hstage
  | dropped s hstage _ _ => cases hstopped.symm.trans hstage

theorem barred_step [DecidableEq R] {h264DecSeqParameterSet : Bytes -> Bool}
    {w w' : Server R} {e : ServerEvent} (hshared : w.Shared) (hw : w.Exclusive)
    {c d : Nat} (hne : c ≠ d) {k : StreamKey}
    (hpublishing : w.Publishing d k) (honAir : w.OnAir d)
    (hbarred : w.Barred c d k)
    (hstep : w.step h264DecSeqParameterSet e = some w') :
    w'.Barred c d k := by
  have hsource : (w'.publishers d).rtmpSource = (w.publishers d).rtmpSource := by
    apply step_rtmpSource hw hstep hpublishing.1
    cases hstage : (w.publishers d).stage.publishing with
    | false => rfl
    | true =>
        cases ((hw.fits d).unanswered hstage).symm.trans hpublishing.2
  rcases Decidable.em (connection e = some c) with hc | hc
  · have h := (step_cases hstep).2
    have hbusy := hbarred.not_idle
    cases e with
    | accept | pull _ | letGo _ => cases hc
    | publishNext x =>
        cases hc
        exact barred_next hshared hw hne hpublishing honAir hbarred h
    | connect x app tcUrl =>
        cases hc
        exact absurd (connect_cases h).1 hbusy
    | publish x stream =>
        cases hc
        rcases publish_cases h with ⟨i, hidle, _⟩
        exact absurd hidle hbusy
    | metadata x entries =>
        cases hc
        exact absurd (processMetadata_cases h).1 hbusy
    | av x pkt =>
        cases hc
        exact absurd (checkAv_cases h).1 hbusy
    | process x =>
        cases hc
        rcases processAv_cases h with ⟨pkt, s, pushed, hpushing, _⟩
        exact absurd hpushing (hbarred.not_pushing pkt)
    | malformed x =>
        cases hc
        exact absurd (Option.ite_none_right_eq_some.mp h).1 hbusy
    | close x =>
        cases hc
        cases h
        have hself := w.setPublisher_self c
          { w.publishers c with isOpen := false }
        refine hbarred.kept ?_ ?_ ?_ ?_ ?_ hsource
        · rw [hself]
        · rw [hself]
        · rw [hself]
        · intro _
          rw [hself]
        · intro i _
          rfl
    | destruct x =>
        cases hc
        exact barred_destruct hbarred h
  · rcases step_untouched hw hstep hc with ⟨hsame, hinfos⟩
    apply hbarred.kept _ _ _ _ hinfos hsource
    · rw [hsame]
    · rw [hsame]
    · rw [hsame]
    · rw [hsame]
      exact id

/-- As long as the key stays taken, the connection is not told to start. -/
theorem barred_run [DecidableEq R] {h264DecSeqParameterSet : Bytes -> Bool}
    {c d : Nat} (hne : c ≠ d) {k : StreamKey} {es : List ServerEvent}
    {w w' : Server R} (hw : w.Shared ∧ w.Exclusive) (hbarred : w.Barred c d k)
    (htaken : forall front back t, es = front ++ back ->
      run (step h264DecSeqParameterSet) w front = some t ->
        t.Publishing d k ∧ t.OnAir d)
    (h : run (step h264DecSeqParameterSet) w es = some w') :
    w'.Barred c d k := by
  induction es generalizing w with
  | nil =>
      cases h
      exact hbarred
  | cons e es ih =>
      rcases run_cons.mp h with ⟨t, he, hes⟩
      rcases htaken [] (e :: es) w rfl rfl with ⟨hpublishing, honAir⟩
      apply ih (step_exclusive hw he)
      · exact barred_step hw.1 hw.2 hne hpublishing honAir hbarred he
      · intro front back u heq hfront
        apply htaken (e :: front) back u
        · rw [heq]
          rfl
        · exact run_cons.mpr ⟨t, he, hfront⟩
      · exact hes

/--
Two open connections whose latest publish command was answered with Start for
one key do not both have a source that is registered.  While one of them has,
whoever begins to publish the key gets BadName for an answer and is closed.
-/
theorem publish_key_exclusive [DecidableEq R]
    {h264DecSeqParameterSet : Bytes -> Bool} {es : List ServerEvent}
    {w : Server R} (h : run (step h264DecSeqParameterSet) {} es = some w)
    (d : Nat) (k : StreamKey) (hpublishing : w.Publishing d k)
    (honAir : w.OnAir d) :
    (forall c, w.Publishing c k -> w.OnAir c -> c = d) ∧
      forall c i stream info back w', c ≠ d ->
        (w.publishers c).mediaInfo = some i ->
          MediaInfo.parseStream stream (w.infos i) = .ok info ->
            info.key = k ->
              run (step h264DecSeqParameterSet) w (.publish c stream :: back) =
                some w' ->
                (forall front rest t, .publish c stream :: back = front ++ rest ->
                  run (step h264DecSeqParameterSet) w front = some t ->
                    t.Publishing d k ∧ t.OnAir d) ->
                  (forall j, (w'.publishers c).answer ≠ some (.start j)) ∧
                    ((w'.publishers c).stage.publishing = false ->
                      (w'.publishers c).answer = some .badName ∧
                        (w'.publishers c).isOpen = false) := by
  have hw : w.Shared ∧ w.Exclusive :=
    run_keeps step_exclusive ⟨start_shared, start_exclusive⟩ h
  constructor
  · intro c hc hcAir
    rcases onAir_entry hw.2 hc hcAir with ⟨_, s, _, hown, hentry⟩
    rcases onAir_entry hw.2 hpublishing honAir with ⟨_, r, _, hown', hentry'⟩
    cases hentry.symm.trans hentry'
    exact hw.1.unique c d s hown hown'
  · intro c i stream info back w' hne hinfo hparse hkey hrun htaken
    rcases run_cons.mp hrun with ⟨t, hpublish, hback⟩
    have hbarred : t.Barred c d k := by
      rcases publish_cases (step_cases hpublish).2 with
        ⟨j, _, hj, ⟨⟨what, hfailed⟩, _⟩ | ⟨parsed, hparsed, ht⟩⟩
      · cases hj.symm.trans hinfo
        cases hparse.symm.trans hfailed
      · cases hj.symm.trans hinfo
        cases hparse.symm.trans hparsed
        have hself : t.publishers c = { w.publishers c with
            answer := none
            stage := .parsed } := by
          rw [ht]
          exact w.setPublisher_self c _
        apply Barred.parsed i
        · rw [hself]
        · rw [hself]
          exact hinfo
        · rw [ht]
          show (Function.update w.infos i info i).key = k
          rw [Function.update_self]
          exact hkey
        · rw [hself]
    have hlast := barred_run hne (step_exclusive hw hpublish) hbarred (by
      intro front rest u heq hfront
      apply htaken (.publish c stream :: front) rest u
      · rw [heq]
        rfl
      · exact run_cons.mpr ⟨t, hpublish, hfront⟩) hback
    refine ⟨hlast.not_started, ?_⟩
    intro hdone
    cases hlast with
    | parsed j hstage _ _ _ =>
        rw [hstage] at hdone
        cases hdone
    | found hstage _ =>
        rw [hstage] at hdone
        cases hdone
    | dropped s hstage _ _ =>
        rw [hstage] at hdone
        cases hdone
    | turnedAway _ hclosed hanswer => exact ⟨hanswer, hclosed⟩

end TurnedAway

instance {R : Type} (w : Server R) (c : Nat) (k : StreamKey) :
    Decidable (w.Publishing c k) :=
  inferInstanceAs (Decidable (_ ∧ _))

/-- The first connection publishes and sends, so that its source is registered;
the second one has connected. -/
def takenEvents : List ServerEvent :=
  liveEvents ++ [.accept, .connect 1 [97] [116]]

/-- The second one comes with the same stream. -/
def lateEvents : List ServerEvent :=
  [.publish 1 liveStream, .publishNext 1, .publishNext 1, .publishNext 1]

theorem takenEvents_holds {front : List ServerEvent} {t : Server Nat}
    (hfront : front <+: lateEvents)
    (h : run (step fun _ => true) {} (takenEvents ++ front) = some t) :
    t.Publishing 0 liveKey ∧ t.OnAir 0 := by
  have hall : forall n, n < 5 -> ((run (step (R := Nat) fun _ => true) {}
      (takenEvents ++ lateEvents.take n)).all fun t =>
        decide (t.Publishing 0 liveKey) && t.isRegistered 0 &&
          decide ((t.publishers 0).rtmpSource = some 0)) = true := by
    decide +kernel
  have hshort : front.length < 5 := Nat.lt_succ_of_le hfront.length_le
  have hheld := hall front.length hshort
  rw [← List.prefix_iff_eq_take.mp hfront, h] at hheld
  simp only [Option.all_some, Bool.and_eq_true, decide_eq_true_eq] at hheld
  exact ⟨hheld.1.1, 0, hheld.2, hheld.1.2⟩

/-- The first one has the key, and the second one is turned away. -/
theorem publish_key_exclusive_live :
    exists w w' : Server Nat,
      run (step fun _ => true) {} takenEvents = some w ∧
        (forall c, w.Publishing c liveKey -> w.OnAir c -> c = 0) ∧
        run (step fun _ => true) w lateEvents = some w' ∧
        (w'.publishers 1).answer = some .badName ∧
        (w'.publishers 1).isOpen = false := by
  have hends : ((run (step (R := Nat) fun _ => true) {} takenEvents).any
      fun w => decide ((w.publishers 1).mediaInfo = some 1) &&
        decide ((MediaInfo.parseStream liveStream (w.infos 1)).toOption.map
          MediaInfo.key = some liveKey) &&
        (run (step fun _ => true) w lateEvents).any fun w' =>
          !(w'.publishers 1).stage.publishing) = true := by
    decide +kernel
  rcases (Option.any_eq_true _ _).mp hends with ⟨w, hrun, hw⟩
  simp only [Bool.and_eq_true, decide_eq_true_eq] at hw
  rcases hw with ⟨⟨hinfo, hkey⟩, hlate⟩
  rcases (Option.any_eq_true _ _).mp hlate with ⟨w', hrun', hdone⟩
  rcases takenEvents_holds List.nil_prefix (by rw [List.append_nil]; exact hrun)
    with ⟨hpublishing, honAir⟩
  rcases publish_key_exclusive hrun 0 liveKey hpublishing honAir with
    ⟨hunique, hturned⟩
  cases hparse : MediaInfo.parseStream liveStream (w.infos 1) with
  | error what =>
      rw [hparse] at hkey
      cases hkey
  | ok info =>
      rw [hparse] at hkey
      have hheld : forall front rest t, lateEvents = front ++ rest ->
          run (step fun _ => true) w front = some t ->
            t.Publishing 0 liveKey ∧ t.OnAir 0 := by
        intro front rest t hsplit hfront
        exact takenEvents_holds ⟨rest, hsplit.symm⟩
          (run_append.mpr ⟨w, hrun, hfront⟩)
      have hanswer := (hturned 1 1 liveStream info _ w' (by decide) hinfo hparse
        (Option.some.inj hkey) hrun' hheld).2
      rw [Bool.not_eq_true'] at hdone
      exact ⟨w, w', hrun, hunique, hrun', hanswer hdone⟩

/-- Two connections publish the same stream before either of them has sent
anything. -/
def rivalEvents : List ServerEvent :=
  [.accept, .accept, .connect 0 [97] [116], .connect 1 [97] [116],
    .publish 0 liveStream, .publishNext 0, .publishNext 0, .publishNext 0,
    .publish 1 liveStream, .publishNext 1, .publishNext 1, .publishNext 1]

/-- Both are told to start. -/
theorem publish_key_shared :
    exists w : Server Nat, run (step fun _ => true) {} rivalEvents = some w ∧
      w.Publishing 0 liveKey ∧ w.Publishing 1 liveKey := by
  have hends : ((run (step (R := Nat) fun _ => true) {} rivalEvents).any fun w =>
      decide (w.Publishing 0 liveKey) && decide (w.Publishing 1 liveKey)) =
        true := by
    decide +kernel
  rcases (Option.any_eq_true _ _).mp hends with ⟨w, hrun, hw⟩
  simp only [Bool.and_eq_true, decide_eq_true_eq] at hw
  exact ⟨w, hrun, hw⟩

end Server

end Rtmp
end Streaming
