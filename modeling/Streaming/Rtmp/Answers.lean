import Streaming.Rtmp.TurnedAway

/-!
# The answers to publish commands

`on_amf_publish` answers where it ends, and in the `catch` around the lookup's
result.  `parse_stream` and the lookup come before the `try`: what they throw is
not answered.
-/

namespace Streaming
namespace Rtmp

open Foundation Media RtmpMediaSource Util

/-- How many steps of `on_amf_publish` are left at most. -/
def Stage.stepsLeft : Stage -> Nat
  | parsed => 4
  | found (some _) => 3
  | found none => 2
  | dropped _ => 2
  | won _ => 1
  | _ => 0

namespace Server

section Answers

variable {R : Type}

/-- The `onStatus` messages that the next step of `on_amf_publish` sends. -/
def nextStatus (w : Server R) (i : Nat) : Stage -> List Answer
  | .found none =>
      if (w.infos i).schema = kRtmpSchema ∧ (w.infos i).isComplete = true then []
      else [.badName]
  | .dropped mediaPtr =>
      if (w.sources mediaPtr).owned then [.badName] else []
  | .won _ => [.start (w.infos i).key]
  | _ => []

/-- The `onStatus` messages that an event sends to the connection. -/
def onStatus (w : Server R) (c : Nat) : ServerEvent -> List Answer
  | .publishNext d =>
      if d = c then
        match (w.publishers c).mediaInfo with
        | some i => w.nextStatus i (w.publishers c).stage
        | none => []
      else
        []
  | _ => []

theorem onStatus_self {w : Server R} {c i : Nat}
    (h : (w.publishers c).mediaInfo = some i) :
    w.onStatus c (.publishNext c) = w.nextStatus i (w.publishers c).stage := by
  unfold onStatus
  dsimp only
  rw [if_pos rfl, h]

theorem onStatus_other {w : Server R} {c : Nat} {e : ServerEvent}
    (h : connection e ≠ some c) : w.onStatus c e = [] := by
  cases e with
  | publishNext d =>
      have hd : d ≠ c := fun heq => h (congrArg some heq)
      exact if_neg hd
  | _ => rfl

/-- The rest of a publish command, until its handler has returned or thrown,
with what it sends.  Other connections go on in between. -/
inductive Command [DecidableEq R] (h264DecSeqParameterSet : Bytes -> Bool)
    (c : Nat) : Server R -> List Answer -> Server R -> Prop where
  | ended {w : Server R} (h : (w.publishers c).stage.publishing = false) :
      Command h264DecSeqParameterSet c w [] w
  | goesOn {w t w' : Server R} {e : ServerEvent} {answers : List Answer}
      (h : (w.publishers c).stage.publishing = true)
      (hstep : w.step h264DecSeqParameterSet e = some t)
      (hrest : Command h264DecSeqParameterSet c t answers w') :
      Command h264DecSeqParameterSet c w (w.onStatus c e ++ answers) w'

/-- One message: Start if the handler has returned, BadName if it has thrown. -/
def Answered (w : Server R) (c : Nat) (answers : List Answer) : Prop :=
  ((w.publishers c).stage = .idle ∧ exists k, answers = [.start k]) ∨
    ((w.publishers c).stage = .stopped ∧ answers = [.badName])

/-!
## One step
-/

theorem fail_self (w : Server R) (c : Nat) :
    (w.fail c).publishers c =
      { w.publishers c with stage := .stopped, isOpen := false } := by
  unfold fail
  rw [dropPointer_publishers, setPublisher_self]

theorem badName_stage (w : Server R) (c : Nat) :
    ((w.badName c).publishers c).stage = .stopped := by
  rw [badName_eq, dropPointer_publishers, setPublisher_self]

/-- In the midst of a publish command; the lookup will not throw. -/
structure Underway (w : Server R) (c i : Nat) : Prop where
  publishing : (w.publishers c).stage.publishing = true
  info : (w.publishers c).mediaInfo = some i
  complete : (w.publishers c).stage = .parsed -> (w.infos i).key.Complete

theorem find_returns {k : StreamKey} (h : k.Complete) (m : Registry)
    (alive : SourcePtr -> Bool) :
    exists mediaPtr created, m.find alive k = .ok (mediaPtr, created) := by
  unfold Registry.find
  rw [if_neg]
  · split
    · exact ⟨_, _, rfl⟩
    · exact ⟨_, _, rfl⟩
  · rintro (h' | h' | h' | h')
    · exact h.1 h'
    · exact h.2.1 h'
    · exact h.2.2.1 h'
    · exact h.2.2.2 h'

/-- The lookup throws, and nothing catches it before the session does. -/
theorem findSource_incomplete {w : Server R} {c i : Nat}
    (h : ¬ (w.infos i).key.Complete) : w.findSource c i = w.fail c := by
  unfold findSource
  split
  · rfl
  · rename_i hfind
    exact absurd (Registry.find_complete hfind) h

theorem Underway.behindLookup {w w' : Server R} {c i : Nat}
    (hw : w.Underway c i) {p : Publisher} (hp : w'.publishers c = p)
    (hpublishing : p.stage.publishing = true) (hstage : p.stage ≠ .parsed)
    (hinfo : p.mediaInfo = (w.publishers c).mediaInfo) : w'.Underway c i where
  publishing := by rw [hp, hpublishing]
  info := by rw [hp, hinfo, hw.info]
  complete := by
    rw [hp]
    exact fun h => absurd h hstage

/-- A step of the handler goes on silently, or ends the command with an
answer. -/
theorem Underway.publishNext {w w' : Server R} {c i : Nat}
    (hw : w.Underway c i) (h : w.publishNext c = some w') :
    (w'.Underway c i ∧ w.onStatus c (.publishNext c) = [] ∧
        (w'.publishers c).stage.stepsLeft < (w.publishers c).stage.stepsLeft) ∨
      ((w'.publishers c).stage.publishing = false ∧
        w'.Answered c (w.onStatus c (.publishNext c))) := by
  rcases publishNext_cases h with ⟨j, hj, hadvance⟩
  cases hw.info.symm.trans hj
  rw [onStatus_self hw.info]
  cases hadvance with
  | find hstage =>
      left
      rcases find_returns (hw.complete hstage) w.registry w.alive with
        ⟨mediaPtr, created, hfind⟩
      have hself : (w.findSource c i).publishers c =
          { w.publishers c with stage := .found mediaPtr } := by
        unfold findSource
        rw [hfind]
        exact setPublisher_self _ _ _
      refine ⟨hw.behindLookup hself rfl nofun rfl, by rw [hstage]; rfl, ?_⟩
      rw [hself, hstage]
      cases mediaPtr with
      | none =>
          show 2 < 4
          omega
      | some s =>
          show 3 < 4
          omega
  | create hstage =>
      rw [hstage]
      unfold createSource
      split
      · rename_i hvalid
        left
        have hself : ((((w.newSource i).dropOwnership c).takeOwnership c
            w.sourceCount).publishers c) = _ := takeOwnership_self _ c _
        refine ⟨hw.behindLookup hself rfl nofun ?_, if_pos hvalid, ?_⟩
        · rw [dropOwnership_self]
          rfl
        · rw [hself]
          exact Nat.one_lt_two
      · rename_i hinvalid
        right
        rw [badName_stage]
        exact ⟨rfl, Or.inr ⟨badName_stage w c, if_neg hinvalid⟩⟩
  | reconnect s hstage =>
      left
      have hself : (w.reconnect c s).publishers c = _ := setPublisher_self _ c _
      refine ⟨hw.behindLookup hself rfl nofun ?_, by rw [hstage]; rfl, ?_⟩
      · rw [dropOwnership_self]
      · rw [hself, hstage]
        exact Nat.lt_succ_self 2
  | getOwnership s hstage =>
      rw [hstage]
      unfold getOwnership
      split
      · rename_i howned
        right
        rw [badName_stage]
        exact ⟨rfl, Or.inr ⟨badName_stage w c, if_pos howned⟩⟩
      · rename_i howned
        left
        have hself : (w.takeOwnership c s).publishers c = _ :=
          w.takeOwnership_self c s
        refine ⟨hw.behindLookup hself rfl nofun rfl, if_neg howned, ?_⟩
        rw [hself]
        exact Nat.one_lt_two
  | start s hstage =>
      right
      have hidle : ((w.startPublish c i s).publishers c).stage = .idle := by
        unfold startPublish
        rw [dropPointer_publishers, setPublisher_self]
      rw [hidle, hstage]
      exact ⟨rfl, Or.inl ⟨hidle, _, rfl⟩⟩

/-- What a step of the handler sends is the answer that it leaves with the
connection, and the handler ends with it. -/
theorem publishNext_answer {w w' : Server R} {c : Nat}
    (h : w.publishNext c = some w')
    (hnone : (w.publishers c).answer = none) :
    (w'.publishers c).answer.toList = w.onStatus c (.publishNext c) ∧
      ((w'.publishers c).answer = none ∨
        (w'.publishers c).stage.publishing = false) := by
  rcases publishNext_cases h with ⟨i, hi, hadvance⟩
  rw [onStatus_self hi]
  have hbad : ((w.badName c).publishers c).answer = some .badName := by
    rw [badName_eq, dropPointer_publishers, setPublisher_self]
  cases hadvance with
  | find hstage =>
      have hsame : ((w.findSource c i).publishers c).answer = none := by
        unfold findSource
        split
        · rw [fail_self, hnone]
        · rw [setPublisher_self, hnone]
      rw [hsame, hstage]
      exact ⟨rfl, Or.inl rfl⟩
  | create hstage =>
      rw [hstage]
      unfold createSource
      split
      · rename_i hvalid
        rw [takeOwnership_self, dropOwnership_self]
        exact ⟨(congrArg Option.toList hnone).trans (if_pos hvalid).symm,
          Or.inl hnone⟩
      · rename_i hinvalid
        rw [hbad, badName_stage]
        exact ⟨(if_neg hinvalid).symm, Or.inr rfl⟩
  | reconnect s hstage =>
      unfold reconnect
      rw [setPublisher_self, dropOwnership_self, hstage]
      exact ⟨congrArg Option.toList hnone, Or.inl hnone⟩
  | getOwnership s hstage =>
      rw [hstage]
      unfold getOwnership
      split
      · rename_i howned
        rw [hbad, badName_stage]
        exact ⟨(if_pos howned).symm, Or.inr rfl⟩
      · rename_i howned
        rw [takeOwnership_self]
        exact ⟨(congrArg Option.toList hnone).trans (if_neg howned).symm,
          Or.inl hnone⟩
  | start s hstage =>
      unfold startPublish
      rw [dropPointer_publishers, setPublisher_self, hstage]
      exact ⟨rfl, Or.inr rfl⟩

/-- While a handler is running, its connection does nothing else. -/
theorem busy_event [DecidableEq R] {h264DecSeqParameterSet : Bytes -> Bool}
    {w w' : Server R} {c : Nat} {e : ServerEvent}
    (hbusy : (w.publishers c).stage.publishing = true)
    (hstep : w.step h264DecSeqParameterSet e = some w')
    (hc : connection e = some c) : e = .publishNext c ∨ e = .close c := by
  have h := (step_cases hstep).2
  have hidle : (w.publishers c).stage ≠ .idle := by
    intro hidle
    rw [hidle] at hbusy
    cases hbusy
  cases e with
  | accept | pull _ | letGo _ => cases hc
  | publishNext d =>
      cases hc
      exact Or.inl rfl
  | close d =>
      cases hc
      exact Or.inr rfl
  | connect d app tcUrl =>
      cases hc
      exact absurd (connect_cases h).1 hidle
  | publish d stream =>
      cases hc
      rcases publish_cases h with ⟨i, hstage, _⟩
      exact absurd hstage hidle
  | metadata d entries =>
      cases hc
      exact absurd (processMetadata_cases h).1 hidle
  | av d pkt =>
      cases hc
      exact absurd (checkAv_cases h).1 hidle
  | process d =>
      cases hc
      rcases processAv_cases h with ⟨pkt, s, pushed, hpushing, _⟩
      rw [hpushing] at hbusy
      cases hbusy
  | malformed d =>
      cases hc
      exact absurd (Option.ite_none_right_eq_some.mp h).1 hidle
  | destruct d =>
      cases hc
      rcases destruct_cases h with ⟨_, _, hdone, _⟩
      have hstopped := hdone.resolve_left hidle
      rw [hstopped] at hbusy
      cases hbusy

/-- Whatever happens next on the server. -/
theorem Underway.step [DecidableEq R] {h264DecSeqParameterSet : Bytes -> Bool}
    {w w' : Server R} {c i : Nat} {e : ServerEvent} (hw : w.Underway c i)
    (hexclusive : w.Exclusive)
    (hstep : w.step h264DecSeqParameterSet e = some w') :
    (w'.Underway c i ∧ w.onStatus c e = []) ∨
      ((w'.publishers c).stage.publishing = false ∧
        w'.Answered c (w.onStatus c e)) := by
  by_cases hc : connection e = some c
  · rcases busy_event hw.publishing hstep hc with rfl | rfl
    · rcases hw.publishNext (step_cases hstep).2 with
        ⟨hgoesOn, hsilent, _⟩ | hends
      · exact Or.inl ⟨hgoesOn, hsilent⟩
      · exact Or.inr hends
    · cases (step_cases hstep).2
      left
      refine ⟨⟨?_, ?_, ?_⟩, rfl⟩
      · rw [setPublisher_self]
        exact hw.publishing
      · rw [setPublisher_self]
        exact hw.info
      · rw [setPublisher_self]
        exact hw.complete
  · left
    rcases step_untouched hexclusive hstep hc with ⟨hsame, hinfos⟩
    refine ⟨⟨?_, ?_, ?_⟩, onStatus_other hc⟩
    · rw [hsame]
      exact hw.publishing
    · rw [hsame]
      exact hw.info
    · rw [hsame, hinfos i hw.info]
      exact hw.complete

/-!
## The whole command
-/

theorem Command.eq_of_ended [DecidableEq R]
    {h264DecSeqParameterSet : Bytes -> Bool} {w w' : Server R} {c : Nat}
    {answers : List Answer} (h : Command h264DecSeqParameterSet c w answers w')
    (hended : (w.publishers c).stage.publishing = false) :
    answers = [] ∧ w' = w := by
  cases h with
  | ended _ => exact ⟨rfl, rfl⟩
  | goesOn hpublishing _ _ =>
      rw [hended] at hpublishing
      cases hpublishing

/-- The messages of a command are the answer that it leaves behind. -/
theorem Command.answers_eq [DecidableEq R]
    {h264DecSeqParameterSet : Bytes -> Bool} {w w' : Server R} {c : Nat}
    {answers : List Answer} (h : Command h264DecSeqParameterSet c w answers w')
    (hreached : w.Shared ∧ w.Exclusive)
    (hnone : (w.publishers c).answer = none) :
    answers = (w'.publishers c).answer.toList := by
  induction h with
  | ended _ => exact (congrArg Option.toList hnone).symm
  | @goesOn w t w' e answers hbusy hstep hrest ih =>
      have ht := step_exclusive hreached hstep
      by_cases hc : connection e = some c
      · rcases busy_event hbusy hstep hc with rfl | rfl
        · rcases publishNext_answer (step_cases hstep).2 hnone with
            ⟨hsent, hstill | hended⟩
          · rw [← hsent, hstill]
            exact ih ht hstill
          · rcases hrest.eq_of_ended hended with ⟨hnil, hsame⟩
            rw [hnil, hsame, hsent, List.append_nil]
        · cases (step_cases hstep).2
          apply ih ht
          rw [setPublisher_self]
          exact hnone
      · rw [onStatus_other hc]
        apply ih ht
        rw [(step_untouched hreached.2 hstep hc).1]
        exact hnone

theorem Command.answered [DecidableEq R]
    {h264DecSeqParameterSet : Bytes -> Bool} {w w' : Server R} {c i : Nat}
    {answers : List Answer} (h : Command h264DecSeqParameterSet c w answers w')
    (hw : w.Underway c i) (hreached : w.Shared ∧ w.Exclusive) :
    w'.Answered c answers := by
  induction h with
  | ended hended =>
      rw [hw.publishing] at hended
      cases hended
  | @goesOn w t w' e answers _ hstep hrest ih =>
      rcases hw.step hreached.2 hstep with ⟨ht, hsilent⟩ | ⟨hended, hanswered⟩
      · rw [hsilent]
        exact ih ht (step_exclusive hreached hstep)
      · rcases hrest.eq_of_ended hended with ⟨hnil, hsame⟩
        rw [hnil, hsame, List.append_nil]
        exact hanswered

theorem Underway.exists_next {w : Server R} {c i : Nat}
    (hw : w.Underway c i) : exists w', w.publishNext c = some w' := by
  have hpublishing := hw.publishing
  unfold Server.publishNext
  rw [hw.info]
  cases hstage : (w.publishers c).stage with
  | parsed => exact ⟨_, rfl⟩
  | found mediaPtr =>
      cases mediaPtr with
      | none => exact ⟨_, rfl⟩
      | some s => exact ⟨_, rfl⟩
  | dropped s => exact ⟨_, rfl⟩
  | won s => exact ⟨_, rfl⟩
  | idle | pushing _ | stopped =>
      rw [hstage] at hpublishing
      cases hpublishing

/-- A connection that has media information has been accepted. -/
theorem Shared.accepted_of_info {w : Server R} (hw : w.Shared) {c i : Nat}
    (h : (w.publishers c).mediaInfo = some i) : c < w.accepted := by
  by_contra hc
  rw [hw.bounded c (Nat.le_of_not_lt hc)] at h
  cases h

/-- The steps of the handler alone bring the command to its end. -/
theorem exists_command [DecidableEq R]
    (h264DecSeqParameterSet : Bytes -> Bool) {n : Nat} {w : Server R}
    {c i : Nat} (hw : w.Underway c i) (hreached : w.Shared ∧ w.Exclusive)
    (hn : (w.publishers c).stage.stepsLeft < n) :
    exists answers w', Command h264DecSeqParameterSet c w answers w' := by
  induction n generalizing w with
  | zero => exact absurd hn (Nat.not_lt_zero _)
  | succ n ih =>
      rcases hw.exists_next with ⟨t, hnext⟩
      have hstep : w.step h264DecSeqParameterSet (.publishNext c) = some t :=
        step_of_handle (hreached.1.accepted_of_info hw.info) rfl hnext
      rcases hw.publishNext hnext with ⟨ht, _, hless⟩ | ⟨hended, _⟩
      · rcases ih ht (step_exclusive hreached hstep) (by omega) with
          ⟨answers, w', hrest⟩
        exact ⟨_, w', .goesOn hw.publishing hstep hrest⟩
      · exact ⟨_, t, .goesOn hw.publishing hstep (.ended hended)⟩

/-- The publish command is handled to its end, and however the server goes on
in between, with one message that says how it has ended. -/
def AnswersPublish [DecidableEq R] (h264DecSeqParameterSet : Bytes -> Bool)
    (w : Server R) (c : Nat) (stream : Bytes) : Prop :=
  exists t, w.step h264DecSeqParameterSet (.publish c stream) = some t ∧
    (exists answers w', Command h264DecSeqParameterSet c t answers w') ∧
    forall answers w', Command h264DecSeqParameterSet c t answers w' ->
      w'.Answered c answers

/-- The stream can be parsed, and the lookup gets a key without gaps. -/
def Locates (stream : Bytes) (info : MediaInfo) : Prop :=
  exists parsed, MediaInfo.parseStream stream info = .ok parsed ∧
    parsed.key.Complete

theorem publish_eq {w : Server R} {c i : Nat} {stream : Bytes}
    {parsed : MediaInfo} (hidle : (w.publishers c).stage = .idle)
    (hinfo : (w.publishers c).mediaInfo = some i)
    (hparse : MediaInfo.parseStream stream (w.infos i) = .ok parsed) :
    w.publish c stream = some { w.setPublisher c { w.publishers c with
        answer := none
        stage := .parsed } with
      infos := Function.update w.infos i parsed } := by
  unfold publish
  rw [hidle, hinfo]
  dsimp only
  rw [hparse]

theorem not_answered_nil {w : Server R} {c : Nat} : ¬ w.Answered c [] := by
  rintro (⟨_, k, hk⟩ | ⟨_, hbad⟩)
  · cases hk
  · cases hbad

/-- What comes before the `try` throws without an answer. -/
theorem not_answersPublish [DecidableEq R]
    {h264DecSeqParameterSet : Bytes -> Bool} {w : Server R}
    (hreached : w.Shared ∧ w.Exclusive) {c i : Nat} {stream : Bytes}
    (hinfo : (w.publishers c).mediaInfo = some i)
    (h : ¬ Locates stream (w.infos i)) :
    ¬ w.AnswersPublish h264DecSeqParameterSet c stream := by
  rintro ⟨t, hpublish, _, hall⟩
  rcases publish_cases (step_cases hpublish).2 with
    ⟨j, _, hj, ⟨_, ht⟩ | ⟨parsed, hparse, ht⟩⟩
  · apply not_answered_nil (hall [] t (.ended _))
    rw [ht, fail_self]
    rfl
  · cases hinfo.symm.trans hj
    have hself : t.publishers c = { w.publishers c with
        answer := none
        stage := .parsed } := by
      rw [ht]
      exact setPublisher_self _ _ _
    have hkey : ¬ (t.infos i).key.Complete := by
      intro hcomplete
      apply h
      refine ⟨parsed, hparse, ?_⟩
      rw [ht] at hcomplete
      change (Function.update w.infos i parsed i).key.Complete at hcomplete
      rw [Function.update_self] at hcomplete
      exact hcomplete
    have hinfo' : (t.publishers c).mediaInfo = some i := by
      rw [hself]
      exact hinfo
    have hnext : t.publishNext c = some (t.fail c) := by
      unfold publishNext
      rw [hinfo', hself]
      exact congrArg some (findSource_incomplete hkey)
    have ht' := step_exclusive hreached hpublish
    have hstep : t.step h264DecSeqParameterSet (.publishNext c) =
        some (t.fail c) :=
      step_of_handle (ht'.1.accepted_of_info hinfo') rfl hnext
    have hended : ((t.fail c).publishers c).stage.publishing = false := by
      rw [fail_self]
      rfl
    have hbusy : (t.publishers c).stage.publishing = true := by
      rw [hself]
      rfl
    have hsilent : t.onStatus c (.publishNext c) = [] := by
      rw [onStatus_self hinfo', hself]
      rfl
    have hanswered := hall _ _ (.goesOn hbusy hstep (.ended hended))
    rw [hsilent] at hanswered
    exact not_answered_nil hanswered

/--
On a connection that has connected, in any reachable state of the server and
whatever else happens while the handler runs, a publish command is handled to
its end and answered with one `onStatus` message, Start or BadName, if and only
if the stream can be parsed and leaves no part of the key empty.
-/
theorem answersPublish_iff [DecidableEq R]
    {h264DecSeqParameterSet : Bytes -> Bool} {es : List ServerEvent}
    {w : Server R} (hrun : run (step h264DecSeqParameterSet) {} es = some w)
    {c i : Nat} (hidle : (w.publishers c).stage = .idle)
    (hinfo : (w.publishers c).mediaInfo = some i) (stream : Bytes) :
    w.AnswersPublish h264DecSeqParameterSet c stream <->
      Locates stream (w.infos i) := by
  have hreached : w.Shared ∧ w.Exclusive :=
    run_keeps step_exclusive ⟨start_shared, start_exclusive⟩ hrun
  constructor
  · intro h
    by_contra hlocates
    exact not_answersPublish hreached hinfo hlocates h
  · rintro ⟨parsed, hparse, hcomplete⟩
    have hstep : w.step h264DecSeqParameterSet (.publish c stream) = some _ :=
      step_of_handle (hreached.1.accepted_of_info hinfo) rfl
        (publish_eq hidle hinfo hparse)
    have ht := step_exclusive hreached hstep
    have hunderway : Underway { w.setPublisher c { w.publishers c with
          answer := none
          stage := .parsed } with
        infos := Function.update w.infos i parsed } c i := by
      refine ⟨?_, ?_, ?_⟩
      · rw [setPublisher_self]
        rfl
      · rw [setPublisher_self]
        exact hinfo
      · intro _
        show (Function.update w.infos i parsed i).key.Complete
        rw [Function.update_self]
        exact hcomplete
    exact ⟨_, hstep,
      exists_command h264DecSeqParameterSet hunderway ht (Nat.lt_succ_self _),
      fun answers w' h => h.answered hunderway ht⟩

end Answers

/-!
## With a vhost, and without
-/

def connectedInfo : MediaInfo :=
  { schema := kRtmpSchema, app := [97], tcUrl := [116] }

theorem run_connected :
    exists w : Server Nat,
      run (step fun _ => true) {} [.accept, .connect 0 [97] [116]] = some w ∧
        (w.publishers 0).stage = .idle ∧
        (w.publishers 0).mediaInfo = some 0 ∧ w.infos 0 = connectedInfo :=
  ⟨_, rfl, rfl, rfl, rfl⟩

theorem answersPublish_vhost :
    exists w : Server Nat,
      run (step fun _ => true) {} [.accept, .connect 0 [97] [116]] = some w ∧
        w.AnswersPublish (fun _ => true) 0 liveStream := by
  rcases run_connected with ⟨w, hrun, hidle, hinfo, hconnected⟩
  refine ⟨w, hrun, (answersPublish_iff hrun hidle hinfo liveStream).mpr ?_⟩
  rw [hconnected]
  exact ⟨_, rfl, (MediaInfo.isComplete_iff _).mp rfl⟩

theorem not_answersPublish_noVhost :
    exists w : Server Nat,
      run (step fun _ => true) {} [.accept, .connect 0 [97] [116]] = some w ∧
        ¬ w.AnswersPublish (fun _ => true) 0 (ascii ['l', 'i', 'v', 'e']) := by
  rcases run_connected with ⟨w, hrun, _, hinfo, hconnected⟩
  have hreached : w.Shared ∧ w.Exclusive :=
    run_keeps step_exclusive ⟨start_shared, start_exclusive⟩ hrun
  refine ⟨w, hrun, not_answersPublish hreached hinfo ?_⟩
  rw [hconnected]
  rintro ⟨parsed, hparse, hcomplete⟩
  cases hparse
  exact hcomplete.2.1 rfl

end Server

end Rtmp
end Streaming
