import Streaming.Rtmp.ReadMetadata

/-!
# The metadata that is kept

`meta_data_` collects the entries of all metadata messages of a connection with
`emplace`.  No other message changes it, so that a key keeps the value that came
with it first.
-/

namespace Streaming
namespace Rtmp

open AmfDecoder Foundation Media Network Util

namespace Server

section KeptMetadata

variable {R : Type}

/-!
## What leaves the metadata alone
-/

def KeepsMetadata (w w' : Server R) : Prop :=
  forall d, (w'.publishers d).metaData = (w.publishers d).metaData

theorem keepsMetadata_refl (w : Server R) : w.KeepsMetadata w :=
  fun _ => rfl

theorem KeepsMetadata.trans {w w' w'' : Server R} (h : w.KeepsMetadata w')
    (h' : w'.KeepsMetadata w'') : w.KeepsMetadata w'' :=
  fun d => (h' d).trans (h d)

theorem KeepsMetadata.of_publishers {w w' w'' : Server R}
    (h : w.KeepsMetadata w') (hsame : w''.publishers = w'.publishers) :
    w.KeepsMetadata w'' := by
  intro d
  rw [hsame]
  exact h d

theorem KeepsMetadata.dropPointer {w w' : Server R} (h : w.KeepsMetadata w')
    (r : Option SourcePtr) : w.KeepsMetadata (w'.dropPointer r) :=
  h.of_publishers (w'.dropPointer_publishers r)

theorem setPublisher_keepsMetadata (w : Server R) (c : Nat) {p : Publisher}
    (h : p.metaData = (w.publishers c).metaData) :
    w.KeepsMetadata (w.setPublisher c p) := by
  intro d
  by_cases hd : d = c
  · subst hd
    rw [setPublisher_self]
    exact h
  · rw [w.setPublisher_ne hd]

theorem fail_keepsMetadata (w : Server R) (c : Nat) :
    w.KeepsMetadata (w.fail c) := by
  apply KeepsMetadata.dropPointer
  exact w.setPublisher_keepsMetadata c rfl

theorem KeepsMetadata.fail {w w' : Server R} (h : w.KeepsMetadata w')
    (c : Nat) : w.KeepsMetadata (w'.fail c) :=
  h.trans (w'.fail_keepsMetadata c)

theorem badName_keepsMetadata (w : Server R) (c : Nat) :
    w.KeepsMetadata (w.badName c) := by
  apply KeepsMetadata.fail
  exact w.setPublisher_keepsMetadata c rfl

theorem dropOwnership_keepsMetadata (w : Server R) (c : Nat) :
    w.KeepsMetadata (w.dropOwnership c) := by
  intro d
  by_cases hd : d = c
  · subst hd
    rw [w.dropOwnership_self]
  · rw [w.dropOwnership_ne hd]

theorem takeOwnership_keepsMetadata (w : Server R) (c : Nat) (s : SourcePtr) :
    w.KeepsMetadata (w.takeOwnership c s) := by
  intro d
  by_cases hd : d = c
  · subst hd
    rw [w.takeOwnership_self]
  · rw [w.takeOwnership_ne hd]

theorem callSource_keepsMetadata (w : Server R) (c : Nat) (s : SourcePtr)
    (call : RtmpMediaSource.Call Registry R PUnit) :
    w.KeepsMetadata (w.callSource c s call) := by
  unfold callSource
  split
  · exact w.keepsMetadata_refl.of_publishers rfl
  · apply KeepsMetadata.fail
    exact w.keepsMetadata_refl.of_publishers rfl

theorem publishNext_keepsMetadata {w w' : Server R} {c : Nat}
    (h : w.publishNext c = some w') : w.KeepsMetadata w' := by
  rcases publishNext_cases h with ⟨i, _, hadvance⟩
  cases hadvance with
  | find _ =>
      unfold findSource
      split
      · exact w.fail_keepsMetadata c
      · exact w.setPublisher_keepsMetadata c rfl
  | create _ =>
      unfold createSource
      split
      · have hnew : w.KeepsMetadata (w.newSource i) := w.keepsMetadata_refl
        exact (hnew.trans (dropOwnership_keepsMetadata _ c)).trans
          (takeOwnership_keepsMetadata _ c _)
      · exact w.badName_keepsMetadata c
  | reconnect s _ =>
      exact (w.dropOwnership_keepsMetadata c).trans
        (setPublisher_keepsMetadata _ c rfl)
  | getOwnership s _ =>
      unfold getOwnership
      split
      · exact w.badName_keepsMetadata c
      · exact w.takeOwnership_keepsMetadata c s
  | start s _ =>
      apply KeepsMetadata.dropPointer
      exact w.setPublisher_keepsMetadata c rfl

theorem publish_keepsMetadata {w w' : Server R} {c : Nat} {stream : Bytes}
    (h : w.publish c stream = some w') : w.KeepsMetadata w' := by
  rcases publish_cases h with ⟨i, _, _, ⟨_, hw'⟩ | ⟨info, _, hw'⟩⟩
  · rw [hw']
    apply KeepsMetadata.fail
    exact w.setPublisher_keepsMetadata c rfl
  · have hparsed : w.KeepsMetadata (w.setPublisher c { w.publishers c with
        answer := none
        stage := .parsed }) := w.setPublisher_keepsMetadata c rfl
    rw [hw']
    exact hparsed.of_publishers rfl

theorem checkAv_keepsMetadata {w w' : Server R} {c : Nat} {pkt : RtmpPacket}
    (h : w.checkAv c pkt = some w') : w.KeepsMetadata w' := by
  rcases checkAv_cases h with ⟨_, hw' | ⟨_, hw'⟩⟩
  · rw [hw']
    exact w.fail_keepsMetadata c
  · rw [hw']
    exact w.setPublisher_keepsMetadata c rfl

theorem onAmfConnect_keepsMetadata (w : Server R) (c : Nat)
    (params : List (Bytes × Bytes)) :
    w.KeepsMetadata (w.onAmfConnect c params) := by
  have hcreate : w.KeepsMetadata (w.setPublisher c
      { w.publishers c with mediaInfo := some w.infoCount }) :=
    w.setPublisher_keepsMetadata c rfl
  unfold onAmfConnect
  dsimp only
  split
  · exact hcreate.of_publishers rfl
  · apply KeepsMetadata.fail
    exact hcreate.of_publishers rfl

/-- What happens apart from messages. -/
theorem step_keepsMetadata [DecidableEq R]
    {h264DecSeqParameterSet : Bytes -> Bool} {w w' : Server R}
    {e : ServerEvent} (hstep : w.step h264DecSeqParameterSet e = some w')
    (he : e.isMessage = false) : w.KeepsMetadata w' := by
  have h := (step_cases hstep).2
  cases e with
  | accept =>
      cases h
      exact w.keepsMetadata_refl
  | connect c app tcUrl => cases he
  | publish c stream => cases he
  | publishNext c => exact publishNext_keepsMetadata h
  | metadata c entries => cases he
  | av c pkt => cases he
  | process c =>
      rcases processAv_cases h with ⟨pkt, s, pushed, _, _, hpushed, hw'⟩
      have hidle : w.KeepsMetadata (w.setPublisher c
          { w.publishers c with stage := .idle }) :=
        w.setPublisher_keepsMetadata c rfl
      rw [hw', hpushed]
      exact KeepsMetadata.trans (hidle.of_publishers rfl)
        (callSource_keepsMetadata _ c s _)
  | malformed c => cases he
  | close c =>
      cases h
      exact w.setPublisher_keepsMetadata c rfl
  | destruct c =>
      rcases destruct_cases h with
        ⟨_, _, _, hw' | ⟨_, s, hw'⟩ | ⟨_, hw'⟩ | hw'⟩
      · have hstopped : w.KeepsMetadata (w.setPublisher c
            { w.publishers c with stage := .stopped }) :=
          w.setPublisher_keepsMetadata c rfl
        rw [hw']
        exact hstopped.trans (dropOwnership_keepsMetadata _ c)
      · rw [hw']
        apply KeepsMetadata.dropPointer
        exact w.setPublisher_keepsMetadata c rfl
      · rw [hw']
        exact w.setPublisher_keepsMetadata c rfl
      · rw [hw']
        exact w.setPublisher_keepsMetadata c rfl
  | pull k =>
      cases h
      rcases w.pull_cases k with hsame | ⟨s, _, hpulled⟩
      · rw [hsame]
        exact w.keepsMetadata_refl
      · rw [hpulled]
        exact w.keepsMetadata_refl
  | letGo i =>
      cases h
      have hpulling : w.KeepsMetadata
          { w with pulling := w.pulling.eraseIdx i } := w.keepsMetadata_refl
      exact hpulling.dropPointer _

/-!
## What messages give
-/

/-- The entries of the object, if it is a metadata message of the connection. -/
def given (c : Nat) : MessageEvent -> Metadata
  | .message d pkt =>
      if d = c then
        match requestOf pkt with
        | .ok (.metadata entries _) => entries
        | _ => []
      else
        []
  | .other _ => []

/-- Metadata is emplaced, whether the rest of the handler throws or not. -/
theorem emplaced {w w' : Server R} {d : Nat} {pkt : RtmpPacket}
    {entries : Metadata} {thrown : Option String}
    (hrequest : requestOf pkt = .ok (.metadata entries thrown))
    (h : (w.setPublisher d { w.publishers d with
      metaData := entries.foldl emplace (w.publishers d).metaData
      }).KeepsMetadata w') (c : Nat) :
    (w'.publishers c).metaData =
      (given c (.message d pkt)).foldl emplace (w.publishers c).metaData := by
  unfold given
  dsimp only
  rw [h c, hrequest]
  by_cases hc : c = d
  · subst hc
    rw [setPublisher_self, if_pos rfl]
  · rw [w.setPublisher_ne hc, if_neg (Ne.symm hc)]
    rfl

theorem nothing_given {w w' : Server R} {d : Nat} {pkt : RtmpPacket}
    (hrequest : forall entries thrown,
      requestOf pkt ≠ .ok (.metadata entries thrown))
    (h : w.KeepsMetadata w') (c : Nat) :
    (w'.publishers c).metaData =
      (given c (.message d pkt)).foldl emplace (w.publishers c).metaData := by
  have hnone : given c (.message d pkt) = [] := by
    unfold given
    dsimp only
    split
    · split
      · rename_i entries thrown hmetadata
        exact absurd hmetadata (hrequest entries thrown)
      · rfl
    · rfl
  rw [hnone]
  exact h c

theorem handleChunk_metaData {w w' : Server R} {d : Nat} {pkt : RtmpPacket}
    (h : w.handleChunk d pkt = some (.ok w')) (c : Nat) :
    (w'.publishers c).metaData =
      (given c (.message d pkt)).foldl emplace (w.publishers c).metaData := by
  unfold handleChunk at h
  rw [Option.ite_none_right_eq_some] at h
  rcases h with ⟨_, h⟩
  cases hrequest : requestOf pkt with
  | error what =>
      rw [hrequest] at h
      cases h
      exact nothing_given (by rw [hrequest]; nofun) (w.fail_keepsMetadata d) c
  | ok request =>
      rw [hrequest] at h
      cases request with
      | ignored =>
          cases h
          exact nothing_given (by rw [hrequest]; nofun) w.keepsMetadata_refl c
      | connect params =>
          cases h
          exact nothing_given (by rw [hrequest]; nofun)
            (w.onAmfConnect_keepsMetadata d params) c
      | createStream =>
          cases h
          exact nothing_given (by rw [hrequest]; nofun) w.keepsMetadata_refl c
      | publish stream =>
          apply nothing_given (by rw [hrequest]; nofun)
          change w.onAmfPublish d stream = some (.ok w') at h
          unfold onAmfPublish at h
          split at h
          · cases h
          · cases h
            apply KeepsMetadata.fail
            exact w.setPublisher_keepsMetadata d rfl
          · exact publish_keepsMetadata (map_ok_eq_some h)
      | metadata entries thrown =>
          apply emplaced hrequest
          cases thrown with
          | some what =>
              cases h
              exact fail_keepsMetadata _ d
          | none =>
              rcases loadTracks_cases h with ⟨_, hresult, hstep⟩ | hbad
              · cases hresult
                rcases processMetadata_cases hstep with
                  ⟨_, metaData, kept, hmetaData, hkept, hw'⟩
                rw [← hmetaData, ← hkept]
                rcases hw' with ⟨_, hw'⟩ | ⟨s, _, hw'⟩
                · rw [hw']
                  exact kept.fail_keepsMetadata d
                · rw [hw']
                  exact kept.callSource_keepsMetadata d s _
              · rcases hbad with ⟨p, s, hresult, _⟩
                cases hresult
      | av =>
          exact nothing_given (by rw [hrequest]; nofun)
            (checkAv_keepsMetadata (map_ok_eq_some h)) c

/-- The metadata of each connection is what its messages have given so far. -/
def Collected (es : List MessageEvent) (w : Server R) : Prop :=
  forall c, (w.publishers c).metaData = (es.flatMap (given c)).foldl emplace []

theorem messageStep_collected [DecidableEq R]
    {h264DecSeqParameterSet : Bytes -> Bool} {es : List MessageEvent}
    {w w' : Server R} {e : MessageEvent} (hw : Collected es w)
    (h : w.messageStep h264DecSeqParameterSet e = some w') :
    Collected (es ++ [e]) w' := by
  have hone : forall c, (w'.publishers c).metaData =
      (given c e).foldl emplace (w.publishers c).metaData := by
    rcases Option.bind_eq_some_iff.mp h with ⟨result, hfollow, hresult⟩
    cases result with
    | error p => cases hresult
    | ok w'' =>
        cases hresult
        cases e with
        | message d pkt => exact handleChunk_metaData hfollow
        | other e =>
            simp only [follow] at hfollow
            split at hfollow
            · cases hfollow
            · rename_i hmessage
              split at hfollow
              · cases hfollow
              · exact step_keepsMetadata (map_ok_eq_some hfollow)
                  (Bool.eq_false_iff.mpr hmessage)
  intro c
  rw [hone, hw c, List.flatMap_append, List.foldl_append, List.flatMap_singleton]

/-!
## Metadata messages
-/

def IsData (pkt : RtmpPacket) : Prop :=
  pkt.msgTypeId = msgData ∨ pkt.msgTypeId = msgData3

instance (pkt : RtmpPacket) : Decidable (IsData pkt) :=
  inferInstanceAs (Decidable (_ ∨ _))

/-- `@setDataFrame`, `onMetaData` and an array of numbers, booleans and
strings. -/
structure CarriesMetadata (pkt : RtmpPacket) (entries : List (Bytes × Amf0)) :
    Prop where
  isData : IsData pkt
  valid : pkt.buf.Valid
  bytes : exists count, pkt.buf.unread = metadataMessage count entries
  wellFormed : Amf0.WellFormedEntries entries
  kept : forall entry, entry ∈ entries -> AmfDecoder.Kept entry

theorem CarriesMetadata.requestOf_eq {pkt : RtmpPacket}
    {entries : List (Bytes × Amf0)} (h : CarriesMetadata pkt entries) :
    requestOf pkt = .ok (.metadata (entries.map stored) none) := by
  rcases h.bytes with ⟨count, hbytes⟩
  rw [← List.append_nil (metadataMessage count entries)] at hbytes
  rcases onProcessMetadata_kept h.wellFormed h.kept h.valid hbytes with
    ⟨b', hread, _⟩
  unfold requestOf
  rw [hread]
  rcases h.isData with htype | htype
  · rw [htype]
    rfl
  · rw [htype]
    rfl

theorem onProcessCmd_ne_metadata {b b' : FlatBuffer} {request : Request}
    (h : onProcessCmd b = .ok request b') (entries : Metadata)
    (thrown : Option String) : request ≠ .metadata entries thrown := by
  rcases bind_eq_ok h with ⟨method, b₁, _, h₁⟩
  cases hcommand : cmdFuncs method with
  | none =>
      rw [hcommand] at h₁
      cases h₁
      nofun
  | some command =>
      rw [hcommand] at h₁
      rcases bind_eq_ok h₁ with ⟨_, b₂, _, h₂⟩
      cases command with
      | connect =>
          rcases bind_eq_ok h₂ with ⟨params, _, _, h₃⟩
          cases h₃
          nofun
      | createStream =>
          cases h₂
          nofun
      | publish =>
          rcases bind_eq_ok h₂ with ⟨_, b₃, _, h₃⟩
          rcases bind_eq_ok h₃ with ⟨stream, _, _, h₄⟩
          cases h₄
          nofun

theorem requestOf_ne_metadata {pkt : RtmpPacket} (h : ¬ IsData pkt)
    (entries : Metadata) (thrown : Option String) :
    requestOf pkt ≠ .ok (.metadata entries thrown) := by
  unfold requestOf
  split_ifs
  · nofun
  · nofun
  · nofun
  · nofun
  · intro hrequest
    unfold RtmpPacket.inspect at hrequest
    split at hrequest
    · rename_i request b' hread
      cases hrequest
      exact onProcessCmd_ne_metadata hread entries thrown rfl
    · cases hrequest
  · exact absurd ‹_› h
  · nofun
  · nofun

/-- The data messages of the connection carry these entries, one message after
the other. -/
inductive Sends (c : Nat) : List MessageEvent -> List (Bytes × Amf0) -> Prop where
  | nil : Sends c [] []
  | metadata {es : List MessageEvent} {sent entries : List (Bytes × Amf0)}
      {pkt : RtmpPacket} (h : Sends c es sent)
      (hpkt : CarriesMetadata pkt entries) :
      Sends c (es ++ [.message c pkt]) (sent ++ entries)
  | other {es : List MessageEvent} {sent : List (Bytes × Amf0)}
      {e : MessageEvent} (h : Sends c es sent)
      (he : forall pkt, e = .message c pkt -> ¬ IsData pkt) :
      Sends c (es ++ [e]) sent

theorem Sends.given_eq {c : Nat} {es : List MessageEvent}
    {sent : List (Bytes × Amf0)} (h : Sends c es sent) :
    es.flatMap (given c) = sent.map stored := by
  induction h with
  | nil => rfl
  | metadata _ hpkt ih =>
      rw [List.flatMap_append, ih, List.flatMap_singleton, List.map_append]
      congr 1
      unfold given
      dsimp only
      rw [if_pos rfl, hpkt.requestOf_eq]
  | @other es sent e _ he ih =>
      rw [List.flatMap_append, ih, List.flatMap_singleton]
      have hnone : given c e = [] := by
        cases e with
        | other e => rfl
        | message d pkt =>
            unfold given
            dsimp only
            split
            · rename_i hd
              subst hd
              split
              · rename_i entries thrown hrequest
                exact absurd hrequest
                  (requestOf_ne_metadata (he pkt rfl) entries thrown)
              · rfl
            · rfl
      rw [hnone, List.append_nil]

/-!
## The first value and the last one
-/

def FirstValue (entries : List (Bytes × Amf0)) (key : Bytes) (value : Amf0) :
    Prop :=
  exists front back, entries = front ++ (key, value) :: back ∧
    key ∉ front.map Prod.fst

def LastValue (entries : List (Bytes × Amf0)) (key : Bytes) (value : Amf0) :
    Prop :=
  exists front back, entries = front ++ (key, value) :: back ∧
    key ∉ back.map Prod.fst

/-- The map has the last value that a message gives for a key. -/
def Latest (metaData : Metadata) (entries : List (Bytes × Amf0)) : Prop :=
  forall key value, LastValue entries key value ->
    metaData.lookup key = some (metaValue value)

theorem FirstValue.lookup_stored {entries : List (Bytes × Amf0)} {key : Bytes}
    {value : Amf0} (h : FirstValue entries key value) :
    (entries.map stored).lookup key = some (metaValue value) := by
  rcases h with ⟨front, back, rfl, hfront⟩
  rw [List.map_append, List.lookup_append, lookup_stored_eq_none hfront,
    List.map_cons]
  simp [stored]

theorem exists_firstValue {entries : List (Bytes × Amf0)} {key : Bytes}
    (h : key ∈ entries.map Prod.fst) :
    exists value, FirstValue entries key value := by
  induction entries with
  | nil => cases h
  | cons entry entries ih =>
      rcases entry with ⟨first, value⟩
      by_cases hkey : key = first
      · subst hkey
        exact ⟨value, [], entries, rfl, List.not_mem_nil⟩
      · rcases ih ((List.mem_cons.mp h).resolve_left hkey) with
          ⟨later, front, back, rfl, hfront⟩
        refine ⟨later, (first, value) :: front, back, rfl, ?_⟩
        rw [List.map_cons, List.mem_cons]
        exact not_or.mpr ⟨hkey, hfront⟩

/-- Behind a metadata message, the map has the first value of each key. -/
theorem lookup_metaData [DecidableEq R]
    {h264DecSeqParameterSet : Bytes -> Bool} {es : List MessageEvent}
    {w w' : Server R} {c : Nat} {pkt : RtmpPacket}
    {sent entries : List (Bytes × Amf0)}
    (hrun : run (messageStep h264DecSeqParameterSet) {} es = some w)
    (hsent : Sends c es sent) (hpkt : CarriesMetadata pkt entries)
    (hstep : w.messageStep h264DecSeqParameterSet (.message c pkt) = some w')
    {key : Bytes} {first : Amf0} (hfirst : FirstValue (sent ++ entries) key first) :
    (w'.publishers c).metaData.lookup key = some (metaValue first) := by
  have hcollected : Collected es w := by
    apply run_history _ (fun _ hw he => messageStep_collected hw he) hrun
    intro c
    rfl
  have hnext := messageStep_collected hcollected hstep c
  rw [(hsent.metadata hpkt).given_eq] at hnext
  rw [hnext, lookup_foldl_emplace, hfirst.lookup_stored]
  rfl

/--
However many metadata messages a connection has sent: behind one that is handled
without an exception, the map has the last value that the message gives for each
key if and only if that was also the first value ever given for the key.
-/
theorem latest_iff [DecidableEq R]
    {h264DecSeqParameterSet : Bytes -> Bool} {es : List MessageEvent}
    {w w' : Server R} {c : Nat} {pkt : RtmpPacket}
    {sent entries : List (Bytes × Amf0)}
    (hrun : run (messageStep h264DecSeqParameterSet) {} es = some w)
    (hsent : Sends c es sent) (hpkt : CarriesMetadata pkt entries)
    (hstep : w.messageStep h264DecSeqParameterSet (.message c pkt) = some w')
    (_ : (w'.publishers c).stage ≠ .stopped) :
    Latest (w'.publishers c).metaData entries <->
      forall key first last, FirstValue (sent ++ entries) key first ->
        LastValue entries key last -> metaValue first = metaValue last := by
  constructor
  · intro h key first last hfirst hlast
    have hlookup := lookup_metaData hrun hsent hpkt hstep hfirst
    rw [h key last hlast] at hlookup
    exact (Option.some.inj hlookup).symm
  · intro h key last hlast
    have hmem : key ∈ (sent ++ entries).map Prod.fst := by
      rcases hlast with ⟨front, back, rfl, _⟩
      simp
    rcases exists_firstValue hmem with ⟨first, hfirst⟩
    rw [lookup_metaData hrun hsent hpkt hstep hfirst, h key first last hfirst hlast]

/-!
## A stream that is announced again
-/

/-- `connect`, 1.0 and an object with `app` and `tcUrl`. -/
def connectMessage : RtmpPacket :=
  { audioPacket 0 (Amf0.encode (.string (ascii
      ['c', 'o', 'n', 'n', 'e', 'c', 't'])) ++
      (Amf0.encode (.number 0x3FF0000000000000) ++
        Amf0.encode (.object [(ascii ['a', 'p', 'p'], .string [97]),
          (ascii ['t', 'c', 'U', 'r', 'l'], .string [116])]))) with
    msgTypeId := msgCmd }

/-- What `init_tracks` asks for, with this duration. -/
def announced (duration : Nat) : List (Bytes × Amf0) :=
  [(ascii ['d', 'u', 'r', 'a', 't', 'i', 'o', 'n'], .number duration),
    (ascii ['a', 'u', 'd', 'i', 'o', 's', 'a', 'm', 'p', 'l', 'e', 'r', 'a', 't',
      'e'], .number 0),
    (ascii ['a', 'u', 'd', 'i', 'o', 's', 'a', 'm', 'p', 'l', 'e', 's', 'i', 'z',
      'e'], .number 0),
    (ascii ['s', 't', 'e', 'r', 'e', 'o'], .boolean 1),
    (ascii ['v', 'i', 'd', 'e', 'o', 'c', 'o', 'd', 'e', 'c', 'i', 'd'],
      .number 0),
    (ascii ['a', 'u', 'd', 'i', 'o', 'c', 'o', 'd', 'e', 'c', 'i', 'd'],
      .number 0x4024000000000000),
    (ascii ['a', 'u', 'd', 'i', 'o', 'd', 'a', 't', 'a', 'r', 'a', 't', 'e'],
      .number 0),
    (ascii ['v', 'i', 'd', 'e', 'o', 'd', 'a', 't', 'a', 'r', 'a', 't', 'e'],
      .number 0)]

def announcement (duration : Nat) : RtmpPacket :=
  { audioPacket 0 (metadataMessage 8 (announced duration)) with
    msgTypeId := msgData }

/-- A connection publishes and announces its stream. -/
def announcedStream : List MessageEvent :=
  [.other .accept, .message 0 connectMessage, .message 0 publishMessage,
    .other (.publishNext 0), .other (.publishNext 0), .other (.publishNext 0),
    .message 0 (announcement 0)]

theorem announcement_carries {duration : Nat} (h : duration < 2 ^ 64) :
    CarriesMetadata (announcement duration) (announced duration) where
  isData := Or.inl rfl
  valid := ⟨Nat.zero_le _, Nat.le_refl _, rfl⟩
  bytes := ⟨8, List.take_length⟩
  wellFormed := by
    simpa [Amf0.WellFormedEntries, Amf0.WellFormed, announced, ascii] using h
  kept := by
    simp [announced, AmfDecoder.Kept, metaValue]

theorem announcedStream_sends : Sends 0 announcedStream (announced 0) := by
  have haccept : Sends 0 ([] ++ [.other .accept]) [] := .other .nil nofun
  have hconnect :
      Sends 0 ([.other .accept] ++ [.message 0 connectMessage]) [] := by
    refine .other haccept ?_
    rintro _ ⟨⟩
    decide
  have hpublish : Sends 0 ([.other .accept, .message 0 connectMessage] ++
      [.message 0 publishMessage]) [] := by
    refine .other hconnect ?_
    rintro _ ⟨⟩
    decide
  have hnext : forall {es : List MessageEvent}, Sends 0 es [] ->
      Sends 0 (es ++ [.other (.publishNext 0)]) [] :=
    fun h => .other h nofun
  exact (hnext (hnext (hnext hpublish))).metadata
    (announcement_carries (by decide))

theorem run_publishing {es : List MessageEvent} {e : MessageEvent}
    (h : (run (messageStep fun _ => true) ({} : Server Nat) (es ++ [e])).any
      (fun w => decide ((w.publishers 0).stage ≠ .stopped)) = true) :
    exists w w' : Server Nat,
      run (messageStep fun _ => true) {} es = some w ∧
        w.messageStep (fun _ => true) e = some w' ∧
        (w'.publishers 0).stage ≠ .stopped := by
  rcases (Option.any_eq_true _ _).mp h with ⟨w', hrun, hstage⟩
  rcases run_append.mp hrun with ⟨w, hfront, hlast⟩
  rcases run_cons.mp hlast with ⟨t, hstep, hnil⟩
  cases hnil
  exact ⟨w, w', hfront, hstep, of_decide_eq_true hstage⟩

/-- The same again. -/
theorem latest_sameDuration :
    exists w w' : Server Nat,
      run (messageStep fun _ => true) {} announcedStream = some w ∧
        w.messageStep (fun _ => true) (.message 0 (announcement 0)) = some w' ∧
        (w'.publishers 0).stage ≠ .stopped ∧
        Latest (w'.publishers 0).metaData (announced 0) := by
  have hagain : (run (messageStep fun _ => true) ({} : Server Nat)
      (announcedStream ++ [.message 0 (announcement 0)])).any
      (fun w => decide ((w.publishers 0).stage ≠ .stopped)) = true := by
    decide +kernel
  rcases run_publishing hagain with ⟨w, w', hrun, hstep, hstage⟩
  have hpkt : CarriesMetadata (announcement 0) (announced 0) :=
    announcement_carries (by decide)
  refine ⟨w, w', hrun, hstep, hstage, ?_⟩
  apply (latest_iff hrun announcedStream_sends hpkt hstep hstage).mpr
  intro key first last hfirst hlast
  have hmem : (key, metaValue last) ∈ (announced 0).map stored := by
    rcases hlast with ⟨front, back, heq, _⟩
    rw [heq]
    exact List.mem_map_of_mem (f := stored)
      (List.mem_append_right _ (List.mem_cons_self ..))
  have hlookup := hfirst.lookup_stored
  rw [List.map_append, List.lookup_append, lookup_of_mem (by decide) hmem]
    at hlookup
  exact (Option.some.inj hlookup).symm

/-- The duration has become 1.0. -/
theorem not_latest_changedDuration :
    exists w w' : Server Nat,
      run (messageStep fun _ => true) {} announcedStream = some w ∧
        w.messageStep (fun _ => true)
          (.message 0 (announcement 0x3FF0000000000000)) = some w' ∧
        (w'.publishers 0).stage ≠ .stopped ∧
        ¬ Latest (w'.publishers 0).metaData (announced 0x3FF0000000000000) := by
  have hchanged : (run (messageStep fun _ => true) ({} : Server Nat)
      (announcedStream ++ [.message 0 (announcement 0x3FF0000000000000)])).any
      (fun w => decide ((w.publishers 0).stage ≠ .stopped)) = true := by
    decide +kernel
  rcases run_publishing hchanged with ⟨w, w', hrun, hstep, hstage⟩
  refine ⟨w, w', hrun, hstep, hstage, ?_⟩
  intro hlatest
  have hpkt : CarriesMetadata (announcement 0x3FF0000000000000) _ :=
    announcement_carries (by decide)
  have hold := lookup_metaData hrun announcedStream_sends hpkt hstep
    ⟨[], _, rfl, List.not_mem_nil⟩
  have hnew := hlatest _ _ ⟨[], _, rfl, by decide⟩
  rw [hold] at hnew
  revert hnew
  decide

end KeptMetadata

end Server

end Rtmp
end Streaming
