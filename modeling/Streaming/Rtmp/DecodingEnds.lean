import Streaming.Foundation.Loop
import Streaming.Network.CheckedReads
import Streaming.Rtmp.AmfObjects
import Streaming.Rtmp.Messages

/-!
# AMF decoding ends

The loops over keys and values have no counter.  Every turn reads a key, and so
at least the two bytes of its length, whether or not the value is read.
-/

namespace Streaming
namespace Rtmp

open Foundation Network Util

namespace AmfDecoder

/-!
## Turns
-/

section Turns

variable {value : Type}

abbrev Entries (value : Type) := List (Bytes × value)

/-- One turn of the loop, which is left at an empty key. -/
def turn (loadValue : value -> Load value) (last : value) :
    LoadEntries value (Option value) := do
  let key <- onFst loadKey
  if key = [] then
    return none
  else
    let next <- onFst (loadValue last)
    modify fun s => (s.1, s.2 ++ [(key, next)])
    return some next

variable {loadValue : value -> Load value}

/-- A turn takes two bytes, whatever the type of the value. -/
theorem turn_unreadLength (hvalue : forall last, Reads 0 (loadValue last))
    {last : value} {next : Option value} {s t : FlatBuffer × Entries value}
    (h : turn loadValue last s = .ok next t) :
    t.1.unreadLength + 2 <= s.1.unreadLength := by
  rcases bind_eq_ok h with ⟨key, t', hkey, hrest⟩
  have hlength := reads_key _ _ _ (onFst_ok hkey).1
  split at hrest
  · cases hrest
    exact hlength
  · rcases bind_eq_ok hrest with ⟨a, t'', hload, hend⟩
    have hlength' := hvalue last _ _ _ (onFst_ok hload).1
    cases hend
    simp only
    omega

theorem loadEntries_succ (fuel : Nat) (last : value) :
    loadEntries loadValue (fuel + 1) last = (do
      match <- turn loadValue last with
      | none => return
      | some next => loadEntries loadValue fuel next) := by
  rw [loadEntries.eq_2]
  unfold turn
  rw [bind_assoc]
  congr 1
  funext key
  split
  · rw [pure_bind]
  · simp only [bind_assoc, pure_bind]

theorem turn_of_empty {last : value} {s : FlatBuffer × Entries value}
    (h : s.1.unreadLength = 0) :
    turn loadValue last s = .error "not enough data" s := by
  apply bind_of_error
  unfold onFst
  rw [loadKey_empty h]

/-- The loop is the turns that it takes, and the fuel lasts for all of them. -/
theorem loop_loadEntries (hvalue : forall last, Reads 0 (loadValue last))
    (fuel : Nat) (last : value) {s : FlatBuffer × Entries value}
    (h : s.1.unreadLength <= fuel) :
    exists n, Loop (turn loadValue) n last s
      (loadEntries loadValue fuel last s) := by
  induction fuel generalizing last s with
  | zero =>
      exact ⟨0, Loop.throw (turn_of_empty (Nat.le_zero.mp h))⟩
  | succ fuel ih =>
      rw [loadEntries_succ]
      cases hturn : turn loadValue last s with
      | error what t =>
          rw [bind_of_error hturn]
          exact ⟨0, Loop.throw hturn⟩
      | ok next t =>
          rw [bind_of_ok hturn]
          have hlength := turn_unreadLength hvalue hturn
          cases next with
          | none =>
              exact ⟨1, Loop.leave hturn⟩
          | some next =>
              have hrest : t.1.unreadLength <= fuel := by omega
              rcases ih next hrest with ⟨n, hloop⟩
              exact ⟨n + 1, Loop.again hturn hloop⟩

/-- The loop of a decoder ends, after no more turns than the unread bytes allow
when each takes two of them. -/
structure LoopEnds (loadValue : value -> Load value) (first : value)
    (s : FlatBuffer × Entries value) : Prop where
  turns : exists n, 2 * n <= s.1.unreadLength ∧
    Loop (turn loadValue) n first s (loadAllEntries loadValue first s)
  takes_two : forall last t next u, turn loadValue last t = .ok next u ->
    u.1.unreadLength + 2 <= t.1.unreadLength

theorem loopEnds (hvalue : forall last, Reads 0 (loadValue last))
    (first : value) (s : FlatBuffer × Entries value) :
    LoopEnds loadValue first s := by
  constructor
  · rcases loop_loadEntries hvalue s.1.unreadLength first (Nat.le_refl _) with
      ⟨n, hloop⟩
    have hturns := hloop.turns_le (fun s => s.1.unreadLength)
      fun _ _ _ _ hturn => turn_unreadLength hvalue hturn
    exact ⟨n, hturns, hloop⟩
  · intro last t next u hturn
    exact turn_unreadLength hvalue hturn

end Turns

/-!
## The checked decoder
-/

abbrev CheckedLoad := FlatBuffer.CheckedRead

abbrev CheckedEntries (value : Type) :=
  EStateM (Stop String) (FlatBuffer × Entries value)

def checkedPopFront : CheckedLoad Nat :=
  FlatBuffer.checkedReadUint8

def checkedPeekFront : CheckedLoad Nat :=
  FlatBuffer.checkedPeekUint8

def checkedExpect (marker : Nat) (what : String) : CheckedLoad PUnit := do
  if (<- checkedPopFront) ≠ marker then
    throw (.threw what)

def checkedLoadString : CheckedLoad Bytes := do
  checkedExpect amfString "Expected a string"
  FlatBuffer.checkedReadString (<- FlatBuffer.checkedReadUint16)

def checkedLoadDouble : CheckedLoad Nat := do
  checkedExpect amfNumber "Expected a number"
  FlatBuffer.checkedReadUint64

def checkedLoadBool : CheckedLoad Bool := do
  checkedExpect amfBoolean "Expected a bool"
  return (<- checkedPopFront) ≠ 0

def checkedLoadKey : CheckedLoad Bytes := do
  FlatBuffer.checkedReadString (<- FlatBuffer.checkedReadUint16)

def checkedLoadEntries {value : Type}
    (loadValue : value -> CheckedLoad value) :
    Nat -> value -> CheckedEntries value PUnit
  | 0, _ => throw (.threw "not enough data")
  | fuel + 1, last => do
      let key <- onFst checkedLoadKey
      if key = [] then
        return
      else
        let next <- onFst (loadValue last)
        modify fun s => (s.1, s.2 ++ [(key, next)])
        checkedLoadEntries loadValue fuel next

def checkedLoadAllEntries {value : Type}
    (loadValue : value -> CheckedLoad value) (first : value) :
    CheckedEntries value PUnit := do
  checkedLoadEntries loadValue (<- get).1.unreadLength first

def checkedLoadObject : CheckedLoad (Entries Bytes) := fun b =>
  match (do
      onFst (checkedExpect amfObject "expect an object")
      checkedLoadAllEntries (fun _ => checkedLoadString) []
      onFst (checkedExpect amfObjectEnd "expect an object end") :
        CheckedEntries Bytes PUnit) (b, []) with
  | .ok _ (b, entries) => .ok entries b
  | .error what (b, _) => .error what b

def checkedLoadAmfObject : CheckedLoad AmfValue := do
  let entries <- checkedLoadObject
  match AmfValue.setAll entries (.object []) with
  | .ok value => return value
  | .error what => throw (.threw what)

end AmfDecoder

open AmfDecoder

def checkedLoadMetaValue (value : Any) : CheckedLoad Any := do
  let valueType <- checkedPeekFront
  if valueType = amfNumber then
    return some (.double (<- checkedLoadDouble))
  else if valueType = amfBoolean then
    return some (.bool (<- checkedLoadBool))
  else if valueType = amfString then
    return some (.string (<- checkedLoadString))
  else
    return value

def checkedOnProcessMetadata : CheckedEntries Any PUnit := do
  if (<- onFst checkedLoadString) = ascii
      ['@', 's', 'e', 't', 'D', 'a', 't', 'a', 'F', 'r', 'a', 'm', 'e'] then
    if (<- onFst checkedLoadString) = ascii
        ['o', 'n', 'M', 'e', 't', 'a', 'D', 'a', 't', 'a'] then
      onFst (loadsNothing (FlatBuffer.consumeOrFail 5))
      checkedLoadAllEntries checkedLoadMetaValue none
      onFst (checkedExpect amfObjectEnd "expected an object end")

/-!
## No load is outside
-/

namespace AmfDecoder

open FlatBuffer

variable {payload : Bytes}

theorem mirrors_expect (marker : Nat) (what : String) :
    Mirrors (Inside payload) (expect marker what)
      (checkedExpect marker what) :=
  mirrors_readUint8.bind fun _ =>
    Mirrors.ite (Mirrors.throw what) (Mirrors.pure PUnit.unit)

theorem mirrors_loadKey :
    Mirrors (Inside payload) loadKey checkedLoadKey :=
  mirrors_readUint16.bind fun len => mirrors_readString len

theorem mirrors_loadString :
    Mirrors (Inside payload) loadString checkedLoadString :=
  (mirrors_expect _ _).bind fun _ => mirrors_loadKey

theorem mirrors_loadDouble :
    Mirrors (Inside payload) loadDouble checkedLoadDouble :=
  (mirrors_expect _ _).bind fun _ => mirrors_readUint64

theorem mirrors_loadBool :
    Mirrors (Inside payload) loadBool checkedLoadBool :=
  (mirrors_expect _ _).bind fun _ =>
    mirrors_readUint8.bind fun x => Mirrors.pure (decide (x ≠ 0))

theorem mirrors_loadMetaValue (value : Any) :
    Mirrors (Inside payload) (loadMetaValue value)
      (checkedLoadMetaValue value) := by
  apply mirrors_peekUint8.bind
  intro valueType
  apply Mirrors.ite
  · exact mirrors_loadDouble.bind fun x =>
      Mirrors.pure (some (MetaValue.double x))
  apply Mirrors.ite
  · exact mirrors_loadBool.bind fun b =>
      Mirrors.pure (some (MetaValue.bool b))
  apply Mirrors.ite
  · exact mirrors_loadString.bind fun s =>
      Mirrors.pure (some (MetaValue.string s))
  · exact Mirrors.pure value

section Entries

variable {value : Type} {loadValue : value -> Load value}
  {checkedValue : value -> CheckedLoad value}

/-- The invariant on what is left of the payload, beside entries. -/
abbrev InsideFst (payload : Bytes) (s : FlatBuffer × Entries value) : Prop :=
  Inside payload s.1

theorem mirrors_loadEntries
    (hvalue : forall last, Mirrors (Inside payload) (loadValue last)
      (checkedValue last)) (fuel : Nat) (last : value) :
    Mirrors (InsideFst payload) (loadEntries loadValue fuel last)
      (checkedLoadEntries checkedValue fuel last) := by
  induction fuel generalizing last with
  | zero =>
      exact Mirrors.throw "not enough data"
  | succ fuel ih =>
      apply mirrors_loadKey.onFst.bind
      intro key
      apply Mirrors.ite
      · exact Mirrors.pure PUnit.unit
      · apply (hvalue last).onFst.bind
        intro next
        have hadd : Mirrors (InsideFst payload)
            (modify fun s => (s.1, s.2 ++ [(key, next)]) :
              LoadEntries value PUnit)
            (modify fun s => (s.1, s.2 ++ [(key, next)])) :=
          Mirrors.update fun _ hs => hs
        exact hadd.bind fun _ => ih next

theorem mirrors_loadAllEntries
    (hvalue : forall last, Mirrors (Inside payload) (loadValue last)
      (checkedValue last)) (first : value) :
    Mirrors (InsideFst payload) (loadAllEntries loadValue first)
      (checkedLoadAllEntries checkedValue first) :=
  Mirrors.get.bind fun s => mirrors_loadEntries hvalue s.1.unreadLength first

/-- A turn that another follows leaves the end of the payload to be read. -/
theorem turn_inside
    (hvalue : forall last, Mirrors (Inside payload) (loadValue last)
      (checkedValue last)) {last next : value} {s t : FlatBuffer × Entries value}
    (hs : InsideFst payload s) (h : turn loadValue last s = .ok (some next) t) :
    InsideFst payload t := by
  rcases bind_eq_ok h with ⟨key, t', hkey, hrest⟩
  have hinside := mirrors_loadKey.inv_of_ok hs (onFst_ok hkey).1
  split at hrest
  · cases hrest
  · rcases bind_eq_ok hrest with ⟨a, t'', hload, hend⟩
    have hinside' := (hvalue last).inv_of_ok hinside (onFst_ok hload).1
    cases hend
    exact hinside'

end Entries

theorem loadObject_eq_collect :
    loadObject = collect [] (do
      onFst (expect amfObject "expect an object")
      loadAllEntries (fun _ => loadString) []
      onFst (expect amfObjectEnd "expect an object end")) := by
  funext b
  unfold loadObject collect
  split
  · rename_i hresult
    rw [hresult]
  · rename_i hresult
    rw [hresult]

theorem checkedLoadObject_eq_collect :
    checkedLoadObject = collect [] (do
      onFst (checkedExpect amfObject "expect an object")
      checkedLoadAllEntries (fun _ => checkedLoadString) []
      onFst (checkedExpect amfObjectEnd "expect an object end")) := by
  funext b
  unfold checkedLoadObject collect
  split
  · rename_i hresult
    rw [hresult]
  · rename_i hresult
    rw [hresult]

theorem mirrors_loadObject :
    Mirrors (Inside payload) loadObject checkedLoadObject := by
  rw [loadObject_eq_collect, checkedLoadObject_eq_collect]
  apply Mirrors.collect
  apply (mirrors_expect _ _).onFst.bind
  intro _
  apply (mirrors_loadAllEntries (fun _ => mirrors_loadString) []).bind
  intro _
  exact (mirrors_expect _ _).onFst

theorem mirrors_loadAmfObject :
    Mirrors (Inside payload) loadAmfObject checkedLoadAmfObject := by
  apply mirrors_loadObject.bind
  intro entries
  cases AmfValue.setAll entries (.object []) with
  | ok value => exact Mirrors.pure value
  | error what => exact Mirrors.throw what

theorem mirrors_onProcessMetadata :
    Mirrors (InsideFst payload) onProcessMetadata checkedOnProcessMetadata := by
  apply mirrors_loadString.onFst.bind
  intro name
  apply Mirrors.ite
  · apply mirrors_loadString.onFst.bind
    intro name'
    apply Mirrors.ite
    · apply (Mirrors.loadsNothing (inside_consumeOrFail 5)).onFst.bind
      intro _
      apply (mirrors_loadAllEntries mirrors_loadMetaValue none).bind
      intro _
      exact (mirrors_expect _ _).onFst
    · exact Mirrors.pure PUnit.unit
  · exact Mirrors.pure PUnit.unit

/-!
## The end of an object
-/

theorem expect_unread {marker : Nat} {what : String} {b b' : FlatBuffer}
    (hb : b.Valid) (h : expect marker what b = .ok PUnit.unit b') :
    b.unread = UInt8.ofNat marker :: b'.unread := by
  rcases bind_eq_ok h with ⟨x, t, hpop, hrest⟩
  have hfirst := readInt_unread .uint8 hb hpop
  split at hrest
  · cases hrest
  · rename_i hmarker
    cases hrest
    rw [hfirst, not_not.mp hmarker]
    rfl

/-- An empty key is a length of 0. -/
theorem loadKey_unread {b b' : FlatBuffer} (hb : b.Valid)
    (h : loadKey b = .ok [] b') : b.unread = 0 :: 0 :: b'.unread := by
  rcases bind_eq_ok h with ⟨len, t, hlen, hstring⟩
  have hfirst := readInt_unread .uint16 hb hlen
  have hinside := mirrors_readUint16.inv_of_ok hb.inside hlen
  have hlast := readString_unread hstring
  have hzero : len = 0 := (Scalar.readString_length hinside.valid hstring).symm
  rw [hfirst, hlast, hzero]
  rfl

/-- What is unread is behind an empty key and an object end marker. -/
def EndsAtMarker (payload : Bytes) (b : FlatBuffer) : Prop :=
  0 :: 0 :: UInt8.ofNat amfObjectEnd :: b.unread <:+ payload

section Entries

variable {value : Type} {loadValue : value -> Load value}
  {checkedValue : value -> CheckedLoad value}

theorem turn_none {last : value} {s t : FlatBuffer × Entries value}
    (h : turn loadValue last s = .ok none t) : loadKey s.1 = .ok [] t.1 := by
  rcases bind_eq_ok h with ⟨key, t', hkey, hrest⟩
  split at hrest
  · rename_i hempty
    cases hrest
    rw [← hempty]
    exact (onFst_ok hkey).1
  · rcases bind_eq_ok hrest with ⟨a, t'', _, hend⟩
    cases hend

theorem loadAllEntries_unread
    (hvalue : forall last, Mirrors (Inside payload) (loadValue last)
      (checkedValue last))
    (hreads : forall last, Reads 0 (loadValue last)) {first : value}
    {s t : FlatBuffer × Entries value} (hs : InsideFst payload s)
    (h : loadAllEntries loadValue first s = .ok PUnit.unit t) :
    0 :: 0 :: t.1.unread <:+ payload := by
  rcases (loopEnds hreads first s).turns with ⟨n, _, hloop⟩
  have hlast := hloop.last_turn (InsideFst payload)
    (fun _ _ _ _ hs hturn => turn_inside hvalue hs hturn) hs h
  rcases hlast with ⟨last, u, hu, hturn⟩
  rw [← loadKey_unread hu.valid (turn_none hturn)]
  exact hu.suffix

/-- The loop and the check of the marker behind it. -/
theorem loadAllEntries_expect_unread
    (hvalue : forall last, Mirrors (Inside payload) (loadValue last)
      (checkedValue last))
    (hreads : forall last, Reads 0 (loadValue last)) {first : value}
    {what : String} {s t : FlatBuffer × Entries value}
    (hs : InsideFst payload s)
    (h : (do
      loadAllEntries loadValue first
      onFst (expect amfObjectEnd what) : LoadEntries value PUnit) s =
        .ok PUnit.unit t) :
    EndsAtMarker payload t.1 := by
  rcases bind_eq_ok h with ⟨_, u, hloop, hend⟩
  have hu := (mirrors_loadAllEntries hvalue first).inv_of_ok hs hloop
  have hsuffix := loadAllEntries_unread hvalue hreads hs hloop
  rw [expect_unread hu.valid (onFst_ok hend).1] at hsuffix
  exact hsuffix

end Entries

theorem loadAmfObject_unread {b b' : FlatBuffer} {value : AmfValue}
    (hb : b.Valid) (h : loadAmfObject b = .ok value b') :
    EndsAtMarker b.unread b' := by
  rcases bind_eq_ok h with ⟨entries, t, hobject, hset⟩
  have hsame : b' = t := by
    revert hset
    cases AmfValue.setAll entries (.object []) with
    | ok value =>
        intro hset
        cases hset
        rfl
    | error what =>
        intro hset
        cases hset
  rw [loadObject_eq_collect] at hobject
  unfold collect at hobject
  split at hobject
  · rename_i u hprogram
    cases hobject
    rcases bind_eq_ok hprogram with ⟨_, v, hfirst, hrest⟩
    have hv := (mirrors_expect _ _).inv_of_ok hb.inside (onFst_ok hfirst).1
    rw [hsame]
    exact loadAllEntries_expect_unread (fun _ => mirrors_loadString)
      (fun _ => reads_loadString.mono (Nat.zero_le _)) hv hrest
  · cases hobject

/-- The message is one whose entries are read. -/
def IsMetadata (b : FlatBuffer) : Prop :=
  exists t u,
    loadString b = .ok (ascii
      ['@', 's', 'e', 't', 'D', 'a', 't', 'a', 'F', 'r', 'a', 'm', 'e']) t ∧
    loadString t = .ok (ascii
      ['o', 'n', 'M', 'e', 't', 'a', 'D', 'a', 't', 'a']) u

theorem onProcessMetadata_unread {b : FlatBuffer} {metadata : Metadata}
    {t : FlatBuffer × Metadata} (hb : b.Valid) (hname : IsMetadata b)
    (h : onProcessMetadata (b, metadata) = .ok PUnit.unit t) :
    EndsAtMarker b.unread t.1 := by
  rcases hname with ⟨u, v, hfirst, hsecond⟩
  have hu := mirrors_loadString.inv_of_ok hb.inside hfirst
  have hv := mirrors_loadString.inv_of_ok hu hsecond
  unfold onProcessMetadata at h
  rw [bind_of_ok (onFst_of_ok hfirst), if_pos rfl,
    bind_of_ok (onFst_of_ok hsecond), if_pos rfl] at h
  rcases bind_eq_ok h with ⟨_, w, hconsume, hrest⟩
  have hw := (Mirrors.loadsNothing (inside_consumeOrFail 5)).inv_of_ok hv
    (onFst_ok hconsume).1
  exact loadAllEntries_expect_unread mirrors_loadMetaValue
    reads_loadMetaValue hw hrest

/-- On any payload, the loops end, nothing outside is loaded, and what does not
throw stops behind an object end marker. -/
structure DecodingEnds (b : FlatBuffer) (metadata : Metadata) : Prop where
  object_loop : forall s : FlatBuffer × Entries Bytes,
    LoopEnds (fun _ => loadString) [] s
  metadata_loop : forall s : FlatBuffer × Metadata,
    LoopEnds loadMetaValue none s
  object_inside : checkedLoadAmfObject b = staysInside (loadAmfObject b)
  metadata_inside : checkedOnProcessMetadata (b, metadata) =
    staysInside (onProcessMetadata (b, metadata))
  object_end : forall value b', loadAmfObject b = .ok value b' ->
    EndsAtMarker b.unread b'
  metadata_end : IsMetadata b -> forall t,
    onProcessMetadata (b, metadata) = .ok PUnit.unit t ->
      EndsAtMarker b.unread t.1

theorem decoding_ends {b : FlatBuffer} (hb : b.Valid) (metadata : Metadata) :
    DecodingEnds b metadata where
  object_loop := loopEnds
    (fun _ => reads_loadString.mono (Nat.zero_le _)) []
  metadata_loop := loopEnds reads_loadMetaValue none
  object_inside := (mirrors_loadAmfObject b hb.inside).1
  metadata_inside := (mirrors_onProcessMetadata (b, metadata) hb.inside).1
  object_end _ _ h := loadAmfObject_unread hb h
  metadata_end hname _ h := onProcessMetadata_unread hb hname h

theorem decoding_ends_app :
    (FlatBuffer.ofBytes [3, 0, 1, 97, 2, 0, 1, 98, 0, 0, 9]).Valid ∧
      DecodingEnds (FlatBuffer.ofBytes [3, 0, 1, 97, 2, 0, 1, 98, 0, 0, 9])
        [] :=
  ⟨FlatBuffer.ofBytes_valid _, decoding_ends (FlatBuffer.ofBytes_valid _) []⟩

/-- The object that has been read, and what is left behind its marker. -/
example :
    loadObject (FlatBuffer.ofBytes [3, 0, 1, 97, 2, 0, 1, 98, 0, 0, 9, 7]) =
      .ok [([97], [98])]
        ((FlatBuffer.ofBytes [3, 0, 1, 97, 2, 0, 1, 98, 0, 0, 9, 7]).safeConsume
          11) := by
  rfl

end AmfDecoder

end Rtmp
end Streaming
