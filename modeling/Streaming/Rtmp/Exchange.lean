import Streaming.Rtmp.Dialogue

/-!
# What a client is answered

The answers as values of AMF0, and which of them there are for the messages of a
client.
-/

namespace Streaming
namespace Rtmp

open Foundation Media Network Util

/-!
## Values
-/

namespace AmfValue

open AmfEncoder

mutual

/-- The value of AMF0 with the same content. -/
def toValue : AmfValue -> Amf0
  | number bits => .number bits.toNat
  | boolean b => .boolean (if b then 1 else 0)
  | string s => .string s
  | object entries => .object (toEntries entries)
  | null => .null

def toEntries : MapType -> List (Bytes × Amf0)
  | [] => []
  | (key, value) :: entries => (key, toValue value) :: toEntries entries

end

mutual

/-- The types that the `switch` lists, with texts that can be written. -/
def Listed : AmfValue -> Prop
  | number _ => True
  | string s => TextOk s
  | object entries => ListedEntries entries
  | _ => False

def ListedEntries : MapType -> Prop
  | [] => True
  | (key, value) :: entries =>
      key.length <= 65535 ∧ Listed value ∧ ListedEntries entries

end

theorem writeDouble_encode (buf : Bytes) (bits : UInt64) :
    writeDouble buf bits = buf ++ (Amf0.number bits.toNat).encode := by
  rw [← Scalar.write_double]
  exact Scalar.write_eq buf (.double bits)

theorem writeNull_encode (buf : Bytes) :
    writeNull buf = buf ++ Amf0.null.encode := by
  simp [writeNull, Amf0.encode, Amf0.marker, Amf0.body, amfNull]

theorem writeObject (buf bytes : Bytes) :
    writeKey (buf ++ [amfObject] ++ bytes) [] ++ [amfObjectEnd] =
      buf ++ (0x03 :: (bytes ++ Amf0.objectEnd)) := by
  rw [writeKey_text _ (Nat.zero_le _)]
  simp [Amf0.objectEnd, amfObject, amfObjectEnd]

mutual

theorem write_encode (buf : Bytes) :
    forall value : AmfValue, value.Listed ->
      value.write buf = buf ++ value.toValue.encode
  | number bits, _ => by
      simp only [write, toValue]
      exact writeDouble_encode buf bits
  | string s, h => by
      simp only [write, toValue]
      exact writeStdString_text buf h
  | object entries, h => by
      have hentries := writeEntries_encode (buf ++ [amfObject]) entries h
      simp only [write, toValue, hentries, Amf0.encode_object]
      exact writeObject buf _

theorem writeEntries_encode (buf : Bytes) :
    forall entries : MapType, ListedEntries entries ->
      writeEntries buf entries = buf ++ Amf0.encodeEntries (toEntries entries)
  | [], _ => by simp [writeEntries, toEntries, Amf0.encodeEntries]
  | (key, value) :: entries, h => by
      rcases h with ⟨hkey, hvalue, hrest⟩
      have hfirst := write_encode (writeKey buf key) value hvalue
      simp only [writeEntries, toEntries, Amf0.encodeEntries]
      rw [writeEntries_encode _ entries hrest, hfirst, writeKey_text _ hkey]
      simp [Amf0.encode]

end

/-!
## The objects of the answers
-/

theorem emplace_first {key : Bytes} {value : AmfValue} {entry : Bytes × AmfValue}
    {entries : MapType} (h : key < entry.1) :
    emplace key value (entry :: entries) = (key, value) :: entry :: entries := by
  unfold emplace
  rw [if_pos h]

theorem emplace_behind {key : Bytes} {value : AmfValue}
    {entry : Bytes × AmfValue} {entries : MapType} (h : entry.1 < key) :
    emplace key value (entry :: entries) = entry :: emplace key value entries := by
  rw [emplace, if_neg (List.lt_asymm h), if_pos h]

/-- The order of the keys. -/
theorem keys_sorted :
    text "capabilities" < text "fmsVer" ∧ text "clientid" < text "code" ∧
      text "code" < text "description" ∧ text "code" < text "level" ∧
        text "description" < text "level" := by
  decide +kernel

/-- The texts that are written can be. -/
theorem texts_ok (s : String)
    (h : s ∈ ["_result", "onBWDone", "onStatus", "capabilities", "fmsVer",
      "clientid", "code", "description", "level", "FMS/3,0,1,123",
      "NetConnection.Connect.Success", "Connection succeeded", "status", "0",
      "error", "NetStream.Publish.Start", "NetStream.Publish.BadName",
      "Start publishing"]) : TextOk (text s) := by
  revert s
  decide +kernel

theorem version_eq : version = object
    [(text "capabilities", number 0x403F000000000000),
      (text "fmsVer", string (text "FMS/3,0,1,123"))] :=
  congrArg object (emplace_first keys_sorted.1)

/-- The keys in the order of the map. -/
theorem emplace_status (level code description : AmfValue) :
    emplace (text "description") description
        (emplace (text "code") code [(text "level", level)]) =
      [(text "code", code), (text "description", description),
        (text "level", level)] := by
  rcases keys_sorted with ⟨_, _, hbehind, hcode, hdescription⟩
  rw [emplace_first hcode, emplace_behind hbehind, emplace_first hdescription]

theorem connectStatus_eq : connectStatus = object
    [(text "code", string (text "NetConnection.Connect.Success")),
      (text "description", string (text "Connection succeeded")),
      (text "level", string (text "status"))] :=
  congrArg object (emplace_status _ _ _)

theorem publishStatus_eq (level code : String) (description : Bytes) :
    publishStatus level code description = object
      [(text "clientid", string (text "0")), (text "code", string (text code)),
        (text "description", string description),
        (text "level", string (text level))] := by
  have horder := keys_sorted.2.1
  have hstatus := emplace_status (string (text level)) (string (text code))
    (string description)
  refine congrArg object ?_
  change emplace (text "clientid") (string (text "0")) (emplace (text "description")
    (string description) (emplace (text "code") (string (text code))
      [(text "level", string (text level))])) = _
  rw [hstatus, emplace_first horder]

end AmfValue

/-!
## The answers
-/

namespace Answer

open AmfEncoder AmfValue

def connected (transactionId : UInt64) : List Amf0 :=
  [.string (text "_result"), .number transactionId.toNat,
    .object
      [(text "capabilities", .number 0x403F000000000000),
        (text "fmsVer", .string (text "FMS/3,0,1,123"))],
    .object
      [(text "code", .string (text "NetConnection.Connect.Success")),
        (text "description", .string (text "Connection succeeded")),
        (text "level", .string (text "status"))]]

def bandwidthDone : List Amf0 :=
  [.string (text "onBWDone"), .number 0, .null]

def streamCreated (transactionId : UInt64) : List Amf0 :=
  [.string (text "_result"), .number transactionId.toNat, .null, .number 0]

def status (transactionId : UInt64) (level code : String) (description : Bytes) :
    List Amf0 :=
  [.string (text "onStatus"), .number transactionId.toNat, .null,
    .object
      [(text "clientid", .string (text "0")), (text "code", .string (text code)),
        (text "description", .string description),
        (text "level", .string (text level))]]

def publishStarted (transactionId : UInt64) : List Amf0 :=
  status transactionId "status" "NetStream.Publish.Start" (text "Start publishing")

theorem writeString_encode {s : Bytes} (h : TextOk s) :
    writeString [] s = (Amf0.string s).encode := by
  have hlength : s.length % 2 ^ 16 = s.length :=
    Nat.mod_eq_of_lt (Nat.lt_succ_of_le h.2)
  unfold writeString
  rw [Scalar.setBe16_eq, hlength]
  rfl

theorem connectResult_eq (transactionId : UInt64) :
    connectResult transactionId = Amf0.encodeValues (connected transactionId) := by
  have hversion : version.Listed := by
    rw [version_eq]
    simp only [Listed, ListedEntries]
    exact ⟨(texts_ok "capabilities" (by simp)).2, trivial,
      (texts_ok "fmsVer" (by simp)).2, texts_ok _ (by simp), trivial⟩
  have hstatus : connectStatus.Listed := by
    rw [connectStatus_eq]
    simp only [Listed, ListedEntries]
    exact ⟨(texts_ok "code" (by simp)).2, texts_ok _ (by simp),
      (texts_ok "description" (by simp)).2, texts_ok _ (by simp),
      (texts_ok "level" (by simp)).2, texts_ok _ (by simp), trivial⟩
  unfold connectResult connected
  rw [writeString_encode (texts_ok _ (by simp)), writeDouble_encode,
    write_encode _ _ hversion, write_encode _ _ hstatus, version_eq,
    connectStatus_eq]
  simp [Amf0.encodeValues, Amf0.encode, toValue, toEntries]

theorem bwDone_eq : bwDone = Amf0.encodeValues bandwidthDone := by
  unfold bwDone bandwidthDone
  rw [writeString_encode (texts_ok _ (by simp)), writeDouble_encode,
    writeNull_encode]
  simp [Amf0.encodeValues, Amf0.encode]

theorem createStreamResult_eq (transactionId : UInt64) :
    createStreamResult transactionId =
      Amf0.encodeValues (streamCreated transactionId) := by
  unfold createStreamResult streamCreated
  rw [writeString_encode (texts_ok _ (by simp)), writeDouble_encode,
    writeNull_encode, writeDouble_encode]
  simp [Amf0.encodeValues, Amf0.encode]

theorem onStatus_eq (transactionId : UInt64) {level code : String}
    {description : Bytes} (hlevel : TextOk (text level))
    (hcode : TextOk (text code)) (hdescription : TextOk description) :
    onStatus transactionId (publishStatus level code description) =
      Amf0.encodeValues (status transactionId level code description) := by
  have hstatus : (publishStatus level code description).Listed := by
    rw [publishStatus_eq]
    simp only [Listed, ListedEntries]
    exact ⟨(texts_ok "clientid" (by simp)).2, texts_ok _ (by simp),
      (texts_ok "code" (by simp)).2, hcode,
      (texts_ok "description" (by simp)).2, hdescription,
      (texts_ok "level" (by simp)).2, hlevel, trivial⟩
  unfold onStatus status
  rw [writeString_encode (texts_ok _ (by simp)), writeDouble_encode,
    writeNull_encode, write_encode _ _ hstatus, publishStatus_eq]
  simp [Amf0.encodeValues, Amf0.encode, toValue, toEntries]

theorem publishStart_eq (transactionId : UInt64) :
    publishStart transactionId =
      Amf0.encodeValues (publishStarted transactionId) :=
  onStatus_eq transactionId (texts_ok _ (by simp)) (texts_ok _ (by simp))
    (texts_ok _ (by simp))

/-- The text of the exception up to a NUL, if its length can be written. -/
theorem publishBadName_eq (transactionId : UInt64) {what : Bytes}
    (h : (cStr what).length <= 65535) :
    publishBadName transactionId what = Amf0.encodeValues
      (status transactionId "error" "NetStream.Publish.BadName" (cStr what)) := by
  have hnul : 0 ∉ cStr what := by
    intro hmem
    exact absurd (List.mem_takeWhile_imp hmem) (by decide)
  exact onStatus_eq transactionId (texts_ok _ (by simp)) (texts_ok _ (by simp))
    ⟨hnul, h⟩

/-!
## How long they are
-/

/-- With 0 for the transaction and no text. -/
theorem lengths_lt :
    (Amf0.encodeValues (connected 0)).length < 2 ^ 24 ∧
      (Amf0.encodeValues bandwidthDone).length < 2 ^ 24 ∧
        (Amf0.encodeValues (streamCreated 0)).length < 2 ^ 24 ∧
          (Amf0.encodeValues (publishStarted 0)).length < 2 ^ 24 ∧
            (publishBadName 0 []).length < 2 ^ 23 ∧
              publishBadName 0 [] ≠ [] := by
  decide +kernel

theorem sendable_encodeValues {value : Amf0} {values : List Amf0}
    (h : (Amf0.encodeValues (value :: values)).length < 2 ^ 24) :
    Sendable (Amf0.encodeValues (value :: values)) := by
  constructor
  · simp [Amf0.encodeValues]
  · exact h

theorem sendable_connectResult (transactionId : UInt64) :
    Sendable (connectResult transactionId) := by
  have hlength : (Amf0.encodeValues (connected transactionId)).length =
      (Amf0.encodeValues (connected 0)).length := by
    simp [connected, Amf0.encodeValues, Amf0.body]
  rw [connectResult_eq]
  apply sendable_encodeValues
  exact Nat.lt_of_le_of_lt (Nat.le_of_eq hlength) lengths_lt.1

theorem sendable_createStreamResult (transactionId : UInt64) :
    Sendable (createStreamResult transactionId) := by
  have hlength : (Amf0.encodeValues (streamCreated transactionId)).length =
      (Amf0.encodeValues (streamCreated 0)).length := by
    simp [streamCreated, Amf0.encodeValues, Amf0.body]
  rw [createStreamResult_eq]
  apply sendable_encodeValues
  exact Nat.lt_of_le_of_lt (Nat.le_of_eq hlength) lengths_lt.2.2.1

theorem sendable_publishStart (transactionId : UInt64) :
    Sendable (publishStart transactionId) := by
  have hlength : (Amf0.encodeValues (publishStarted transactionId)).length =
      (Amf0.encodeValues (publishStarted 0)).length := by
    simp [publishStarted, status, Amf0.encodeValues, Amf0.body]
  rw [publishStart_eq]
  apply sendable_encodeValues
  exact Nat.lt_of_le_of_lt (Nat.le_of_eq hlength) lengths_lt.2.2.2.1

theorem sendable_bwDone : Sendable bwDone := by
  rw [bwDone_eq]
  exact sendable_encodeValues lengths_lt.2.1

theorem writeString_length (buf s : Bytes) :
    (writeString buf s).length = buf.length + 3 + s.length := by
  simp only [writeString, setBe16, List.length_append, List.length_cons,
    List.length_nil]

theorem writeDouble_length (buf : Bytes) (bits : UInt64) :
    (writeDouble buf bits).length = buf.length + 9 := by
  rw [writeDouble_encode, List.length_append]
  simp [Amf0.encode, Amf0.body]

theorem publishBadName_length (transactionId : UInt64) (what : Bytes) :
    (publishBadName transactionId what).length =
      (publishBadName 0 []).length + (cStr (cStr what)).length := by
  have hnone : cStr (cStr []) = [] := rfl
  simp only [publishBadName, onStatus, publishStatus_eq, write, writeEntries,
    writeStdString, writeNull, writeKey_length, writeString_length,
    writeDouble_length, hnone, List.length_append, List.length_nil]
  omega

theorem sendable_publishBadName (transactionId : UInt64) {what : Bytes}
    (h : what.length < 2 ^ 23) : Sendable (publishBadName transactionId what) := by
  rcases lengths_lt with ⟨_, _, _, _, hshort, hne⟩
  have hlength := publishBadName_length transactionId what
  have hcut := Scalar.cStr_length_le (cStr what)
  have hagain := Scalar.cStr_length_le what
  constructor
  · rw [Ne, ← List.length_eq_zero_iff, hlength]
    have hpos := List.length_pos_iff.mpr hne
    omega
  · omega

end Answer

/-- A refused client is told why in less than 2^23 bytes. -/
def Sources.Brief {W : Type} (sources : Sources W) : Prop :=
  forall w info what w', sources.takeSource w info = (.error what, w') ->
    what.length < 2 ^ 23

theorem Sources.Brief.sends {W : Type} {sources : Sources W}
    (h : sources.Brief) : sources.Sends Sendable := by
  refine ⟨Answer.sendable_bwDone, Answer.sendable_connectResult,
    Answer.sendable_createStreamResult, Answer.sendable_publishStart, ?_⟩
  intro id w info what w' htake
  exact Answer.sendable_publishBadName id (h w info what w' htake)

/-!
## Which there are
-/

/-- The command that a payload begins with, and its transaction. -/
def callOf (b : FlatBuffer) : Option (Command × UInt64) :=
  match AmfDecoder.loadString b with
  | .error _ _ => none
  | .ok method dec =>
      match cmdFuncs method with
      | none => none
      | some command =>
          match AmfDecoder.loadDouble dec with
          | .error _ _ => none
          | .ok transactionId _ =>
              some (command, UInt64.ofNat transactionId)

def commandOf (pkt : RtmpPacket) : Option (Command × UInt64) :=
  if pkt.msgTypeId = msgCmd ∨ pkt.msgTypeId = msgCmd3 then callOf pkt.buf
  else none

/-- The answers to a command that has been carried out. -/
def answersOf : Option (Command × UInt64) -> List (List Amf0)
  | some (.connect, id) => [Answer.connected id, Answer.bandwidthDone]
  | some (.createStream, id) => [Answer.streamCreated id]
  | some (.publish, id) => [Answer.publishStarted id]
  | none => []

def answersTo (pkt : RtmpPacket) : List Delivered :=
  (answersOf (commandOf pkt)).map fun values =>
    replyTo pkt.msgStreamId (Amf0.encodeValues values)

/-- What is said for a message on which the connection ends.  Only a `publish`
that is refused is answered. -/
inductive Refused {W : Type} (sources : Sources W) (pkt : RtmpPacket) :
    List Delivered -> Prop
  | silently : Refused sources pkt []
  | badName (id : UInt64) (w : W) (info : MediaInfo) (what : Bytes) (w' : W)
      (hcommand : commandOf pkt = some (.publish, id))
      (htake : sources.takeSource w info = (.error what, w')) :
      Refused sources pkt [replyTo pkt.msgStreamId (publishBadName id what)]

section Commands

variable {W : Type} {sources : Sources W} {p p' : List Bytes × ClientState W}
  {pkt : RtmpPacket} {dec : FlatBuffer}

/-- How a handler ends: with all of its answers, or without one but that of a
refused `publish`. -/
inductive Concludes (sources : Sources W) (said : List Bytes)
    (call : Option (Command × UInt64)) : Exit (List Bytes × ClientState W) -> Prop
  | done {p : List Bytes × ClientState W}
      (h : p.1 = said ++ (answersOf call).map Amf0.encodeValues) :
      Concludes sources said call (.done p)
  | threw {what : String} {p : List Bytes × ClientState W} (h : p.1 = said) :
      Concludes sources said call (.threw what p)
  | refused {what : String} {p : List Bytes × ClientState W} (id : UInt64)
      (w : W) (info : MediaInfo) (text : Bytes) (w' : W)
      (hcall : call = some (.publish, id))
      (htake : sources.takeSource w info = (.error text, w'))
      (h : p.1 = said ++ [publishBadName id text]) :
      Concludes sources said call (.threw what p)
  | crashed : Concludes sources said call .crashed

theorem onAmfConnect_concludes :
    Concludes sources p.1 (some (.connect, p.2.transactionId))
      (onAmfConnect note dec p) := by
  unfold onAmfConnect
  split
  · exact .threw rfl
  · split
    · exact .threw rfl
    · refine .done ?_
      simp only [answersOf, List.map_cons, List.map_nil, ← Answer.connectResult_eq,
        ← Answer.bwDone_eq, List.append_assoc]
      rfl

theorem onAmfPublish_concludes :
    Concludes sources p.1 (some (.publish, p.2.transactionId))
      (onAmfPublish sources note dec p) := by
  unfold onAmfPublish
  split
  · exact .threw rfl
  · split
    · exact .crashed
    · split
      · exact .threw rfl
      · split
        · exact .threw rfl
        · split
          · split
            · refine .done ?_
              simp only [answersOf, List.map_cons, List.map_nil,
                ← Answer.publishStart_eq]
            · rename_i what world htake
              exact .refused _ _ _ what world rfl htake rfl
          · exact .threw rfl

theorem onCommand_concludes (command : Command) :
    Concludes sources p.1 (some (command, p.2.transactionId))
      (onCommand sources note command dec p) := by
  cases command with
  | connect => exact onAmfConnect_concludes
  | createStream =>
      refine .done ?_
      simp only [answersOf, List.map_cons, List.map_nil,
        ← Answer.createStreamResult_eq]
  | publish => exact onAmfPublish_concludes

theorem processCmd_concludes :
    Concludes sources p.1 (callOf pkt.buf) (processCmd sources note p pkt) := by
  unfold processCmd callOf
  cases AmfDecoder.loadString pkt.buf with
  | error what b => exact .threw rfl
  | ok method dec =>
      dsimp only
      cases cmdFuncs method with
      | none => exact .done (List.append_nil _).symm
      | some command =>
          dsimp only
          cases AmfDecoder.loadDouble dec with
          | error what b => exact .threw rfl
          | ok transactionId dec =>
              dsimp only
              exact onCommand_concludes (p := (p.1, { p.2 with
                transactionId := UInt64.ofNat transactionId })) command

theorem silent_concludes
    (handler : W -> RtmpPacket -> Except (Fault BadPointer) PUnit × W) :
    Concludes sources p.1 none (silent handler p pkt) := by
  unfold silent
  split
  · exact .done (List.append_nil _).symm
  · exact .threw rfl
  · exact .crashed

/-- A message of any type. -/
theorem answer_concludes :
    Concludes sources p.1 (commandOf pkt) (sources.answer p pkt) := by
  have hnone : forall msgTypeId : Nat, pkt.msgTypeId = msgTypeId ->
      msgTypeId ≠ msgCmd ∧ msgTypeId ≠ msgCmd3 -> commandOf pkt = none := by
    intro msgTypeId htype hne
    unfold commandOf
    rw [htype, if_neg (not_or.mpr hne)]
  have hdone : Concludes sources p.1 none (.done p) :=
    .done (List.append_nil _).symm
  unfold Sources.answer
  split
  · rename_i htype
    rw [hnone msgSetChunk htype (by decide)]
    split
    · exact .threw rfl
    · exact hdone
  · split
    · rename_i htype
      rw [hnone msgAck htype (by decide)]
      split
      · exact .threw rfl
      · exact hdone
    · split
      · rename_i htype
        unfold commandOf
        rw [if_pos htype]
        exact processCmd_concludes
      · rename_i htype
        unfold commandOf
        rw [if_neg htype]
        split
        · exact silent_concludes _
        · split
          · split
            · exact silent_concludes _
            · exact .threw rfl
          · exact hdone

variable {app app' : ClientState W} {pkts : List RtmpPacket}
  {said : List Delivered}

/-- As long as the connection goes on, every command has all of its answers, in
the order of the messages, and nothing else is said. -/
theorem Sources.Handled.said_eq (h : sources.Handled app pkts said app') :
    said = pkts.flatMap answersTo := by
  induction h with
  | nil app => rfl
  | @cons app pkt p pkts said app' hanswer _ ih =>
      have hconcludes : Concludes sources [] (commandOf pkt)
          (sources.answer ([], app) pkt) := answer_concludes (p := ([], app))
      rw [hanswer] at hconcludes
      rw [List.flatMap_cons, ih]
      cases hconcludes with
      | done h =>
          rw [h]
          simp [answersTo]

theorem Sources.Ended.said_eq (h : sources.Ended app pkts said) :
    exists front pkt words, pkts = front ++ [pkt] ∧
      said = front.flatMap answersTo ++ words ∧ Refused sources pkt words := by
  cases h with
  | @intro front pkt said app' hfront hanswer =>
      refine ⟨front, pkt, (lastWords (sources.answer ([], app') pkt)).map
        (replyTo pkt.msgStreamId), rfl, ?_, ?_⟩
      · rw [hfront.said_eq]
      · have hconcludes : Concludes sources [] (commandOf pkt)
            (sources.answer ([], app') pkt) := answer_concludes (p := ([], app'))
        generalize sources.answer ([], app') pkt = e at hconcludes hanswer ⊢
        cases hconcludes with
        | done h => exact absurd rfl (hanswer _)
        | threw h =>
            rw [lastWords, h]
            exact .silently
        | refused id w info text w' hcall htake h =>
            rw [lastWords, h]
            exact .badName id w info text w' hcall htake
        | crashed => exact .silently

end Commands

end Rtmp
end Streaming
