import Streaming.Foundation.Frame
import Streaming.Http.FlvHeader

/-!
# Two spellings of a stream

A publisher names its stream in the argument of its publish command, a viewer in
the first line of its request.
-/

namespace Streaming
namespace Http

open Foundation Media Util

/-!
## Names
-/

def isNameChar (c : UInt8) : Bool :=
  isAlpha c || isDigit c || c = 45 || c = 95

def IsName (s : Bytes) : Prop :=
  s ≠ [] ∧ forall c, c ∈ s -> isNameChar c = true

def IsHost (s : Bytes) : Prop :=
  s ≠ [] ∧ forall c, c ∈ s -> isNameChar c = true ∨ c = 46

structure StreamName where
  app : Bytes
  streamId : Bytes
  vhost : Bytes
  token : Bytes
  app_name : IsName app
  streamId_name : IsName streamId
  vhost_host : IsHost vhost
  token_name : IsName token

instance (s : Bytes) : Decidable (IsName s) :=
  haveI := List.decidableBAll (fun c => isNameChar c = true) s
  instDecidableAnd

instance (s : Bytes) : Decidable (IsHost s) :=
  haveI := List.decidableBAll (fun c => isNameChar c = true ∨ c = 46) s
  instDecidableAnd

theorem IsName.notMem {s : Bytes} (h : IsName s) {c : UInt8}
    (hc : isNameChar c = false) : c ∉ s := by
  intro hmem
  rw [h.2 c hmem] at hc
  cases hc

theorem IsHost.notMem {s : Bytes} (h : IsHost s) {c : UInt8}
    (hc : isNameChar c = false) (hdot : c ≠ 46) : c ∉ s := by
  intro hmem
  rcases h.2 c hmem with hname | hother
  · rw [hname] at hc
    cases hc
  · exact hdot hother

namespace StreamName

/-- What follows the stream id in a publish command. -/
def parameters (n : StreamName) : Bytes :=
  MediaInfo.kVhostParam ++ (n.vhost ++ ([38] ++
    (MediaInfo.kTokenParam ++ n.token)))

/-- The stream as the publisher writes it. -/
def published (n : StreamName) : Bytes :=
  n.streamId ++ ([63] ++ n.parameters)

def kHttpVersion : Bytes :=
  ascii [' ', 'H', 'T', 'T', 'P', '/', '1', '.', '1', '\r', '\n', '\r', '\n']

/-- A request up to the vhost, and from there on. -/
def requestFront (n : StreamName) : Bytes :=
  kGetMethod ++ ([32] ++ ([47] ++ (n.app ++ ([47] ++ (n.streamId ++
    (kFlv ++ ([63] ++ (MediaInfo.kVhostParam ++ n.vhost))))))))

def requestTail (n : StreamName) (rest : Bytes) : Bytes :=
  [38] ++ (MediaInfo.kTokenParam ++ (n.token ++ (kHttpVersion ++ rest)))

/-- The stream as a viewer writes it, with whatever follows the empty line. -/
def request (n : StreamName) (rest : Bytes) : Bytes :=
  n.requestFront ++ n.requestTail rest

/-!
## The publisher's spelling
-/

theorem marks_vhost : Marks MediaInfo.kVhostParam [63] :=
  ⟨ascii ['v', 'h', 'o', 's', 't'], 61, [], rfl, by decide, by decide⟩

theorem marks_token : Marks MediaInfo.kTokenParam [38] :=
  ⟨ascii ['t', 'o', 'k', 'e', 'n'], 61, [], rfl, by decide, by decide⟩

theorem marks_single {c : UInt8} {m : Bytes} (h : c ∉ m) : Marks [c] m :=
  ⟨[], c, [], rfl, List.not_mem_nil, h⟩

theorem parameters_noQuestion (n : StreamName) : 63 ∉ n.parameters := by
  have hvhost := n.vhost_host.notMem (c := 63) (by decide) (by decide)
  have htoken := n.token_name.notMem (c := 63) (by decide)
  simp only [parameters, List.mem_append, not_or]
  exact ⟨by decide, hvhost, by decide, by decide, htoken⟩

theorem parseStream_letter (n : StreamName) (info : MediaInfo) {k : Nat}
    (hk : n.streamId.findIdx? isAlpha = some k) :
    MediaInfo.parseStream n.published info = .ok { info with
      streamId := n.streamId.drop k
      vhost := n.vhost
      token := n.token } := by
  have hlt : k < n.streamId.length :=
    (List.findIdx?_eq_some_iff_getElem.mp hk).1
  have hne : n.published ≠ [] := by
    simp [published]
  have hstart : n.published.findIdx? isAlpha = some k := by
    unfold published
    rw [List.findIdx?_append, hk, Option.some_or]
  have hquestion : findFrom n.published [63] k = some n.streamId.length := by
    have hbehind := findFrom_behind (marks_single (c := 63)
      (m := n.streamId.drop k) (fun hmem => n.streamId_name.notMem
        (by decide) (List.mem_of_mem_drop hmem))) (n.streamId.take k) n.parameters
    rw [← List.append_assoc, List.take_append_drop, List.length_take,
      List.length_drop, Nat.min_eq_left (Nat.le_of_lt hlt),
      Nat.add_sub_cancel' (Nat.le_of_lt hlt)] at hbehind
    exact hbehind
  have hvhost : findFrom n.published MediaInfo.kVhostParam n.streamId.length =
      some (n.streamId.length + 1) :=
    findFrom_behind marks_vhost n.streamId _
  have hamper : findFrom n.published [38]
      (n.streamId.length + 1 + MediaInfo.kVhostParam.length) =
        some (n.streamId.length + 1 + MediaInfo.kVhostParam.length +
          n.vhost.length) := by
    have hbehind := findFrom_behind (marks_single (n.vhost_host.notMem
      (c := 38) (by decide) (by decide)))
      (n.streamId ++ [63] ++ MediaInfo.kVhostParam)
      (MediaInfo.kTokenParam ++ n.token)
    rw [List.append_assoc, List.append_assoc, List.length_append,
      List.length_append] at hbehind
    exact hbehind
  have htoken : findFrom n.published MediaInfo.kTokenParam
      (n.streamId.length + 1 + MediaInfo.kVhostParam.length +
        n.vhost.length) =
          some (n.streamId.length + 1 + MediaInfo.kVhostParam.length +
            n.vhost.length + 1) := by
    have hbehind := findFrom_behind marks_token
      (n.streamId ++ [63] ++ MediaInfo.kVhostParam ++ n.vhost) n.token
    simp only [List.append_assoc, List.length_append, ← Nat.add_assoc] at hbehind
    exact hbehind
  have hid : (n.published.drop k).take (n.streamId.length - k) =
      n.streamId.drop k := by
    rw [published, List.drop_append_of_le_length (Nat.le_of_lt hlt),
      ← List.length_drop, List.take_left]
  have hhost : (n.published.drop
        (n.streamId.length + 1 + MediaInfo.kVhostParam.length)).take
      (n.streamId.length + 1 + MediaInfo.kVhostParam.length +
        n.vhost.length - (n.streamId.length + 1 +
          MediaInfo.kVhostParam.length)) = n.vhost := by
    have hsplit : n.published =
        (n.streamId ++ [63] ++ MediaInfo.kVhostParam) ++ (n.vhost ++ ([38] ++
          (MediaInfo.kTokenParam ++ n.token))) := by
      simp only [published, parameters, List.append_assoc]
    have hlength : n.streamId.length + 1 + MediaInfo.kVhostParam.length =
        (n.streamId ++ [63] ++ MediaInfo.kVhostParam).length := by
      simp only [List.length_append, List.length_singleton]
    rw [Nat.add_sub_cancel_left, hsplit, hlength, List.drop_left,
      List.take_left]
  have hend : n.published.drop (n.streamId.length + 1 +
      MediaInfo.kVhostParam.length + n.vhost.length + 1 +
        MediaInfo.kTokenParam.length) = n.token := by
    have hsplit : n.published = (n.streamId ++ [63] ++
        MediaInfo.kVhostParam ++ n.vhost ++ [38] ++ MediaInfo.kTokenParam) ++
          n.token := by
      simp only [published, parameters, List.append_assoc]
    have hlength : n.streamId.length + 1 + MediaInfo.kVhostParam.length +
        n.vhost.length + 1 + MediaInfo.kTokenParam.length =
          (n.streamId ++ [63] ++ MediaInfo.kVhostParam ++ n.vhost ++ [38] ++
            MediaInfo.kTokenParam).length := by
      simp only [List.length_append, List.length_singleton]
    rw [hsplit, hlength, List.drop_left]
  unfold MediaInfo.parseStream
  simp only [if_neg hne, hstart, Option.getD_some, hquestion, Option.bind_some,
    hvhost, hamper, htoken, hid, hhost, hend]

theorem parseStream_no_letter (n : StreamName) (info : MediaInfo)
    (hk : n.streamId.findIdx? isAlpha = none) :
    MediaInfo.parseStream n.published info =
      .ok { info with streamId := n.parameters } := by
  have hne : n.published ≠ [] := by
    simp [published]
  have hstart : n.published.findIdx? isAlpha = some (n.streamId.length + 1) := by
    have hletter : ([63] ++ n.parameters).findIdx? isAlpha = some 1 := rfl
    unfold published
    rw [List.findIdx?_append, hk, hletter, Option.none_or, Option.map_some,
      Nat.add_comm]
  have hsplit : n.published = (n.streamId ++ [63]) ++ n.parameters := by
    simp only [published, List.append_assoc]
  have hquestion : findFrom n.published [63] (n.streamId.length + 1) = none := by
    have happend := findFrom_append (n.streamId ++ [63]) n.parameters [63] 0
    rw [findFrom_notMem (List.mem_singleton_self 63) n.parameters_noQuestion,
      ← hsplit, Option.map_none] at happend
    rw [← List.length_singleton (a := (63 : UInt8)), ← List.length_append]
    exact happend
  have hrest : n.published.drop (n.streamId.length + 1) = n.parameters := by
    rw [hsplit, ← List.length_singleton (a := (63 : UInt8)),
      ← List.length_append, List.drop_left]
  unfold MediaInfo.parseStream
  simp only [if_neg hne, hstart, Option.getD_some, hquestion, Option.bind_none,
    hrest]

def StartsWithLetter (n : StreamName) : Prop :=
  exists c rest, n.streamId = c :: rest ∧ isAlpha c = true

/-- The publisher's spelling is understood as it was meant. -/
def PublishedAsWritten (n : StreamName) (info : MediaInfo) : Prop :=
  exists i, MediaInfo.parseStream n.published info = .ok i ∧
    i.streamId = n.streamId ∧ i.vhost = n.vhost ∧ i.token = n.token

theorem startsWithLetter_iff (n : StreamName) :
    n.StartsWithLetter <-> n.streamId.findIdx? isAlpha = some 0 := by
  unfold StartsWithLetter
  cases hid : n.streamId with
  | nil => simp
  | cons c rest =>
      cases hc : isAlpha c with
      | false => simp [List.findIdx?_cons, hc]
      | true => simp [List.findIdx?_cons, hc]

theorem publishedAsWritten_iff (n : StreamName) (info : MediaInfo) :
    n.PublishedAsWritten info <-> n.StartsWithLetter := by
  rw [startsWithLetter_iff]
  constructor
  · rintro ⟨i, hparse, hid, _⟩
    cases hk : n.streamId.findIdx? isAlpha with
    | none =>
        rw [parseStream_no_letter n info hk] at hparse
        cases hparse
        have hequals : (61 : UInt8) ∈ n.parameters := by
          simp [parameters, MediaInfo.kVhostParam, ascii]
        rw [show n.parameters = n.streamId from hid] at hequals
        exact absurd hequals (n.streamId_name.notMem (by decide))
    | some k =>
        rw [parseStream_letter n info hk] at hparse
        cases hparse
        have hlength : (n.streamId.drop k).length = n.streamId.length :=
          congrArg List.length hid
        have hlt := (List.findIdx?_eq_some_iff_getElem.mp hk).1
        rw [List.length_drop] at hlength
        rw [show k = 0 by omega]
  · intro hk
    refine ⟨_, parseStream_letter n info hk, ?_, rfl, rfl⟩
    exact List.drop_zero

/-!
## The viewer's spelling
-/

theorem extractOrFail_append (a s startLabel endLabel : Bytes)
    (offset stepSize : Nat) (optionalEndLabel : Option Bytes) :
    extractOrFail (a ++ s) startLabel endLabel (a.length + offset) stepSize
        optionalEndLabel =
      (extractOrFail s startLabel endLabel offset stepSize optionalEndLabel).map
        fun found => (a.length + found.1, found.2) := by
  unfold extractOrFail
  rw [extractParam_append]
  cases extractParam s startLabel endLabel offset stepSize optionalEndLabel <;>
    rfl

/-- A parameter with its labels, behind what has been read already. -/
theorem extractOrFail_between {m label x endLabel : Bytes}
    (hlabel : Marks label m) (hend : Marks endLabel x) (a rest : Bytes) :
    extractOrFail (a ++ (m ++ (label ++ (x ++ (endLabel ++ rest))))) label
        endLabel a.length label.length =
      .ok ((a ++ (m ++ (label ++ x))).length, x) := by
  have happend := extractOrFail_append a
    (m ++ (label ++ (x ++ (endLabel ++ rest)))) label endLabel 0 label.length none
  have hfound : extractOrFail (m ++ (label ++ (x ++ (endLabel ++ rest)))) label
      endLabel 0 label.length =
        .ok (m.length + label.length + x.length, x) := by
    unfold extractOrFail
    rw [extractParam_mark hlabel, findFrom_marks hend, Option.some_or,
      Option.map_some, List.take_left]
  rw [hfound, Nat.add_zero] at happend
  rw [happend]
  simp only [Except.map, List.length_append, Nat.add_assoc]

theorem extractStartPts_append (a s : Bytes) (offset : Nat) :
    HttpFlvHeader.extractStartPts (a ++ s) (a.length + offset) =
      HttpFlvHeader.extractStartPts s offset := by
  unfold HttpFlvHeader.extractStartPts
  rw [extractParam_append]
  cases extractParam s kStartPts [32] offset kStartPts.length (some [38]) <;> rfl

theorem extractStartPts_congr {temp other : Bytes} {offset offset' : Nat}
    (h : (extractParam temp kStartPts [32] offset kStartPts.length
        (some [38])).map Prod.snd =
      (extractParam other kStartPts [32] offset' kStartPts.length
        (some [38])).map Prod.snd) :
    HttpFlvHeader.extractStartPts temp offset =
      HttpFlvHeader.extractStartPts other offset' := by
  unfold HttpFlvHeader.extractStartPts
  cases hleft : extractParam temp kStartPts [32] offset kStartPts.length
      (some [38]) with
  | none =>
      rw [hleft, Option.map_none, eq_comm, Option.map_eq_none_iff] at h
      rw [h]
  | some found =>
      rw [hleft, Option.map_some, eq_comm, Option.map_eq_some_iff] at h
      rcases h with ⟨found', hright, hsnd⟩
      rw [hright]
      simp only [hsnd]

theorem marks_flv {m : Bytes} (h : 46 ∉ m) : Marks kFlv m :=
  ⟨[], 46, ascii ['f', 'l', 'v'], rfl, List.not_mem_nil, h⟩

theorem marks_vhost_flv : Marks MediaInfo.kVhostParam (kFlv ++ [63]) :=
  ⟨ascii ['v', 'h', 'o', 's', 't'], 61, [], rfl, by decide, by decide⟩

/-- The header up to the vhost is read off the front of the request. -/
theorem build_request (n : StreamName) (rest : Bytes) :
    HttpFlvHeader.build (n.request rest) = (do
      let (offset, token) <- extractOrFail (n.requestTail rest)
        MediaInfo.kTokenParam [38] 0 MediaInfo.kVhostParam.length (some [32])
      let startPts <- HttpFlvHeader.extractStartPts (n.requestTail rest) offset
      return {
        method := .get
        app := n.app
        streamId := n.streamId
        vhost := n.vhost
        token := token
        isFlv := true
        startPts := startPts }) := by
  have hne : n.request rest ≠ [] := by
    simp [request, requestFront, kGetMethod, ascii]
  have hmethod : findFrom (n.request rest) [32] 0 = some kGetMethod.length := by
    have hfound := findFrom_marks (marks_single (c := 32) (m := kGetMethod)
      (by decide)) ([47] ++ (n.app ++ ([47] ++ (n.streamId ++ (kFlv ++ ([63] ++
        (MediaInfo.kVhostParam ++ (n.vhost ++ n.requestTail rest))))))))
    simp only [request, requestFront, List.append_assoc]
    exact hfound
  have hget : (n.request rest).take kGetMethod.length = kGetMethod := by
    simp only [request, requestFront, List.append_assoc, List.take_left]
  have happ : extractOrFail (n.request rest) [47] [47] kGetMethod.length 1 =
      .ok ((kGetMethod ++ ([32] ++ ([47] ++ n.app))).length, n.app) := by
    have hfound := extractOrFail_between
      (marks_single (c := 47) (m := [32]) (by decide))
      (marks_single (n.app_name.notMem (c := 47) (by decide))) kGetMethod
      (n.streamId ++ (kFlv ++ ([63] ++ (MediaInfo.kVhostParam ++ (n.vhost ++
        n.requestTail rest)))))
    simp only [request, requestFront, List.append_assoc]
    exact hfound
  have hstream : extractOrFail (n.request rest) [47] kFlv
      (kGetMethod ++ ([32] ++ ([47] ++ n.app))).length 1 =
        .ok ((kGetMethod ++ ([32] ++ ([47] ++ (n.app ++ ([47] ++
          n.streamId))))).length, n.streamId) := by
    have hfound := extractOrFail_between
      (marks_single (c := 47) (m := []) (by decide))
      (marks_flv (n.streamId_name.notMem (by decide)))
      (kGetMethod ++ ([32] ++ ([47] ++ n.app)))
      ([63] ++ (MediaInfo.kVhostParam ++ (n.vhost ++ n.requestTail rest)))
    simp only [List.append_assoc, List.nil_append] at hfound
    simp only [request, requestFront, List.append_assoc]
    exact hfound
  have hvhost : extractOrFail (n.request rest) MediaInfo.kVhostParam [38]
      (kGetMethod ++ ([32] ++ ([47] ++ (n.app ++ ([47] ++
        n.streamId))))).length MediaInfo.kVhostParam.length =
          .ok (n.requestFront.length, n.vhost) := by
    have hfound := extractOrFail_between (marks_vhost_flv)
      (marks_single (n.vhost_host.notMem (c := 38) (by decide) (by decide)))
      (kGetMethod ++ ([32] ++ ([47] ++ (n.app ++ ([47] ++ n.streamId)))))
      (MediaInfo.kTokenParam ++ (n.token ++ (kHttpVersion ++ rest)))
    simp only [List.append_assoc] at hfound
    simp only [request, requestFront, requestTail, List.append_assoc]
    exact hfound
  have htoken := extractOrFail_append n.requestFront (n.requestTail rest)
    MediaInfo.kTokenParam [38] 0 MediaInfo.kVhostParam.length (some [32])
  rw [Nat.add_zero] at htoken
  unfold HttpFlvHeader.build HttpFlvHeader.extractStreamingInfo
  rw [if_neg hne, if_neg hne, hmethod]
  simp only [hget, if_true]
  rw [happ]
  show (extractOrFail (n.request rest) [47] kFlv _ 1 >>= _) = _
  rw [hstream]
  show (extractOrFail (n.request rest) MediaInfo.kVhostParam [38] _ _ >>= _) = _
  rw [hvhost]
  show (extractOrFail (n.requestFront ++ n.requestTail rest) _ [38] _ _ _ >>= _) = _
  rw [htoken]
  cases extractOrFail (n.requestTail rest) MediaInfo.kTokenParam [38] 0
      MediaInfo.kVhostParam.length (some [32]) with
  | error what => rfl
  | ok found =>
      show (HttpFlvHeader.extractStartPts (n.requestFront ++ n.requestTail rest)
        (n.requestFront.length + found.1) >>= _) = _
      rw [extractStartPts_append]
      rfl

/-- The viewer's spelling is understood as it was meant. -/
def RequestedAsWritten (n : StreamName) (rest : Bytes) : Prop :=
  exists h, HttpFlvHeader.build (n.request rest) = .ok h ∧
    h.streamId = n.streamId ∧ h.vhost = n.vhost ∧ h.token = n.token

/-- Whatever stands behind the first `startpts=` and in front of a blank is a
number. -/
def StartPtsReadable (rest : Bytes) : Prop :=
  forall pos stop, findFrom rest kStartPts 0 = some pos ->
    findFrom rest [32] (pos + kStartPts.length) = some stop ->
      exists val, stoul ((rest.drop (pos + kStartPts.length)).take
        (stop - (pos + kStartPts.length))) = .ok val

theorem extractStartPts_ok_iff {rest : Bytes} (hamper : 38 ∉ rest) :
    (exists val, HttpFlvHeader.extractStartPts rest 0 = .ok val) <->
      StartPtsReadable rest := by
  have hnone : forall pos, findFrom rest [38] pos = none := fun pos =>
    findFrom_notMem (List.mem_singleton_self 38) hamper pos
  unfold HttpFlvHeader.extractStartPts extractParam StartPtsReadable
  cases hlabel : findFrom rest kStartPts 0 with
  | none =>
      refine iff_of_true ⟨0, rfl⟩ ?_
      intro pos stop hpos
      cases hpos
  | some pos =>
      cases hend : findFrom rest [32] (pos + kStartPts.length) with
      | none =>
          simp only [hend, hnone, Option.none_or, Option.bind_some]
          refine iff_of_true ⟨0, rfl⟩ ?_
          intro pos' stop hpos hstop
          cases hpos
          cases hend.symm.trans hstop
      | some stop =>
          simp only [hend, Option.some_or]
          constructor
          · rintro ⟨val, hval⟩ pos' stop' hpos hstop
            cases hpos
            cases hend.symm.trans hstop
            cases hparam : stoul ((rest.drop (pos + kStartPts.length)).take
                (stop - (pos + kStartPts.length))) with
            | error what =>
                rw [hparam] at hval
                cases hval
            | ok number => exact ⟨number, rfl⟩
          · intro hreadable
            rcases hreadable pos stop rfl hend with ⟨number, hnumber⟩
            rw [hnumber]
            exact ⟨_, rfl⟩

theorem token_notMem (n : StreamName) {rest : Bytes} (hamper : 38 ∉ rest) :
    38 ∉ n.token ++ (kHttpVersion ++ rest) := by
  simp only [List.mem_append, not_or]
  exact ⟨n.token_name.notMem (by decide), by decide, hamper⟩

/-- Without another ampersand the token ends at the blank. -/
theorem extractToken (n : StreamName) {rest : Bytes} (hamper : 38 ∉ rest) :
    extractOrFail (n.requestTail rest) MediaInfo.kTokenParam [38] 0
        MediaInfo.kVhostParam.length (some [32]) =
      .ok (([38] ++ (MediaInfo.kTokenParam ++ n.token)).length, n.token) := by
  have hmark := extractParam_mark marks_token
    (n.token ++ (kHttpVersion ++ rest)) [38] (some [32])
  have hblank : findFrom (n.token ++ (kHttpVersion ++ rest)) [32] 0 =
      some n.token.length :=
    findFrom_marks (marks_single (n.token_name.notMem (c := 32) (by decide))) _
  rw [findFrom_notMem (List.mem_singleton_self 38) (n.token_notMem hamper),
    Option.none_or, Option.bind_some, hblank, Option.map_some,
    List.take_left] at hmark
  unfold extractOrFail requestTail
  rw [show MediaInfo.kVhostParam.length = MediaInfo.kTokenParam.length from rfl,
    hmark]
  simp only [List.length_append, Nat.add_assoc]

theorem startPts_requestTail (n : StreamName) (rest : Bytes) :
    HttpFlvHeader.extractStartPts (n.requestTail rest)
        ([38] ++ (MediaInfo.kTokenParam ++ n.token)).length =
      HttpFlvHeader.extractStartPts rest 0 := by
  have happend := extractStartPts_append
    ([38] ++ (MediaInfo.kTokenParam ++ n.token)) (kHttpVersion ++ rest) 0
  have hskip : HttpFlvHeader.extractStartPts (kHttpVersion ++ rest) 0 =
      HttpFlvHeader.extractStartPts rest 0 := by
    have hsnd := extractParam_skip (c := 115) (m := kHttpVersion)
      (q := ascii ['t', 'a', 'r', 't', 'p', 't', 's', '=']) (by decide) rest [32]
      kStartPts.length (some [38])
    exact extractStartPts_congr hsnd
  rw [Nat.add_zero] at happend
  rw [← hskip, ← happend]
  simp only [requestTail, List.append_assoc]

/-- With an ampersand further behind, the token does not end where it should. -/
theorem extractToken_long (n : StreamName) {rest : Bytes} (hamper : 38 ∈ rest)
    {offset : Nat} {token : Bytes}
    (h : extractOrFail (n.requestTail rest) MediaInfo.kTokenParam [38] 0
      MediaInfo.kVhostParam.length (some [32]) = .ok (offset, token)) :
    token ≠ n.token := by
  have hmark := extractParam_mark marks_token
    (n.token ++ (kHttpVersion ++ rest)) [38] (some [32])
  cases hfind : findFrom (n.token ++ (kHttpVersion ++ rest)) [38] 0 with
  | none =>
      rw [findFrom_eq_none] at hfind
      have hmem : (38 : UInt8) ∈ n.token ++ (kHttpVersion ++ rest) := by
        simp [hamper]
      rcases List.append_of_mem hmem with ⟨front, back, hsplit⟩
      exfalso
      apply hfind front.length (Nat.zero_le _)
      · rw [hsplit]
        simp
      · rw [hsplit, List.drop_left]
        exact List.prefix_append [38] back
  | some i =>
      rw [hfind, Option.some_or, Option.map_some] at hmark
      unfold extractOrFail requestTail at h
      rw [show MediaInfo.kVhostParam.length = MediaInfo.kTokenParam.length
        from rfl, hmark] at h
      cases h
      rcases findFrom_eq_some.mp hfind with ⟨_, hi, hat, _⟩
      intro heq
      have hlength := congrArg List.length heq
      rw [List.length_take, Nat.min_eq_left hi] at hlength
      rw [hlength, List.drop_left] at hat
      exact absurd (List.cons_prefix_cons.mp hat).1 (by decide)

theorem requestedAsWritten_iff (n : StreamName) (rest : Bytes) :
    n.RequestedAsWritten rest <-> 38 ∉ rest ∧ StartPtsReadable rest := by
  unfold RequestedAsWritten
  rw [build_request]
  by_cases hamper : 38 ∈ rest
  · constructor
    · rintro ⟨h, hbuild, _, _, htoken⟩
      rcases except_bind_eq_ok hbuild with ⟨found, hfound, hbuild⟩
      rcases except_bind_eq_ok hbuild with ⟨startPts, _, hheader⟩
      cases hheader
      exact absurd htoken (n.extractToken_long hamper hfound)
    · rintro ⟨hnot, _⟩
      exact absurd hamper hnot
  · rw [n.extractToken hamper, ← extractStartPts_ok_iff hamper]
    have hstartPts := n.startPts_requestTail rest
    constructor
    · rintro ⟨h, hbuild, _⟩
      refine ⟨hamper, ?_⟩
      rcases except_bind_eq_ok hbuild with ⟨found, hfound, hbuild⟩
      cases hfound
      rcases except_bind_eq_ok hbuild with ⟨startPts, hpts, _⟩
      exact ⟨startPts, hstartPts.symm.trans hpts⟩
    · rintro ⟨_, startPts, hpts⟩
      change exists h, HttpFlvHeader.extractStartPts (n.requestTail rest) _ >>=
        _ = _ ∧ _
      rw [hstartPts, hpts]
      exact ⟨_, rfl, rfl, rfl, rfl⟩

/-!
## Both spellings
-/

/-- Publisher and viewers are given the names that were written. -/
def AsWritten (n : StreamName) (info : MediaInfo) (rest : Bytes) : Prop :=
  n.PublishedAsWritten info ∧ n.RequestedAsWritten rest

/-- Two streams are understood, on either side, as what was written, and
different stream ids as different ones. -/
def NamesAgree (n n' : StreamName) (info info' : MediaInfo)
    (rest rest' : Bytes) : Prop :=
  n.AsWritten info rest ∧ n'.AsWritten info' rest' ∧
    (n.streamId ≠ n'.streamId ->
      (forall i i', MediaInfo.parseStream n.published info = .ok i ->
        MediaInfo.parseStream n'.published info' = .ok i' ->
          i.streamId ≠ i'.streamId) ∧
      (forall h h', HttpFlvHeader.build (n.request rest) = .ok h ->
        HttpFlvHeader.build (n'.request rest') = .ok h' ->
          h.streamId ≠ h'.streamId))

/-- A stream id that begins with a letter, and a request in which nothing behind
the first line looks like another parameter that could not be read. -/
def Plain (n : StreamName) (rest : Bytes) : Prop :=
  n.StartsWithLetter ∧ 38 ∉ rest ∧ StartPtsReadable rest

theorem asWritten_iff (n : StreamName) (info : MediaInfo) (rest : Bytes) :
    n.AsWritten info rest <-> n.Plain rest := by
  unfold AsWritten Plain
  rw [publishedAsWritten_iff, requestedAsWritten_iff]

/--
For all names: the publish command and the request give the names that were
written, and keep different stream ids apart, exactly when the stream ids begin
with a letter and no ampersand and no unreadable `startpts` follows the first
line of the request.
-/
theorem namesAgree_iff (n n' : StreamName) (info info' : MediaInfo)
    (rest rest' : Bytes) :
    NamesAgree n n' info info' rest rest' <-> n.Plain rest ∧ n'.Plain rest' := by
  unfold NamesAgree
  rw [asWritten_iff, asWritten_iff]
  constructor
  · rintro ⟨hn, hn', _⟩
    exact ⟨hn, hn'⟩
  · rintro ⟨hn, hn'⟩
    refine ⟨hn, hn', ?_⟩
    intro hne
    rcases (asWritten_iff n info rest).mpr hn with
      ⟨⟨j, hj, hjid, _⟩, ⟨g, hg, hgid, _⟩⟩
    rcases (asWritten_iff n' info' rest').mpr hn' with
      ⟨⟨j', hj', hjid', _⟩, ⟨g', hg', hgid', _⟩⟩
    constructor
    · intro i i' hi hi' heq
      cases hj.symm.trans hi
      cases hj'.symm.trans hi'
      exact hne (hjid.symm.trans (heq.trans hjid'))
    · intro h h' hh hh' heq
      cases hg.symm.trans hh
      cases hg'.symm.trans hh'
      exact hne (hgid.symm.trans (heq.trans hgid'))

def named (streamId : Bytes) (h : IsName streamId) : StreamName where
  app := ascii ['l', 'i', 'v', 'e']
  streamId := streamId
  vhost := ascii ['v', '.', 'w']
  token := ascii ['t']
  app_name := by decide
  streamId_name := h
  vhost_host := by decide
  token_name := by decide

def first : StreamName := named (ascii ['1', 'a']) (by decide)
def second : StreamName := named (ascii ['2', 'a']) (by decide)

/-- Publishers of `1a` and `2a` both publish `a`. -/
theorem names_merged :
    first.streamId ≠ second.streamId ∧
      ((MediaInfo.parseStream first.published {}).toOption.map
          fun i => i.streamId) = some (ascii ['a']) ∧
        ((MediaInfo.parseStream second.published {}).toOption.map
            fun i => i.streamId) = some (ascii ['a']) ∧
          ¬ NamesAgree first second {} {} [] [] := by
  have hone : ((MediaInfo.parseStream first.published
      {}).toOption.map fun i => i.streamId) = some (ascii ['a']) := by
    decide +kernel
  refine ⟨by decide, hone, by decide +kernel, ?_⟩
  rintro ⟨⟨⟨i, hparse, hid, _⟩, _⟩, _⟩
  rw [hparse] at hone
  exact absurd (hid.symm.trans (Option.some.inj hone)) (by decide)

end StreamName

end Http
end Streaming
