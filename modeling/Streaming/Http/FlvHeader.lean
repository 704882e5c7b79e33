import Streaming.Media.MediaInfo

/-!
# The header of a request for a stream

`http_flv_header` takes app, stream id and parameters out of the text of a
request by searching for one label after the other, each from where the one
before ended.
-/

namespace Streaming
namespace Http

open Media Util

inductive Method where
  | get
  | post
  | invalid
  deriving DecidableEq, Repr

structure HttpFlvHeader where
  method : Method := .invalid
  app : Bytes := []
  streamId : Bytes := []
  vhost : Bytes := []
  token : Bytes := []
  isFlv : Bool := false
  startPts : Nat := 0
  deriving DecidableEq, Repr

def kGetMethod : Bytes := ascii ['G', 'E', 'T']
def kFlv : Bytes := ascii ['.', 'f', 'l', 'v']
def kStartPts : Bytes := ascii ['s', 't', 'a', 'r', 't', 'p', 't', 's', '=']

/-!
## Numbers
-/

/-- `std::isspace` in the C locale. -/
def isSpace (c : UInt8) : Bool :=
  c = 32 || (9 <= c && c <= 13)

def isDigit (c : UInt8) : Bool :=
  48 <= c && c <= 57

/-- `std::stoul`, which puts up with blanks and a sign in front and with
anything behind.  A negative number is taken from 2^64. -/
def stoul (str : Bytes) : Except String Nat :=
  let str := str.dropWhile isSpace
  let digits := (if str.head? = some 43 ∨ str.head? = some 45 then str.drop 1
    else str).takeWhile isDigit
  let val := digits.foldl (fun val c => val * 10 + (c.toNat - 48)) 0
  if digits = [] ∨ val >= 2 ^ 64 then
    .error "stoul"
  else
    .ok (if str.head? = some 45 then (2 ^ 64 - val) % 2 ^ 64 else val)

/-!
## Parameters
-/

/-- Where the end label was found, and what is in between.  The labels and the
step are never empty. -/
def extractParam (str startLabel endLabel : Bytes) (offset stepSize : Nat)
    (optionalEndLabel : Option Bytes := none) : Option (Nat × Bytes) :=
  match findFrom str startLabel offset with
  | none => none
  | some pos =>
      let startIndex := pos + stepSize
      match (findFrom str endLabel startIndex).or
          (optionalEndLabel.bind fun label => findFrom str label startIndex) with
      | none => none
      | some endIndex =>
          some (endIndex, (str.drop startIndex).take (endIndex - startIndex))

/-- With the argument `fail`. -/
def extractOrFail (str startLabel endLabel : Bytes) (offset stepSize : Nat)
    (optionalEndLabel : Option Bytes := none) : Except String (Nat × Bytes) :=
  match extractParam str startLabel endLabel offset stepSize optionalEndLabel with
  | some found => .ok found
  | none => .error "cannot find end_label"

namespace HttpFlvHeader

/-- The last parameter, which need not be there. -/
def extractStartPts (temp : Bytes) (offset : Nat) : Except String Nat :=
  match extractParam temp kStartPts [32] offset kStartPts.length (some [38]) with
  | none => .ok 0
  | some (_, param) => (stoul param).map fun val => val % 2 ^ 32

def extractStreamingInfo (temp : Bytes) : Except String HttpFlvHeader :=
  if temp = [] then
    .error "cannot extract streaming info from empty http header"
  else
    match findFrom temp [32] 0 with
    | none => .error "cannot find http method"
    | some startIndex => do
        let (offset, app) <- extractOrFail temp [47] [47] startIndex 1
        let (offset, streamId) <- extractOrFail temp [47] kFlv offset 1
        let (offset, vhost) <- extractOrFail temp MediaInfo.kVhostParam [38]
          offset MediaInfo.kVhostParam.length
        -- the length is that of the other label, which is no longer
        let (offset, token) <- extractOrFail temp MediaInfo.kTokenParam [38]
          offset MediaInfo.kVhostParam.length (some [32])
        let startPts <- extractStartPts temp offset
        return {
          method := if temp.take startIndex = kGetMethod then .get else .invalid
          app := app
          streamId := streamId
          vhost := vhost
          token := token
          isFlv := true
          startPts := startPts }

def build (data : Bytes) : Except String HttpFlvHeader :=
  if data = [] then .error "http header is invalid"
  else extractStreamingInfo data

end HttpFlvHeader

/-!
## Where a parameter is found
-/

theorem extractParam_append (a s startLabel endLabel : Bytes)
    (offset stepSize : Nat) (optionalEndLabel : Option Bytes) :
    extractParam (a ++ s) startLabel endLabel (a.length + offset) stepSize
        optionalEndLabel =
      (extractParam s startLabel endLabel offset stepSize optionalEndLabel).map
        fun found => (a.length + found.1, found.2) := by
  unfold extractParam
  rw [findFrom_append]
  cases findFrom s startLabel offset with
  | none => rfl
  | some pos =>
      have hend : ((findFrom (a ++ s) endLabel (a.length + (pos + stepSize))).or
          (optionalEndLabel.bind fun label =>
            findFrom (a ++ s) label (a.length + (pos + stepSize)))) =
          ((findFrom s endLabel (pos + stepSize)).or
            (optionalEndLabel.bind fun label =>
              findFrom s label (pos + stepSize))).map fun i => a.length + i := by
        cases optionalEndLabel <;> simp [findFrom_append, Option.map_or]
      simp only [Option.map_some, Nat.add_assoc, hend]
      cases (findFrom s endLabel (pos + stepSize)).or
          (optionalEndLabel.bind fun label =>
            findFrom s label (pos + stepSize)) with
      | none => rfl
      | some i =>
          simp only [Option.map_some, List.drop_length_add_append,
            Nat.add_sub_add_left]

theorem extractParam_mark {m label : Bytes} (h : Marks label m)
    (s endLabel : Bytes) (optionalEndLabel : Option Bytes) :
    extractParam (m ++ (label ++ s)) label endLabel 0 label.length
        optionalEndLabel =
      ((findFrom s endLabel 0).or
        (optionalEndLabel.bind fun label => findFrom s label 0)).map fun i =>
          (m.length + label.length + i, s.take i) := by
  have hbehind : forall pattern,
      findFrom (m ++ (label ++ s)) pattern (m.length + label.length) =
        (findFrom s pattern 0).map fun i => m.length + label.length + i := by
    intro pattern
    have happend := findFrom_append (m ++ label) s pattern 0
    rw [List.append_assoc, List.length_append, Nat.add_zero] at happend
    exact happend
  have hend : ((findFrom (m ++ (label ++ s)) endLabel
        (m.length + label.length)).or
      (optionalEndLabel.bind fun l =>
        findFrom (m ++ (label ++ s)) l (m.length + label.length))) =
      ((findFrom s endLabel 0).or
        (optionalEndLabel.bind fun l => findFrom s l 0)).map fun i =>
          m.length + label.length + i := by
    cases optionalEndLabel <;> simp [hbehind, Option.map_or]
  unfold extractParam
  rw [findFrom_marks h]
  simp only [hend]
  cases (findFrom s endLabel 0).or
      (optionalEndLabel.bind fun l => findFrom s l 0) with
  | none => rfl
  | some i =>
      simp only [Option.map_some, Nat.add_sub_cancel_left]
      rw [← List.append_assoc, ← List.length_append, List.drop_left]

/-- What is found behind bytes among which the label cannot begin. -/
theorem extractParam_skip {m q : Bytes} {c : UInt8} (h : c ∉ m)
    (s endLabel : Bytes) (stepSize : Nat) (optionalEndLabel : Option Bytes) :
    (extractParam (m ++ s) (c :: q) endLabel 0 stepSize
        optionalEndLabel).map Prod.snd =
      (extractParam s (c :: q) endLabel 0 stepSize
        optionalEndLabel).map Prod.snd := by
  have hsame : extractParam (m ++ s) (c :: q) endLabel 0 stepSize
      optionalEndLabel = extractParam (m ++ s) (c :: q) endLabel
        (m.length + 0) stepSize optionalEndLabel := by
    unfold extractParam
    rw [findFrom_skip h, findFrom_append]
  rw [hsame, extractParam_append, Option.map_map]
  rfl

end Http
end Streaming
