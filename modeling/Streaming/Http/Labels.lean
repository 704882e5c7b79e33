import Streaming.Http.FlvHeader

/-!
# Labels of a request

`extract_streaming_info` without offsets: every search takes what is left of the
text.  Behind its labels the text of a request says one number more.
-/

namespace Streaming
namespace Http

open Media Util

/-!
## Labels one behind the other
-/

/-- What is left of a text behind labels.  Each is sought where the one before
was found, so many bytes behind its beginning. -/
def behind : List (Bytes × Nat) -> Bytes -> Option Bytes
  | [], s => some s
  | (label, stepSize) :: labels, s =>
      match findFrom s label 0 with
      | none => none
      | some i => behind labels (s.drop (i + stepSize))

/-- No search begins behind the label that it follows. -/
def InSteps (labels : List (Bytes × Nat)) : Prop :=
  forall l, l ∈ labels -> l.2 <= l.1.length

section Behind

variable {labels : List (Bytes × Nat)} {s rest : Bytes} {label : Bytes}
variable {stepSize i : Nat}

theorem behind_found (h : findFrom s label 0 = some i) :
    behind ((label, stepSize) :: labels) s =
      behind labels (s.drop (i + stepSize)) := by
  rw [behind, h]

theorem behind_missing (h : findFrom s label 0 = none) :
    behind ((label, stepSize) :: labels) s = none := by
  rw [behind, h]

/-- Labels that are there are found whatever follows. -/
theorem behind_append (hsteps : InSteps labels) (h : behind labels s = some rest)
    (t : Bytes) : behind labels (s ++ t) = some (rest ++ t) := by
  induction labels generalizing s with
  | nil =>
      cases h
      rfl
  | cons l labels ih =>
      rcases l with ⟨label, stepSize⟩
      cases hfind : findFrom s label 0 with
      | none =>
          rw [behind_missing hfind] at h
          cases h
      | some i =>
          rw [behind_found hfind] at h
          have hstep : stepSize <= label.length :=
            hsteps (label, stepSize) List.mem_cons_self
          have hfits := findFrom_fits hfind
          rw [behind_found (findFrom_append_left hfind t),
            List.drop_append_of_le_length (by omega)]
          exact ih (fun l hl => hsteps l (List.mem_cons_of_mem _ hl)) h

theorem behind_concat (labels others : List (Bytes × Nat)) (s : Bytes) :
    behind (labels ++ others) s = (behind labels s).bind (behind others) := by
  induction labels generalizing s with
  | nil => rfl
  | cons l labels ih =>
      rcases l with ⟨label, stepSize⟩
      rw [List.cons_append]
      cases hfind : findFrom s label 0 with
      | none =>
          rw [behind_missing hfind, behind_missing hfind]
          rfl
      | some i =>
          rw [behind_found hfind, behind_found hfind, ih]

/-- Labels that are not all there are sought behind, from one of them on. -/
theorem behind_beyond (hsteps : InSteps labels) {c : UInt8}
    (hc : forall l, l ∈ labels -> c ∉ l.1) (h : behind labels s = none) (t : Bytes) :
    exists remaining, remaining ≠ [] ∧ remaining <:+ labels ∧
      behind labels (s ++ c :: t) = behind remaining (c :: t) := by
  induction labels generalizing s with
  | nil => cases h
  | cons l labels ih =>
      rcases l with ⟨label, stepSize⟩
      cases hfind : findFrom s label 0 with
      | none =>
          refine ⟨(label, stepSize) :: labels, List.cons_ne_nil _ _,
            List.suffix_refl _, ?_⟩
          have hbeyond := findFrom_beyond hfind (hc _ List.mem_cons_self) t
          cases hlater : findFrom (c :: t) label 0 with
          | none =>
              rw [hlater] at hbeyond
              rw [behind_missing hbeyond, behind_missing hlater]
          | some i =>
              rw [hlater] at hbeyond
              rw [behind_found hbeyond, behind_found hlater, Nat.add_assoc,
                List.drop_length_add_append]
      | some i =>
          rw [behind_found hfind] at h
          have hfits := findFrom_fits hfind
          have hstep : stepSize <= label.length :=
            hsteps (label, stepSize) List.mem_cons_self
          rcases ih (fun l hl => hsteps l (List.mem_cons_of_mem _ hl))
              (fun l hl => hc l (List.mem_cons_of_mem _ hl)) h with
            ⟨remaining, hne, hsuffix, hrest⟩
          refine ⟨remaining, hne, hsuffix.trans (List.suffix_cons _ _), ?_⟩
          rw [behind_found (findFrom_append_left hfind (c :: t)),
            List.drop_append_of_le_length (by omega), hrest]

end Behind

/-!
## Parameters by what is left of the text
-/

/-- A parameter, and the text from its end on. -/
def param (s startLabel endLabel : Bytes) (stepSize : Nat)
    (optionalEndLabel : Option Bytes := none) : Option (Bytes × Bytes) :=
  match findFrom s startLabel 0 with
  | none => none
  | some pos =>
      let body := s.drop (pos + stepSize)
      ((findFrom body endLabel 0).or
        (optionalEndLabel.bind fun label => findFrom body label 0)).map
          fun i => (body.take i, body.drop i)

def readStartPts (s : Bytes) : Option Nat :=
  match param s kStartPts [32] kStartPts.length (some [38]) with
  | none => some 0
  | some (number, _) => ((stoul number).map fun val => val % 2 ^ 32).toOption

/-- `extract_streaming_info`, without the offsets. -/
def streamInfo (temp : Bytes) : Option HttpFlvHeader := do
  let startIndex <- findFrom temp [32] 0
  let (app, s) <- param (temp.drop startIndex) [47] [47] 1
  let (streamId, s) <- param s [47] kFlv 1
  let (vhost, s) <- param s MediaInfo.kVhostParam [38]
    MediaInfo.kVhostParam.length
  let (token, s) <- param s MediaInfo.kTokenParam [38]
    MediaInfo.kVhostParam.length (some [32])
  let startPts <- readStartPts s
  return {
    method := if temp.take startIndex = kGetMethod then .get else .invalid
    app := app
    streamId := streamId
    vhost := vhost
    token := token
    isFlv := true
    startPts := startPts }

/-- Where a parameter ends, one end label or the other is. -/
theorem exists_end {s endLabel : Bytes} {optionalEndLabel : Option Bytes}
    {i : Nat} (h : (findFrom s endLabel 0).or
      (optionalEndLabel.bind fun label => findFrom s label 0) = some i) :
    exists label, findFrom s label 0 = some i := by
  rcases Option.or_eq_some_iff.mp h with hend | ⟨_, hoptional⟩
  · exact ⟨endLabel, hend⟩
  · rcases Option.bind_eq_some_iff.mp hoptional with ⟨label, _, hend⟩
    exact ⟨label, hend⟩

section Refinement

variable {temp startLabel endLabel : Bytes} {offset stepSize : Nat}
variable {optionalEndLabel : Option Bytes}

theorem extractParam_param (hoffset : offset <= temp.length)
    (hstep : stepSize <= startLabel.length) (endLabel : Bytes)
    (optionalEndLabel : Option Bytes) :
    match param (temp.drop offset) startLabel endLabel stepSize
        optionalEndLabel with
    | none => extractParam temp startLabel endLabel offset stepSize
        optionalEndLabel = none
    | some (found, s) => exists stop, stop <= temp.length ∧
        temp.drop stop = s ∧ extractParam temp startLabel endLabel offset
          stepSize optionalEndLabel = some (stop, found) := by
  unfold param extractParam
  rw [findFrom_drop hoffset]
  cases hlabel : findFrom (temp.drop offset) startLabel 0 with
  | none => rfl
  | some pos =>
      have hfits := findFrom_fits hlabel
      rw [List.length_drop] at hfits
      have hstart : offset + pos + stepSize <= temp.length := by omega
      have hbody : (temp.drop offset).drop (pos + stepSize) =
          temp.drop (offset + pos + stepSize) := by
        rw [List.drop_drop, Nat.add_assoc]
      have hend : ((findFrom temp endLabel (offset + pos + stepSize)).or
          (optionalEndLabel.bind fun label =>
            findFrom temp label (offset + pos + stepSize))) =
          ((findFrom (temp.drop (offset + pos + stepSize)) endLabel 0).or
            (optionalEndLabel.bind fun label =>
              findFrom (temp.drop (offset + pos + stepSize)) label 0)).map
                fun i => offset + pos + stepSize + i := by
        cases optionalEndLabel <;> simp [findFrom_drop hstart, Option.map_or]
      simp only [Option.map_some, hbody, hend]
      cases hstop : (findFrom (temp.drop (offset + pos + stepSize)) endLabel
          0).or (optionalEndLabel.bind fun label =>
            findFrom (temp.drop (offset + pos + stepSize)) label 0) with
      | none => rfl
      | some i =>
          rcases exists_end hstop with ⟨label, hlast⟩
          have hlength := findFrom_fits hlast
          rw [List.length_drop] at hlength
          refine ⟨offset + pos + stepSize + i, by omega, ?_, ?_⟩
          · rw [← List.drop_drop]
          · simp only [Option.map_some, Nat.add_sub_cancel_left]

/-- One parameter of the code and one of `streamInfo`, and what follows. -/
theorem extractOrFail_bind {result : Type}
    {next : Nat × Bytes -> Except String result}
    {next' : Bytes × Bytes -> Option result}
    (hoffset : offset <= temp.length) (hstep : stepSize <= startLabel.length)
    (hnext : forall stop found, stop <= temp.length ->
      (next (stop, found)).toOption = next' (found, temp.drop stop)) :
    (extractOrFail temp startLabel endLabel offset stepSize
      optionalEndLabel >>= next).toOption =
        (param (temp.drop offset) startLabel endLabel stepSize
          optionalEndLabel >>= next') := by
  have hparam := extractParam_param hoffset hstep endLabel optionalEndLabel
  unfold extractOrFail
  cases hfound : param (temp.drop offset) startLabel endLabel stepSize
      optionalEndLabel with
  | none =>
      rw [hfound] at hparam
      rw [hparam]
      rfl
  | some found =>
      rw [hfound] at hparam
      rcases hparam with ⟨stop, hstop, hdrop, hextract⟩
      rw [hextract]
      exact (hnext stop found.1 hstop).trans (by rw [hdrop]; rfl)

theorem extractStartPts_toOption (hoffset : offset <= temp.length) :
    (HttpFlvHeader.extractStartPts temp offset).toOption =
      readStartPts (temp.drop offset) := by
  have hparam := extractParam_param hoffset (Nat.le_refl kStartPts.length)
    [32] (some [38])
  unfold HttpFlvHeader.extractStartPts readStartPts
  cases hfound : param (temp.drop offset) kStartPts [32] kStartPts.length
      (some [38]) with
  | none =>
      rw [hfound] at hparam
      rw [hparam]
      rfl
  | some found =>
      rw [hfound] at hparam
      rcases hparam with ⟨stop, _, _, hextract⟩
      rw [hextract]

end Refinement

theorem build_toOption (temp : Bytes) :
    (HttpFlvHeader.build temp).toOption = streamInfo temp := by
  unfold HttpFlvHeader.build HttpFlvHeader.extractStreamingInfo streamInfo
  rcases Decidable.em (temp = []) with rfl | hne
  · rfl
  · rw [if_neg hne, if_neg hne]
    cases hmethod : findFrom temp [32] 0 with
    | none => rfl
    | some startIndex =>
        have hstart := findFrom_fits hmethod
        refine extractOrFail_bind (by omega) (by decide) ?_
        intro o1 app ho1
        refine extractOrFail_bind ho1 (by decide) ?_
        intro o2 streamId ho2
        refine extractOrFail_bind ho2 (by decide) ?_
        intro o3 vhost ho3
        refine extractOrFail_bind ho3 (by decide) ?_
        intro o4 token ho4
        simp only [← extractStartPts_toOption ho4]
        cases HttpFlvHeader.extractStartPts temp o4 with
        | error what => rfl
        | ok number => rfl

/-!
## The labels of a request
-/

/-- The labels up to the end of the token. -/
def frontLabels : List (Bytes × Nat) :=
  [([32], 0), ([47], 1), ([47], 0), ([47], 1), (kFlv, 0),
    (MediaInfo.kVhostParam, MediaInfo.kVhostParam.length), ([38], 0),
    (MediaInfo.kTokenParam, MediaInfo.kVhostParam.length), ([38], 0)]

def labels : List (Bytes × Nat) :=
  frontLabels ++ [(kStartPts, kStartPts.length)]

/-- The number that a text begins with, up to its end label. -/
def numberAt (rest : Bytes) : Option Nat :=
  match (findFrom rest [32] 0).or (findFrom rest [38] 0) with
  | none => some 0
  | some i => ((stoul (rest.take i)).map fun val => val % 2 ^ 32).toOption

theorem param_of_behind {s rest startLabel endLabel : Bytes} {stepSize : Nat}
    {labels : List (Bytes × Nat)} (hstep : stepSize <= startLabel.length)
    (h : behind ((startLabel, stepSize) :: (endLabel, 0) :: labels) s =
      some rest) :
    exists found r, behind labels r = some rest ∧
      forall t optionalEndLabel, param (s ++ t) startLabel endLabel stepSize
        optionalEndLabel = some (found, r ++ t) := by
  cases hstart : findFrom s startLabel 0 with
  | none =>
      rw [behind_missing hstart] at h
      cases h
  | some pos =>
      have hfits := findFrom_fits hstart
      rw [behind_found hstart] at h
      cases hend : findFrom (s.drop (pos + stepSize)) endLabel 0 with
      | none =>
          rw [behind_missing hend] at h
          cases h
      | some i =>
          rw [behind_found hend] at h
          have hlength := findFrom_fits hend
          refine ⟨(s.drop (pos + stepSize)).take i, _, h, ?_⟩
          intro t optionalEndLabel
          unfold param
          rw [findFrom_append_left hstart t]
          simp only
          rw [List.drop_append_of_le_length (by omega),
            findFrom_append_left hend t, Option.some_or, Option.map_some,
            List.take_append_of_le_length (by omega),
            List.drop_append_of_le_length (by omega), Nat.add_zero]

/-- When the labels up to the token are all there, what follows has a say in
the last parameter only. -/
theorem streamInfo_front {line s : Bytes}
    (h : behind frontLabels line = some s) :
    exists header : HttpFlvHeader, forall t,
      streamInfo (line ++ t) = (readStartPts (s ++ t)).map fun number =>
        { header with startPts := number } := by
  unfold frontLabels at h
  cases hmethod : findFrom line [32] 0 with
  | none =>
      rw [behind_missing hmethod] at h
      cases h
  | some startIndex =>
      have hfits := findFrom_fits hmethod
      rw [behind_found hmethod, Nat.add_zero] at h
      rcases param_of_behind (by decide) h with ⟨app, r1, h1, happ⟩
      rcases param_of_behind (by decide) h1 with ⟨streamId, r2, h2, hstream⟩
      rcases param_of_behind (by decide) h2 with ⟨vhost, r3, h3, hvhost⟩
      rcases param_of_behind (by decide) h3 with ⟨token, r4, h4, htoken⟩
      cases h4
      refine ⟨{
        method := if line.take startIndex = kGetMethod then .get else .invalid
        app := app
        streamId := streamId
        vhost := vhost
        token := token
        isFlv := true }, ?_⟩
      intro t
      unfold streamInfo
      rw [findFrom_append_left hmethod t]
      simp only [Option.bind_eq_bind, Option.bind_some]
      rw [List.drop_append_of_le_length (by omega),
        List.take_append_of_le_length (by omega), happ]
      simp only [Option.bind_some, hstream, hvhost, htoken]
      cases readStartPts (s ++ t) <;> rfl

theorem readStartPts_eq {s rest : Bytes}
    (h : behind [(kStartPts, kStartPts.length)] s = some rest) :
    readStartPts s = numberAt rest := by
  cases hfind : findFrom s kStartPts 0 with
  | none =>
      rw [behind_missing hfind] at h
      cases h
  | some pos =>
      rw [behind_found hfind] at h
      cases h
      unfold readStartPts param numberAt
      rw [hfind]
      simp only [Option.bind_some]
      cases (findFrom (s.drop (pos + kStartPts.length)) [32] 0).or
          (findFrom (s.drop (pos + kStartPts.length)) [38] 0) <;> rfl

theorem labels_inSteps : InSteps labels := by
  show forall l, l ∈ labels -> l.2 <= l.1.length
  decide

/-- When all labels are there, only the end of the last number is open. -/
theorem streamInfo_labels {line rest : Bytes}
    (h : behind labels line = some rest) :
    exists header : HttpFlvHeader, forall t,
      streamInfo (line ++ t) = (numberAt (rest ++ t)).map fun number =>
        { header with startPts := number } := by
  unfold labels at h
  rw [behind_concat] at h
  rcases Option.bind_eq_some_iff.mp h with ⟨s, hfront, hlast⟩
  rcases streamInfo_front hfront with ⟨header, hheader⟩
  refine ⟨header, ?_⟩
  intro t
  have hsteps : InSteps [(kStartPts, kStartPts.length)] := by
    intro l hl
    exact labels_inSteps l (List.mem_append_right _ hl)
  rw [hheader t, readStartPts_eq (behind_append hsteps hlast t)]

theorem map_startPts {line rest : Bytes} (h : behind labels line = some rest)
    (t : Bytes) :
    (streamInfo (line ++ t)).map HttpFlvHeader.startPts =
      numberAt (rest ++ t) := by
  rcases streamInfo_labels h with ⟨header, hheader⟩
  rw [hheader t, Option.map_map]
  exact Option.map_id'

/-!
## Numbers and what follows them
-/

theorem takeWhile_append_stop {p : UInt8 -> Bool} {t : Bytes}
    (ht : forall c, t.head? = some c -> p c = false) (s : Bytes) :
    (s ++ t).takeWhile p = s.takeWhile p := by
  have hnone : t.takeWhile p = [] := by
    cases t with
    | nil => rfl
    | cons c t => rw [List.takeWhile_cons, ht c rfl, if_neg Bool.false_ne_true]
  induction s with
  | nil => exact hnone
  | cons c s ih =>
      rw [List.cons_append, List.takeWhile_cons, List.takeWhile_cons, ih]

/-- A number ends where a byte follows that is no digit. -/
theorem stoul_append {s t : Bytes} (hs : s.dropWhile isSpace ≠ [])
    (ht : forall c, t.head? = some c -> isDigit c = false) :
    stoul (s ++ t) = stoul s := by
  have hbody : (s ++ t).dropWhile isSpace = s.dropWhile isSpace ++ t := by
    rw [List.dropWhile_append, if_neg]
    rw [List.isEmpty_iff]
    exact hs
  unfold stoul
  rw [hbody]
  cases hcons : s.dropWhile isSpace with
  | nil => exact absurd hcons hs
  | cons c body =>
      have hdigits : (if (c :: body ++ t).head? = some 43 ∨
            (c :: body ++ t).head? = some 45 then (c :: body ++ t).drop 1
          else c :: body ++ t).takeWhile isDigit =
          (if (c :: body).head? = some 43 ∨ (c :: body).head? = some 45 then
            (c :: body).drop 1 else c :: body).takeWhile isDigit := by
        simp only [List.cons_append, List.head?_cons, List.drop_one,
          List.tail_cons]
        split
        · exact takeWhile_append_stop ht body
        · exact takeWhile_append_stop ht (c :: body)
      simp only [hdigits]
      rfl

theorem stoul_blank {s : Bytes} (hs : s.dropWhile isSpace = []) (t : Bytes) :
    stoul (s ++ t) = stoul t := by
  have hbody : (s ++ t).dropWhile isSpace = t.dropWhile isSpace := by
    rw [List.dropWhile_append, hs]
    rfl
  unfold stoul
  rw [hbody]

theorem stoul_append_of_ok {s t : Bytes} {n : Nat} (h : stoul s = .ok n)
    (ht : forall c, t.head? = some c -> isDigit c = false) :
    stoul (s ++ t) = .ok n := by
  rw [← h]
  apply stoul_append _ ht
  intro hblank
  have hsame := stoul_blank hblank []
  rw [List.append_nil, h] at hsame
  cases hsame

theorem stoul_append_amper (s t : Bytes) : stoul (s ++ 38 :: t) = stoul s := by
  rcases Decidable.em (s.dropWhile isSpace = []) with hblank | hs
  · have hsame := stoul_blank hblank []
    rw [List.append_nil] at hsame
    rw [hsame, stoul_blank hblank]
    rfl
  · apply stoul_append hs
    rintro c hc
    cases hc
    rfl

end Http
end Streaming
