import Streaming.Http.Framing
import Streaming.Http.Labels

/-!
# Parameters and header lines

`extract_streaming_info` searches the whole text of a request.  A search that
ends in the request line is not touched by the header lines; one that does not
goes on into them.
-/

namespace Streaming
namespace Http

open Media Util

/-!
## Requests
-/

def kHttpLineBreak : Bytes := [13, 10]

/-- A character of a header's name; 39 and 96 are the two quotes. -/
def isTokenChar (c : UInt8) : Bool :=
  isAlpha c || isDigit c || c = 39 || c = 96 ||
    c ∈ ascii ['!', '#', '$', '%', '&', '*', '+', '-', '.', '^', '_', '|', '~']

def IsToken (s : Bytes) : Prop :=
  s ≠ [] ∧ forall c, c ∈ s -> isTokenChar c = true

instance (s : Bytes) : Decidable (IsToken s) :=
  haveI := List.decidableBAll (fun c => isTokenChar c = true) s
  instDecidableAnd

structure HeaderLine where
  name : Bytes
  value : Bytes
  name_token : IsToken name
  value_plain : 13 ∉ value ∧ 10 ∉ value

def HeaderLine.bytes (header : HeaderLine) : Bytes :=
  kHttpLineBreak ++ (header.name ++ (58 :: header.value))

/-- What follows the request line. -/
def blockBytes (block : List HeaderLine) : Bytes :=
  block.flatMap HeaderLine.bytes ++ kHttpPacketTail

/-- Whatever the header lines are, the same comes of the request: an exception,
or the same header. -/
def OnlyFromLine (line : Bytes) : Prop :=
  forall first second : List HeaderLine,
    (HttpFlvHeader.build (line ++ blockBytes first)).toOption =
      (HttpFlvHeader.build (line ++ blockBytes second)).toOption

/-!
## The request line
-/

/-- The last number ends in the line, or it is 0 as when there is none. -/
def EndsIn (rest : Bytes) : Prop :=
  32 ∈ rest ∨ 38 ∈ rest ∨
    (stoul rest).map (fun val => val % 2 ^ 32) = .ok 0

/-- All labels are there, and the end of the last number. -/
def Complete (line : Bytes) : Prop :=
  exists rest, behind labels line = some rest ∧ EndsIn rest

theorem exists_findFrom {c : UInt8} {s : Bytes} (h : c ∈ s) :
    exists i, findFrom s [c] 0 = some i := by
  cases hfind : findFrom s [c] 0 with
  | some i => exact ⟨i, rfl⟩
  | none =>
      rcases List.append_of_mem h with ⟨q, q', hs⟩
      have hle : q.length <= s.length := by
        rw [hs, List.length_append]
        exact Nat.le_add_right _ _
      apply absurd _ (findFrom_eq_none.mp hfind q.length (Nat.zero_le _) hle)
      rw [hs, List.drop_left]
      exact ⟨q', rfl⟩

/-- Only what begins behind the line can end a number that has no end in it. -/
theorem numberAt_open {rest : Bytes} (hblank : 32 ∉ rest) (hamper : 38 ∉ rest)
    (t : Bytes) :
    numberAt (rest ++ t) =
      match (findFrom t [32] 0).or (findFrom t [38] 0) with
      | none => some 0
      | some i =>
          ((stoul (rest ++ t.take i)).map fun val => val % 2 ^ 32).toOption := by
  unfold numberAt
  rw [findFrom_skip hblank, findFrom_skip hamper]
  have hor : (((findFrom t [32] 0).map fun i => rest.length + i).or
      ((findFrom t [38] 0).map fun i => rest.length + i)) =
      ((findFrom t [32] 0).or (findFrom t [38] 0)).map
        fun i => rest.length + i := by
    rw [Option.map_or]
  rw [hor]
  cases (findFrom t [32] 0).or (findFrom t [38] 0) with
  | none => rfl
  | some i => simp only [Option.map_some, List.take_length_add_append]

theorem numberAt_of_blank {rest : Bytes} {i : Nat}
    (h : findFrom rest [32] 0 = some i) (t : Bytes) :
    numberAt (rest ++ t) =
      ((stoul (rest.take i)).map fun val => val % 2 ^ 32).toOption := by
  have hfits := findFrom_fits h
  unfold numberAt
  rw [findFrom_append_left h t, Option.some_or]
  simp only [List.take_append_of_le_length (Nat.le_of_add_right_le hfits)]

/-- A blank behind the line makes the text longer, and not the number. -/
theorem numberAt_of_amper {rest : Bytes} {i : Nat} (hblank : 32 ∉ rest)
    (h : findFrom rest [38] 0 = some i) (t : Bytes) :
    numberAt (rest ++ t) =
      ((stoul (rest.take i)).map fun val => val % 2 ^ 32).toOption := by
  have hfits := findFrom_fits h
  unfold numberAt
  rw [findFrom_skip hblank, findFrom_append_left h t]
  cases findFrom t [32] 0 with
  | none =>
      simp only [Option.map_none, Option.none_or,
        List.take_append_of_le_length (Nat.le_of_add_right_le hfits)]
  | some j =>
      rcases (findFrom_eq_some.mp h).2.2.1 with ⟨q, hq⟩
      have hsplit : rest = rest.take i ++ 38 :: q := by
        rw [← List.singleton_append, hq, List.take_append_drop]
      have hlong : rest ++ t.take j = rest.take i ++ 38 :: (q ++ t.take j) := by
        rw [← List.cons_append, ← List.append_assoc, ← hsplit]
      simp only [Option.map_some, Option.some_or, List.take_length_add_append]
      rw [hlong, stoul_append_amper]

theorem numberAt_of_zero {rest : Bytes} (hblank : 32 ∉ rest)
    (hamper : 38 ∉ rest)
    (h : (stoul rest).map (fun val => val % 2 ^ 32) = .ok 0) (t : Bytes) :
    numberAt (rest ++ 13 :: t) = some 0 := by
  rw [numberAt_open hblank hamper]
  cases (findFrom (13 :: t) [32] 0).or (findFrom (13 :: t) [38] 0) with
  | none => rfl
  | some i =>
      cases hnumber : stoul rest with
      | error what =>
          rw [hnumber] at h
          cases h
      | ok val =>
          have hstop : forall c, ((13 :: t).take i).head? = some c ->
              isDigit c = false := by
            intro c hc
            cases i with
            | zero => cases hc
            | succ i =>
                cases hc
                rfl
          simp only [stoul_append_of_ok hnumber hstop]
          rw [hnumber] at h
          rw [show (Except.ok val).map (fun val => val % 2 ^ 32) = _ from h]
          rfl

/-- A number that ends in the line is what it is whatever follows the line. -/
theorem numberAt_settled {rest : Bytes} (h : EndsIn rest) (t t' : Bytes) :
    numberAt (rest ++ 13 :: t) = numberAt (rest ++ 13 :: t') := by
  rcases Decidable.em (32 ∈ rest) with hmem | hblank
  · rcases exists_findFrom hmem with ⟨i, hi⟩
    rw [numberAt_of_blank hi, numberAt_of_blank hi]
  · rcases Decidable.em (38 ∈ rest) with hmem | hamper
    · rcases exists_findFrom hmem with ⟨i, hi⟩
      rw [numberAt_of_amper hblank hi, numberAt_of_amper hblank hi]
    · have hzero := (h.resolve_left hblank).resolve_left hamper
      rw [numberAt_of_zero hblank hamper hzero,
        numberAt_of_zero hblank hamper hzero]

/-!
## Header lines that look like a request line
-/

/-- A header line with all labels. -/
def decoy (one : Bool) : HeaderLine where
  name := ascii ['X']
  value := ascii [' ', '/', 'a', '/', 'a'] ++ (kFlv ++
    (MediaInfo.kVhostParam ++ (38 :: (MediaInfo.kTokenParam ++
      (38 :: (kStartPts ++ [if one then 49 else 50, 32]))))))
  name_token := by decide
  value_plain := by cases one <;> decide

theorem exists_blockBytes (block : List HeaderLine) :
    exists t, blockBytes block = 13 :: t := by
  cases block with
  | nil => exact ⟨_, rfl⟩
  | cons header block => exact ⟨_, rfl⟩

/-- Any of the labels, and those that follow it, are found in the decoy. -/
theorem behind_decoy (one : Bool) {remaining : List (Bytes × Nat)}
    (hne : remaining ≠ []) (hsuffix : remaining <:+ labels) :
    behind remaining (blockBytes [decoy one]) =
      some ((if one then 49 else 50) :: 32 :: kHttpPacketTail) := by
  have hall : forall l, l ∈ labels.tails -> l ≠ [] ->
      behind l (blockBytes [decoy one]) =
        some ((if one then 49 else 50) :: 32 :: kHttpPacketTail) := by
    cases one <;> decide +kernel
  exact hall remaining (List.mem_tails _ _ |>.mpr hsuffix) hne

/-- Where a label is missing the number comes from the header lines. -/
theorem startPts_decoy {line : Bytes} (h : behind labels line = none)
    (one : Bool) :
    (streamInfo (line ++ blockBytes [decoy one])).map HttpFlvHeader.startPts =
      some (if one then 1 else 2) := by
  have hplain : forall l, l ∈ labels -> (13 : UInt8) ∉ l.1 := by
    decide
  rcases exists_blockBytes [decoy one] with ⟨t, ht⟩
  rcases behind_beyond labels_inSteps hplain h t with
    ⟨remaining, hne, hsuffix, hbehind⟩
  rw [← ht, behind_decoy one hne hsuffix] at hbehind
  have hnumber := map_startPts hbehind []
  rw [List.append_nil, List.append_nil] at hnumber
  rw [hnumber]
  cases one <;> decide +kernel

/-- A number that the header lines end is not there without them. -/
theorem endsIn_of_same {rest : Bytes}
    (h : numberAt (rest ++ blockBytes []) =
      numberAt (rest ++ blockBytes [decoy true])) : EndsIn rest := by
  apply Classical.byContradiction
  intro hnot
  unfold EndsIn at hnot
  rw [not_or, not_or] at hnot
  rcases hnot with ⟨hblank, hamper, hnumber⟩
  have hnone : (findFrom (blockBytes []) [32] 0).or
      (findFrom (blockBytes []) [38] 0) = none := by
    decide
  have hfour : (findFrom (blockBytes [decoy true]) [32] 0).or
      (findFrom (blockBytes [decoy true]) [38] 0) = some 4 := by
    decide +kernel
  rw [numberAt_open hblank hamper, numberAt_open hblank hamper, hnone, hfour]
    at h
  have hname : (blockBytes [decoy true]).take 4 = [13, 10, 88, 58] := rfl
  simp only [hname] at h
  have hspace : rest.dropWhile isSpace ≠ [] := by
    intro hall
    rw [stoul_blank hall] at h
    cases h
  have hstop : forall c, ([13, 10, 88, 58] : Bytes).head? = some c ->
      isDigit c = false := by
    rintro c hc
    cases hc
    rfl
  rw [stoul_append hspace hstop] at h
  apply hnumber
  cases hval : (stoul rest).map fun val => val % 2 ^ 32 with
  | error what =>
      rw [hval] at h
      cases h
  | ok val =>
      rw [hval] at h
      cases h
      rfl

/--
For every request line: no header lines have a say in what comes of the request
exactly when all labels are in the line, with the end of the last number.
-/
theorem onlyFromLine_iff (line : Bytes) :
    OnlyFromLine line <-> Complete line := by
  have hbuild : OnlyFromLine line <-> forall first second : List HeaderLine,
      streamInfo (line ++ blockBytes first) =
        streamInfo (line ++ blockBytes second) := by
    unfold OnlyFromLine
    simp only [build_toOption]
  rw [hbuild]
  constructor
  · intro hsame
    cases h : behind labels line with
    | none =>
        have hone := startPts_decoy h true
        rw [hsame _ [decoy false], startPts_decoy h false] at hone
        cases hone
    | some rest =>
        have hnumber := congrArg (Option.map HttpFlvHeader.startPts)
          (hsame [] [decoy true])
        rw [map_startPts h, map_startPts h] at hnumber
        exact ⟨rest, h, endsIn_of_same hnumber⟩
  · rintro ⟨rest, h, hends⟩ first second
    rcases streamInfo_labels h with ⟨header, hheader⟩
    rcases exists_blockBytes first with ⟨t, ht⟩
    rcases exists_blockBytes second with ⟨t', ht'⟩
    rw [ht, ht', hheader, hheader, numberAt_settled hends]

/-- The request of a viewer whose token is the last parameter. -/
def tokenAtEnd : Bytes :=
  kGetMethod ++ (ascii [' ', '/', 'l', 'i', 'v', 'e', '/', 'c', 'a', 'm'] ++
    (kFlv ++ (63 :: (MediaInfo.kVhostParam ++ (118 :: 38 ::
      (MediaInfo.kTokenParam ++ (116 ::
        ascii [' ', 'H', 'T', 'T', 'P', '/', '1', '.', '1'])))))))

def cookie : HeaderLine where
  name := ascii ['C', 'o', 'o', 'k', 'i', 'e']
  value := ascii [' ', 'a', '=', '1', '&', 'b', '=', '2']
  name_token := by decide
  value_plain := by decide

/-- The token goes on into the cookie. -/
theorem not_onlyFromLine_tokenAtEnd :
    (HttpFlvHeader.build (tokenAtEnd ++ blockBytes [])).toOption.map
        HttpFlvHeader.token = some [116] ∧
      (HttpFlvHeader.build (tokenAtEnd ++ blockBytes [cookie])).toOption.map
        HttpFlvHeader.token = some (116 :: (ascii [' ', 'H', 'T', 'T', 'P', '/',
          '1', '.', '1'] ++ (kHttpLineBreak ++ (cookie.name ++ (58 ::
            ascii [' ', 'a', '=', '1']))))) ∧
      ¬ OnlyFromLine tokenAtEnd := by
  have hplain : (HttpFlvHeader.build (tokenAtEnd ++ blockBytes [])).toOption.map
      HttpFlvHeader.token = some [116] := by
    decide +kernel
  have hcookie : (HttpFlvHeader.build
      (tokenAtEnd ++ blockBytes [cookie])).toOption.map HttpFlvHeader.token =
        some (116 :: (ascii [' ', 'H', 'T', 'T', 'P', '/', '1', '.', '1'] ++
          (kHttpLineBreak ++ (cookie.name ++ (58 ::
            ascii [' ', 'a', '=', '1']))))) := by
    decide +kernel
  refine ⟨hplain, hcookie, ?_⟩
  intro hsame
  rw [hsame [] [cookie], hcookie] at hplain
  exact absurd hplain (by decide)

end Http
end Streaming
