import Streaming.Util.Bytes

/-!
# Media information

What a publisher says about its stream.  Schema, vhost, app and stream id
together are the key of the stream; an empty string stands for a part that is
not known yet.
-/

namespace Streaming
namespace Media

open Util

/-- `std::string::find` from a position on. -/
def findFrom (s pattern : Bytes) (pos : Nat) : Option Nat :=
  (List.range (s.length + 1)).find? fun i =>
    decide (pos <= i) && pattern.isPrefixOf (s.drop i)

/-- A byte of the pattern tells that it does not begin before the end of `m`. -/
def Marks (pattern m : Bytes) : Prop :=
  exists q c q', pattern = q ++ c :: q' ∧ c ∉ q ∧ c ∉ m

theorem Marks.not_prefix {pattern m : Bytes} (h : Marks pattern m)
    (rest : Bytes) {i : Nat} (hi : i < m.length) :
    ¬ pattern <+: (m ++ (pattern ++ rest)).drop i := by
  rcases h with ⟨q, c, q', hpattern, hq, hm⟩
  intro hmatch
  have hat : (m ++ (pattern ++ rest))[i + q.length]? = some c := by
    rcases hmatch with ⟨tail, htail⟩
    rw [← List.getElem?_drop, ← htail, hpattern]
    simp
  have hlt : i + q.length < (m ++ q).length := by
    rw [List.length_append]
    omega
  rw [hpattern, List.append_assoc, ← List.append_assoc m q,
    List.getElem?_append_left hlt] at hat
  rcases List.mem_append.mp (List.mem_of_getElem? hat) with hmem | hmem
  · exact hm hmem
  · exact hq hmem

theorem findFrom_eq_some {s pattern : Bytes} {pos i : Nat} :
    findFrom s pattern pos = some i <->
      pos <= i ∧ i <= s.length ∧ pattern <+: s.drop i ∧
        forall j, pos <= j -> j < i -> ¬ pattern <+: s.drop j := by
  unfold findFrom
  simp only [List.find?_range_eq_some, Bool.and_eq_true, decide_eq_true_eq,
    List.isPrefixOf_iff_prefix, List.mem_range, Nat.lt_succ_iff,
    Bool.not_eq_true', Bool.and_eq_false_iff, decide_eq_false_iff_not]
  constructor
  · rintro ⟨⟨hpos, hmatch⟩, hi, hbefore⟩
    refine ⟨hpos, hi, hmatch, ?_⟩
    intro j hj hlt hmatch
    rcases hbefore j hlt with hlow | hnone
    · exact hlow hj
    · rw [← List.isPrefixOf_iff_prefix, hnone] at hmatch
      cases hmatch
  · rintro ⟨hpos, hi, hmatch, hbefore⟩
    refine ⟨⟨hpos, hmatch⟩, hi, ?_⟩
    intro j hlt
    by_cases hj : pos <= j
    · right
      rw [Bool.eq_false_iff, ne_eq, List.isPrefixOf_iff_prefix]
      exact hbefore j hj hlt
    · exact Or.inl hj

theorem findFrom_eq_none {s pattern : Bytes} {pos : Nat} :
    findFrom s pattern pos = none <->
      forall i, pos <= i -> i <= s.length -> ¬ pattern <+: s.drop i := by
  unfold findFrom
  simp only [List.find?_range_eq_none, Nat.lt_succ_iff, Bool.not_eq_true',
    Bool.and_eq_false_iff, decide_eq_false_iff_not]
  constructor
  · intro h i hpos hi hmatch
    rcases h i hi with hlow | hnone
    · exact hlow hpos
    · rw [← List.isPrefixOf_iff_prefix, hnone] at hmatch
      cases hmatch
  · intro h i hi
    by_cases hpos : pos <= i
    · right
      rw [Bool.eq_false_iff, ne_eq, List.isPrefixOf_iff_prefix]
      exact h i hpos hi
    · exact Or.inl hpos

theorem findFrom_fits {s pattern : Bytes} {pos i : Nat}
    (h : findFrom s pattern pos = some i) : i + pattern.length <= s.length := by
  rcases findFrom_eq_some.mp h with ⟨_, hi, hmatch, _⟩
  have hle := hmatch.length_le
  rw [List.length_drop] at hle
  omega

/-- Searching behind `a` is searching the rest. -/
theorem findFrom_append (a s pattern : Bytes) (pos : Nat) :
    findFrom (a ++ s) pattern (a.length + pos) =
      (findFrom s pattern pos).map fun i => a.length + i := by
  cases hfind : findFrom s pattern pos with
  | none =>
      rw [findFrom_eq_none] at hfind
      rw [Option.map_none, findFrom_eq_none]
      intro i hpos hi
      rcases Nat.exists_eq_add_of_le (Nat.le_trans (Nat.le_add_right _ _) hpos)
        with ⟨j, hj⟩
      rw [hj, List.drop_length_add_append]
      rw [List.length_append] at hi
      exact hfind j (by omega) (by omega)
  | some j =>
      rw [findFrom_eq_some] at hfind
      rcases hfind with ⟨hpos, hj, hmatch, hbefore⟩
      rw [Option.map_some, findFrom_eq_some, List.length_append,
        List.drop_length_add_append]
      refine ⟨by omega, by omega, hmatch, ?_⟩
      intro k hk hlt
      rcases Nat.exists_eq_add_of_le (Nat.le_trans (Nat.le_add_right _ _) hk)
        with ⟨l, hl⟩
      rw [hl, List.drop_length_add_append]
      exact hbefore l (by omega) (by omega)

theorem findFrom_drop {s : Bytes} {pos : Nat} (h : pos <= s.length)
    (pattern : Bytes) :
    findFrom s pattern pos =
      (findFrom (s.drop pos) pattern 0).map fun i => pos + i := by
  have happend := findFrom_append (s.take pos) (s.drop pos) pattern 0
  rw [List.take_append_drop, List.length_take, Nat.min_eq_left h] at happend
  exact happend

theorem findFrom_marks {pattern m : Bytes} (h : Marks pattern m)
    (rest : Bytes) : findFrom (m ++ (pattern ++ rest)) pattern 0 = some m.length := by
  rw [findFrom_eq_some, List.drop_left]
  refine ⟨Nat.zero_le _, by simp, List.prefix_append pattern rest, ?_⟩
  intro j _ hlt
  exact h.not_prefix rest hlt

theorem findFrom_behind {pattern m : Bytes} (h : Marks pattern m)
    (a rest : Bytes) :
    findFrom (a ++ (m ++ (pattern ++ rest))) pattern a.length =
      some (a.length + m.length) := by
  have happend := findFrom_append a (m ++ (pattern ++ rest)) pattern 0
  rw [findFrom_marks h] at happend
  exact happend

/-- A pattern with a byte that does not occur. -/
theorem findFrom_notMem {s pattern : Bytes} {c : UInt8} (hc : c ∈ pattern)
    (h : c ∉ s) (pos : Nat) : findFrom s pattern pos = none := by
  rw [findFrom_eq_none]
  intro i _ _ hmatch
  exact h (List.mem_of_mem_drop (hmatch.subset hc))

/-- What does not begin in front is found where it is found in the rest. -/
theorem findFrom_of_front {m s pattern : Bytes}
    (hfront : forall j, j < m.length -> ¬ pattern <+: (m ++ s).drop j) :
    findFrom (m ++ s) pattern 0 =
      (findFrom s pattern 0).map fun i => m.length + i := by
  rw [← findFrom_append]
  cases hfind : findFrom (m ++ s) pattern (m.length + 0) with
  | none =>
      rw [findFrom_eq_none] at hfind ⊢
      intro j _ hj
      rcases Nat.lt_or_ge j m.length with hlt | hge
      · exact hfront j hlt
      · exact hfind j hge hj
  | some i =>
      rw [findFrom_eq_some] at hfind ⊢
      rcases hfind with ⟨_, hi, hmatch, hbefore⟩
      refine ⟨Nat.zero_le i, hi, hmatch, ?_⟩
      intro j _ hj
      rcases Nat.lt_or_ge j m.length with hlt | hge
      · exact hfront j hlt
      · exact hbefore j hge hj

theorem findFrom_skip {m q : Bytes} {c : UInt8} (h : c ∉ m) (s : Bytes) :
    findFrom (m ++ s) (c :: q) 0 =
      (findFrom s (c :: q) 0).map fun i => m.length + i := by
  apply findFrom_of_front
  intro j hj hmatch
  rw [List.drop_append_of_le_length (Nat.le_of_lt hj),
    List.drop_eq_getElem_cons hj] at hmatch
  have hhead := (List.cons_prefix_cons.mp hmatch).1
  exact h (hhead ▸ List.getElem_mem hj)

/-- What is found is found there whatever follows. -/
theorem findFrom_append_left {s pattern : Bytes} {pos i : Nat}
    (h : findFrom s pattern pos = some i) (t : Bytes) :
    findFrom (s ++ t) pattern pos = some i := by
  have hfits := findFrom_fits h
  rcases findFrom_eq_some.mp h with ⟨hpos, hi, hmatch, hbefore⟩
  have hdrop : forall j, j <= i -> (s ++ t).drop j = s.drop j ++ t :=
    fun j hj => List.drop_append_of_le_length (Nat.le_trans hj hi)
  rw [findFrom_eq_some, List.length_append, hdrop i (Nat.le_refl i)]
  refine ⟨hpos, by omega, hmatch.trans (List.prefix_append _ t), ?_⟩
  intro j hj hlt hearlier
  rw [hdrop j (Nat.le_of_lt hlt)] at hearlier
  apply hbefore j hj hlt
  apply List.prefix_of_prefix_length_le hearlier (List.prefix_append _ t)
  rw [List.length_drop]
  omega

/-- What is not found is not found before a byte that the pattern has not. -/
theorem findFrom_beyond {s pattern : Bytes} {c : UInt8}
    (h : findFrom s pattern 0 = none) (hc : c ∉ pattern) (t : Bytes) :
    findFrom (s ++ c :: t) pattern 0 =
      (findFrom (c :: t) pattern 0).map fun i => s.length + i := by
  have hfront : forall j, j < s.length ->
      ¬ pattern <+: (s ++ c :: t).drop j := by
    intro j hj hmatch
    rw [List.drop_append_of_le_length (Nat.le_of_lt hj)] at hmatch
    rcases Nat.le_total pattern.length (s.drop j).length with hshort | hlong
    · exact findFrom_eq_none.mp h j (Nat.zero_le j) (Nat.le_of_lt hj)
        (List.prefix_of_prefix_length_le hmatch (List.prefix_append _ _) hshort)
    · have hwhole : s.drop j <+: pattern :=
        List.prefix_of_prefix_length_le (List.prefix_append _ _) hmatch hlong
      rcases hwhole with ⟨q, hq⟩
      rw [← hq, List.prefix_append_right_inj] at hmatch
      cases q with
      | nil =>
          rw [List.append_nil] at hq
          exact findFrom_eq_none.mp h j (Nat.zero_le j) (Nat.le_of_lt hj)
            (hq ▸ List.prefix_refl _)
      | cons d q =>
          rw [← (List.cons_prefix_cons.mp hmatch).1, ← hq] at hc
          exact hc (List.mem_append_right _ List.mem_cons_self)
  exact findFrom_of_front hfront

/-- `std::isalpha` in the C locale. -/
def isAlpha (c : UInt8) : Bool :=
  (65 <= c && c <= 90) || (97 <= c && c <= 122)

def kRtmpSchema : Bytes := ascii ['R', 'T', 'M', 'P']

structure StreamKey where
  schema : Bytes
  vhost : Bytes
  app : Bytes
  streamId : Bytes
  deriving DecidableEq, Repr

/-- No part of the key is missing. -/
def StreamKey.Complete (k : StreamKey) : Prop :=
  k.schema ≠ [] ∧ k.vhost ≠ [] ∧ k.app ≠ [] ∧ k.streamId ≠ []

structure MediaInfo where
  schema : Bytes := []
  app : Bytes := []
  vhost : Bytes := []
  streamId : Bytes := []
  token : Bytes := []
  tcUrl : Bytes := []
  deriving DecidableEq, Repr

namespace MediaInfo

def kVhostParam : Bytes := ascii ['v', 'h', 'o', 's', 't', '=']

def kTokenParam : Bytes := ascii ['t', 'o', 'k', 'e', 'n', '=']

def create (schema : Bytes) : MediaInfo where
  schema := schema

/-- The setters, which take no empty string. -/
def set (name : String) (update : MediaInfo -> Bytes -> MediaInfo)
    (val : Bytes) : EStateM String MediaInfo PUnit := fun info =>
  if val = [] then .error s!"{name} cannot be empty" info
  else .ok ⟨⟩ (update info val)

def setApp : Bytes -> EStateM String MediaInfo PUnit :=
  set "app" fun info app => { info with app := app }

def setTcUrl : Bytes -> EStateM String MediaInfo PUnit :=
  set "tc_url" fun info tcUrl => { info with tcUrl := tcUrl }

/-- Parse a stream like `stream?vhost=test.com&token=abcdef`.  A parameter that
is missing leaves the field as it was. -/
def parseStream (stream : Bytes) (info : MediaInfo) : Except String MediaInfo :=
  if stream = [] then
    .error "stream cannot be empty"
  else
    -- find the first letter
    let start := (stream.findIdx? isAlpha).getD 0
    let streamPos := findFrom stream [63] start
    let info := { info with
      streamId := match streamPos with
        | none => stream.drop start
        | some pos => (stream.drop start).take (pos - start) }
    match streamPos.bind (findFrom stream kVhostParam) with
    | none => .ok info
    | some pos =>
        let vhostPos := pos + kVhostParam.length
        let amperPos := findFrom stream [38] vhostPos
        let info := { info with
          vhost := match amperPos with
            | none => stream.drop vhostPos
            | some pos => (stream.drop vhostPos).take (pos - vhostPos) }
        match amperPos.bind (findFrom stream kTokenParam) with
        | none => .ok info
        | some pos =>
            .ok { info with token := stream.drop (pos + kTokenParam.length) }

def key (info : MediaInfo) : StreamKey where
  schema := info.schema
  vhost := info.vhost
  app := info.app
  streamId := info.streamId

def isComplete (info : MediaInfo) : Bool :=
  info.schema ≠ [] && info.app ≠ [] && info.vhost ≠ [] && info.streamId ≠ []

theorem isComplete_iff (info : MediaInfo) :
    info.isComplete = true <-> info.key.Complete := by
  unfold isComplete StreamKey.Complete key
  simp only [ne_eq, Bool.and_eq_true, decide_eq_true_eq]
  tauto


/-- A stream with its parameters, and one of a publisher that sends digits in
front and gives no vhost. -/
example : (parseStream (ascii ['s', '1', '?', 'v', 'h', 'o', 's', 't', '=', 'v',
    '&', 't', 'o', 'k', 'e', 'n', '=', 't']) {}).toOption =
      some { streamId := ascii ['s', '1'], vhost := ascii ['v'],
             token := ascii ['t'] } ∧
    (parseStream (ascii ['1', '/', 's']) { vhost := ascii ['v'] }).toOption =
      some { streamId := ascii ['s'], vhost := ascii ['v'] } := by
  decide +kernel

end MediaInfo

end Media
end Streaming
