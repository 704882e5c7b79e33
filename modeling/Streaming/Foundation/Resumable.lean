import Mathlib.Data.List.Basic

/-!
# Resumable parsers

A resumable parser looks at the head of its input and either reads one unit,
asks for more input, or fails.  Asking for more may already have changed the
parser state; the laws below say that the change does no harm when the same
bytes are looked at again.  Under these laws the result of a parse does not
depend on how the input was cut into reads.
-/

namespace Streaming
namespace Foundation

/-- What one look at the head of the input reports. -/
inductive Attempt (state item : Type) where
  | needMore (s : state)
  | done (s : state) (items : List item) (consumed : Nat)
  | failed (s : state) (items : List item)

/-- The result of reading units for as long as the input holds complete ones. -/
inductive Outcome (byte state item : Type) where
  | waiting (s : state) (items : List item) (rest : List byte)
  | failed (s : state) (items : List item)

section Drain

variable {byte state item : Type}

/-- Put items that were read earlier in front of an outcome's items. -/
def Outcome.emit (items : List item) :
    Outcome byte state item -> Outcome byte state item
  | .waiting s later rest => .waiting s (items ++ later) rest
  | .failed s later => .failed s (items ++ later)

@[simp] theorem Outcome.emit_nil (o : Outcome byte state item) :
    o.emit [] = o := by
  cases o <;> rfl

theorem Outcome.emit_emit (xs ys : List item) (o : Outcome byte state item) :
    (o.emit ys).emit xs = o.emit (xs ++ ys) := by
  cases o <;> simp [Outcome.emit]

/-- Read units until the input is empty, incomplete or rejected. -/
def drainFuel (attempt : state -> List byte -> Attempt state item) :
    Nat -> state -> List byte -> Outcome byte state item
  | _, s, [] => .waiting s [] []
  | 0, s, b :: bs => .waiting s [] (b :: bs)
  | fuel + 1, s, b :: bs =>
      match attempt s (b :: bs) with
      | .needMore s' => .waiting s' [] (b :: bs)
      | .done s' items consumed =>
          (drainFuel attempt fuel s' ((b :: bs).drop consumed)).emit items
      | .failed s' items => .failed s' items

/-- Every unit takes at least one byte, so the input's length is fuel enough. -/
def drain (attempt : state -> List byte -> Attempt state item)
    (s : state) (input : List byte) : Outcome byte state item :=
  drainFuel attempt input.length s input

/-- The loop itself: an outcome is one that finitely many looks lead to. -/
inductive Drains (attempt : state -> List byte -> Attempt state item) :
    state -> List byte -> Outcome byte state item -> Prop where
  | empty (s : state) : Drains attempt s [] (.waiting s [] [])
  | needMore {s s' : state} {input : List byte} (hne : input ≠ [])
      (hattempt : attempt s input = .needMore s') :
      Drains attempt s input (.waiting s' [] input)
  | failed {s s' : state} {input : List byte} {items : List item}
      (hne : input ≠ []) (hattempt : attempt s input = .failed s' items) :
      Drains attempt s input (.failed s' items)
  | done {s s' : state} {input : List byte} {items : List item} {k : Nat}
      {o : Outcome byte state item} (hne : input ≠ [])
      (hattempt : attempt s input = .done s' items k)
      (later : Drains attempt s' (input.drop k) o) :
      Drains attempt s input (o.emit items)

@[simp] theorem drain_nil (attempt : state -> List byte -> Attempt state item)
    (s : state) : drain attempt s [] = .waiting s [] [] := rfl

/-- Take up the input again where the last drain stopped. -/
def Outcome.resume (attempt : state -> List byte -> Attempt state item)
    (more : List byte) : Outcome byte state item -> Outcome byte state item
  | .waiting s items rest => (drain attempt s (rest ++ more)).emit items
  | .failed s items => .failed s items

/-- Feed a sequence of reads, each appended to what the last one left over. -/
def feed (attempt : state -> List byte -> Attempt state item) :
    Outcome byte state item -> List (List byte) -> Outcome byte state item
  | o, [] => o
  | o, read :: reads => feed attempt (o.resume attempt read) reads

theorem Outcome.resume_emit
    (attempt : state -> List byte -> Attempt state item)
    (more : List byte) (items : List item) (o : Outcome byte state item) :
    (o.emit items).resume attempt more = (o.resume attempt more).emit items := by
  cases o with
  | failed s later => rfl
  | waiting s later rest =>
      show (drain attempt s (rest ++ more)).emit (items ++ later) =
        ((drain attempt s (rest ++ more)).emit later).emit items
      rw [Outcome.emit_emit]

theorem feed_emit (attempt : state -> List byte -> Attempt state item)
    (items : List item) (o : Outcome byte state item)
    (reads : List (List byte)) :
    feed attempt (o.emit items) reads = (feed attempt o reads).emit items := by
  induction reads generalizing o with
  | nil => rfl
  | cons read reads ih =>
      simp only [feed]
      rw [Outcome.resume_emit, ih]

/-- The states of a parser with what is then left of its input and the looks
that have read a unit, the latest first.  A look sees as much of what is left as
has arrived by then. -/
inductive Visits (attempt : state -> List byte -> Attempt state item)
    (s : state) (input : List byte) :
    List (state × List byte) -> state -> List byte -> Prop where
  | start : Visits attempt s input [] s input
  | needMore {before : List (state × List byte)} {t t' : state}
      {seen rest : List byte} (earlier : Visits attempt s input before t rest)
      (hseen : seen <+: rest) (hne : seen ≠ [])
      (hattempt : attempt t seen = .needMore t') :
      Visits attempt s input before t' rest
  | done {before : List (state × List byte)} {t t' : state}
      {seen rest : List byte} {items : List item} {k : Nat}
      (earlier : Visits attempt s input before t rest) (hseen : seen <+: rest)
      (hne : seen ≠ []) (hattempt : attempt t seen = .done t' items k) :
      Visits attempt s input ((t, seen) :: before) t' (rest.drop k)

/-- A condition on every look at the input, as it stands before the look. -/
def Throughout (attempt : state -> List byte -> Attempt state item)
    (s : state) (input : List byte) (guard : state -> List byte -> Prop) :
    Prop :=
  forall before t rest seen, Visits attempt s input before t rest ->
    seen <+: rest -> seen ≠ [] -> guard t seen

/-- What every look that meets a condition keeps holds in each state visited. -/
theorem Visits.keeps {attempt : state -> List byte -> Attempt state item}
    {guard : state -> List byte -> Prop}
    {I : List (state × List byte) -> state -> List byte -> Prop}
    {s t : state} {input rest : List byte} {before : List (state × List byte)}
    (h : Visits attempt s input before t rest) (hs : I [] s input)
    (hguard : Throughout attempt s input guard)
    (hneedMore : forall {before t rest seen t'}, I before t rest ->
      guard t seen -> seen <+: rest -> attempt t seen = .needMore t' ->
        I before t' rest)
    (hdone : forall {before t rest seen t' items k}, I before t rest ->
      guard t seen -> seen <+: rest -> attempt t seen = .done t' items k ->
        I ((t, seen) :: before) t' (rest.drop k)) :
    I before t rest := by
  induction h with
  | start => exact hs
  | needMore earlier hseen hne hattempt ih =>
      exact hneedMore ih (hguard _ _ _ _ earlier hseen hne) hseen hattempt
  | done earlier hseen hne hattempt ih =>
      exact hdone ih (hguard _ _ _ _ earlier hseen hne) hseen hattempt

theorem Visits.suffix {attempt : state -> List byte -> Attempt state item}
    {s t : state} {input rest : List byte} {before : List (state × List byte)}
    (h : Visits attempt s input before t rest) : rest <:+ input := by
  induction h with
  | start => exact List.suffix_refl _
  | needMore _ _ _ _ ih => exact ih
  | done _ _ _ _ ih => exact (List.drop_suffix _ _).trans ih

end Drain

/-- An attempt function together with the laws that make resuming harmless. -/
structure ResumableParser (byte state item : Type) where
  attempt : state -> List byte -> Attempt state item
  consumed_pos : forall {s input s' items k}, input ≠ [] ->
    attempt s input = .done s' items k -> 0 < k
  consumed_le : forall {s input s' items k}, input ≠ [] ->
    attempt s input = .done s' items k -> k <= input.length
  done_append : forall {s input s' items k} (more : List byte), input ≠ [] ->
    attempt s input = .done s' items k ->
      attempt s (input ++ more) = .done s' items k
  failed_append : forall {s input s' items} (more : List byte), input ≠ [] ->
    attempt s input = .failed s' items ->
      attempt s (input ++ more) = .failed s' items
  needMore_append : forall {s input s'} (more : List byte), input ≠ [] ->
    attempt s input = .needMore s' ->
      attempt s' (input ++ more) = attempt s (input ++ more)

namespace ResumableParser

variable {byte state item : Type} (P : ResumableParser byte state item)

/-!
## Unfolding one unit
-/

theorem drainFuel_eq_drain {fuel : Nat} {s : state} {input : List byte}
    (hfuel : input.length <= fuel) :
    drainFuel P.attempt fuel s input = drain P.attempt s input := by
  induction fuel using Nat.strongRecOn generalizing s input with
  | ind fuel ih =>
      cases input with
      | nil => cases fuel <;> rfl
      | cons b bs =>
          cases fuel with
          | zero => simp at hfuel
          | succ fuel =>
              simp only [List.length_cons] at hfuel
              simp only [drain, List.length_cons, drainFuel]
              cases hattempt : P.attempt s (b :: bs) with
              | needMore s' => rfl
              | failed s' items => rfl
              | done s' items k =>
                  have hpos := P.consumed_pos (by simp) hattempt
                  have hrest : ((b :: bs).drop k).length <= bs.length := by
                    simp only [List.length_drop, List.length_cons]
                    omega
                  simp only
                  rw [ih fuel (by omega) (by omega),
                    ← ih bs.length (by omega) hrest]

theorem drain_needMore {s s' : state} {input : List byte}
    (hne : input ≠ []) (h : P.attempt s input = .needMore s') :
    drain P.attempt s input = .waiting s' [] input := by
  cases input with
  | nil => exact absurd rfl hne
  | cons b bs => simp [drain, drainFuel, h]

theorem drain_failed {s s' : state} {input : List byte} {items : List item}
    (hne : input ≠ []) (h : P.attempt s input = .failed s' items) :
    drain P.attempt s input = .failed s' items := by
  cases input with
  | nil => exact absurd rfl hne
  | cons b bs => simp [drain, drainFuel, h]

theorem drain_done {s s' : state} {input : List byte} {items : List item}
    {k : Nat} (hne : input ≠ []) (h : P.attempt s input = .done s' items k) :
    drain P.attempt s input =
      (drain P.attempt s' (input.drop k)).emit items := by
  cases input with
  | nil => exact absurd rfl hne
  | cons b bs =>
      have hpos := P.consumed_pos hne h
      have hrest : ((b :: bs).drop k).length <= bs.length := by
        simp only [List.length_drop, List.length_cons]
        omega
      rw [← P.drainFuel_eq_drain hrest]
      simp [drain, drainFuel, h]

/-- A drain goes on from the look that read a unit, with shorter input. -/
theorem drain_induction {motive : state -> List byte -> Prop}
    (empty : forall s, motive s [])
    (needMore : forall s input s', input ≠ [] ->
      P.attempt s input = .needMore s' -> motive s input)
    (failed : forall s input s' items, input ≠ [] ->
      P.attempt s input = .failed s' items -> motive s input)
    (done : forall s input s' items k, input ≠ [] ->
      P.attempt s input = .done s' items k -> motive s' (input.drop k) ->
        motive s input)
    (s : state) (input : List byte) : motive s input := by
  induction hlen : input.length using Nat.strongRecOn generalizing s input with
  | ind n ih =>
      by_cases hne : input = []
      · subst hne
        exact empty s
      · cases hattempt : P.attempt s input with
        | needMore s' => exact needMore s input s' hne hattempt
        | failed s' items => exact failed s input s' items hne hattempt
        | done s' items k =>
            have hpos := P.consumed_pos hne hattempt
            have hle := P.consumed_le hne hattempt
            have hshorter : (input.drop k).length < n := by
              simp only [List.length_drop]
              omega
            exact done s input s' items k hne hattempt
              (ih _ hshorter s' (input.drop k) rfl)

/-- The loop ends, and with the outcome of the drain. -/
theorem drains_drain (s : state) (input : List byte) :
    Drains P.attempt s input (drain P.attempt s input) := by
  induction s, input using P.drain_induction with
  | empty s => exact .empty s
  | needMore s input s' hne hattempt =>
      rw [P.drain_needMore hne hattempt]
      exact .needMore hne hattempt
  | failed s input s' items hne hattempt =>
      rw [P.drain_failed hne hattempt]
      exact .failed hne hattempt
  | done s input s' items k hne hattempt ih =>
      rw [P.drain_done hne hattempt]
      exact .done hne hattempt ih

/-- If a drain goes on waiting, then so does what is behind its first unit. -/
theorem drain_done_waiting {s t s' : state} {input rest : List byte}
    {out items : List item} {k : Nat} (hne : input ≠ [])
    (hattempt : P.attempt s input = .done t out k)
    (h : drain P.attempt s input = .waiting s' items rest) :
    exists later, drain P.attempt t (input.drop k) = .waiting s' later rest := by
  rw [P.drain_done hne hattempt] at h
  cases hdrain : drain P.attempt t (input.drop k) with
  | failed u later =>
      rw [hdrain] at h
      cases h
  | waiting u later rest' =>
      rw [hdrain] at h
      cases h
      exact ⟨later, rfl⟩

/-!
## Cutting the input
-/

/-- Draining the whole input is draining a front part and resuming with the rest. -/
theorem drain_append (s : state) (front back : List byte) :
    drain P.attempt s (front ++ back) =
      (drain P.attempt s front).resume P.attempt back := by
  induction s, front using P.drain_induction with
  | empty s => simp [Outcome.resume]
  | failed s front s' items hne hattempt =>
      have hneAppend : front ++ back ≠ [] := by simp [hne]
      rw [P.drain_failed hne hattempt,
        P.drain_failed hneAppend (P.failed_append back hne hattempt)]
      rfl
  | done s front s' items k hne hattempt ih =>
      have hneAppend : front ++ back ≠ [] := by simp [hne]
      rw [P.drain_done hne hattempt,
        P.drain_done hneAppend (P.done_append back hne hattempt),
        List.drop_append_of_le_length (P.consumed_le hne hattempt),
        Outcome.resume_emit, ih]
  | needMore s front s' hne hattempt =>
      -- the bytes seen so far are looked at again from the updated state
      have hneAppend : front ++ back ≠ [] := by simp [hne]
      have hsame := P.needMore_append back hne hattempt
      rw [P.drain_needMore hne hattempt]
      simp only [Outcome.resume, Outcome.emit_nil]
      cases hagain : P.attempt s (front ++ back) with
      | needMore s'' =>
          rw [P.drain_needMore hneAppend hagain,
            P.drain_needMore hneAppend (hsame.trans hagain)]
      | failed s'' items =>
          rw [P.drain_failed hneAppend hagain,
            P.drain_failed hneAppend (hsame.trans hagain)]
      | done s'' items k =>
          rw [P.drain_done hneAppend hagain,
            P.drain_done hneAppend (hsame.trans hagain)]

theorem resume_resume (o : Outcome byte state item) (x y : List byte) :
    (o.resume P.attempt x).resume P.attempt y = o.resume P.attempt (x ++ y) := by
  cases o with
  | failed s items => rfl
  | waiting s items rest =>
      show ((drain P.attempt s (rest ++ x)).emit items).resume P.attempt y =
        (drain P.attempt s (rest ++ (x ++ y))).emit items
      rw [Outcome.resume_emit, ← P.drain_append, List.append_assoc]

theorem feed_eq_resume (o : Outcome byte state item) (read : List byte)
    (reads : List (List byte)) :
    feed P.attempt o (read :: reads) =
      o.resume P.attempt (read ++ reads.flatten) := by
  induction reads generalizing o read with
  | nil => simp [feed]
  | cons next reads ih =>
      have hstep : feed P.attempt o (read :: next :: reads) =
          feed P.attempt (o.resume P.attempt read) (next :: reads) := rfl
      rw [hstep, ih, P.resume_resume]
      simp

/-- Any way of cutting the input into reads gives the drain of the whole input. -/
theorem feed_eq_drain (s : state) (reads : List (List byte)) :
    feed P.attempt (.waiting s [] []) reads = drain P.attempt s reads.flatten := by
  cases reads with
  | nil => rfl
  | cons read reads =>
      rw [P.feed_eq_resume]
      simp [Outcome.resume]

/-- Parsers that agree on the states they visit drain alike. -/
theorem drain_congr (Q : ResumableParser byte state item) {I : state -> Prop}
    (hagree : forall s input, I s -> P.attempt s input = Q.attempt s input)
    (hkeep : forall {s input s' items k}, I s ->
      P.attempt s input = .done s' items k -> I s')
    {s : state} {input : List byte} (hs : I s) :
    drain P.attempt s input = drain Q.attempt s input := by
  induction s, input using P.drain_induction with
  | empty s => rfl
  | needMore s input s' hne hattempt =>
      rw [P.drain_needMore hne hattempt,
        Q.drain_needMore hne ((hagree s input hs).symm.trans hattempt)]
  | failed s input s' items hne hattempt =>
      rw [P.drain_failed hne hattempt,
        Q.drain_failed hne ((hagree s input hs).symm.trans hattempt)]
  | done s input s' items k hne hattempt ih =>
      rw [P.drain_done hne hattempt,
        Q.drain_done hne ((hagree s input hs).symm.trans hattempt),
        ih (hkeep hs hattempt)]

/-- What every look leads to is led to by the drain, where a look that goes on
puts its units in front. -/
theorem drain_rule {motive : state -> Outcome byte state item -> Prop}
    (empty : forall s, motive s (.waiting s [] []))
    (needMore : forall {s input s'}, P.attempt s input = .needMore s' ->
      motive s (.waiting s' [] input))
    (failed : forall {s input s' items}, P.attempt s input = .failed s' items ->
      motive s (.failed s' items))
    (done : forall {s input t items k o}, P.attempt s input = .done t items k ->
      motive t o -> motive s (o.emit items))
    (s : state) (input : List byte) : motive s (drain P.attempt s input) := by
  induction s, input using P.drain_induction with
  | empty s => exact empty s
  | needMore s input s' hne hattempt =>
      rw [P.drain_needMore hne hattempt]
      exact needMore hattempt
  | failed s input s' items hne hattempt =>
      rw [P.drain_failed hne hattempt]
      exact failed hattempt
  | done s input t items k hne hattempt ih =>
      rw [P.drain_done hne hattempt]
      exact done hattempt ih

/-!
## The looks of a drain
-/

/-- A drain of what has arrived ends in a state that is visited. -/
theorem drain_visits {s t t' : state} {input front rest : List byte}
    {before : List (state × List byte)} {items : List item} (back : List byte)
    (hvisits : Visits P.attempt s input before t (front ++ back))
    (h : drain P.attempt t front = .waiting t' items rest) :
    exists before', Visits P.attempt s input before' t' (rest ++ back) := by
  induction t, front using P.drain_induction generalizing before items with
  | empty t =>
      cases h
      exact ⟨before, hvisits⟩
  | failed t front u out hne hattempt =>
      rw [P.drain_failed hne hattempt] at h
      cases h
  | needMore t front u hne hattempt =>
      rw [P.drain_needMore hne hattempt] at h
      cases h
      exact ⟨before, hvisits.needMore (List.prefix_append _ _) hne hattempt⟩
  | done t front u out k hne hattempt ih =>
      rcases P.drain_done_waiting hne hattempt h with ⟨later, hlater⟩
      have hnext := hvisits.done (List.prefix_append _ _) hne hattempt
      rw [List.drop_append_of_le_length (P.consumed_le hne hattempt)] at hnext
      exact ih hnext hlater

theorem exists_visits {s s' : state} {input rest : List byte}
    {items : List item} (h : drain P.attempt s input = .waiting s' items rest) :
    exists before, Visits P.attempt s input before s' rest := by
  have hstart : Visits P.attempt s input [] s (input ++ []) := by
    rw [List.append_nil]
    exact .start
  rcases P.drain_visits [] hstart h with ⟨before, hvisits⟩
  rw [List.append_nil] at hvisits
  exact ⟨before, hvisits⟩

/-- What every look at the input keeps, draining keeps. -/
theorem drain_keeps {I : state -> Prop}
    (hneedMore : forall {s input s'}, I s ->
      P.attempt s input = .needMore s' -> I s')
    (hdone : forall {s input s' items k}, I s ->
      P.attempt s input = .done s' items k -> I s')
    {s s' : state} {input rest : List byte} {items : List item} (hs : I s)
    (h : drain P.attempt s input = .waiting s' items rest) : I s' := by
  have hall : Throughout P.attempt s input fun _ _ => True :=
    fun _ _ _ _ _ _ _ => trivial
  rcases P.exists_visits h with ⟨before, hvisits⟩
  exact hvisits.keeps (I := fun _ t _ => I t) hs hall
    (fun ht _ _ hattempt => hneedMore ht hattempt)
    (fun ht _ _ hattempt => hdone ht hattempt)

theorem drain_rest_suffix {s s' : state} {input rest : List byte}
    {items : List item} (h : drain P.attempt s input = .waiting s' items rest) :
    rest <:+ input := by
  rcases P.exists_visits h with ⟨before, hvisits⟩
  exact hvisits.suffix

/-- Draining what a drain has left over finds nothing to do. -/
theorem drain_again {s s' : state} {input rest : List byte}
    {items : List item} (h : drain P.attempt s input = .waiting s' items rest) :
    drain P.attempt s' rest = .waiting s' [] rest := by
  induction s, input using P.drain_induction generalizing items with
  | empty s =>
      cases h
      rfl
  | failed s input t out hne hattempt =>
      rw [P.drain_failed hne hattempt] at h
      cases h
  | needMore s input t hne hattempt =>
      rw [P.drain_needMore hne hattempt] at h
      cases h
      have hsame := P.needMore_append [] hne hattempt
      rw [List.append_nil, hattempt] at hsame
      exact P.drain_needMore hne hsame
  | done s input t out k hne hattempt ih =>
      rcases P.drain_done_waiting hne hattempt h with ⟨later, hlater⟩
      exact ih hlater

end ResumableParser

end Foundation
end Streaming
