import Mathlib.Data.List.AList

/-!
# Maps of maps

A map whose values are maps again, to some depth.  An entry is named by one key
for each level.  Writing creates the maps on the way that are missing, erasing
removes those that it leaves empty.
-/

namespace Streaming
namespace Foundation

section NestedMap

variable {key value : Type}

/-- `n` levels of maps above the one that holds the values. -/
@[reducible] def NestedMap (key value : Type) : Nat -> Type
  | 0 => AList fun _ : key => value
  | n + 1 => AList fun _ : key => NestedMap key value n

namespace NestedMap

def empty : (n : Nat) -> NestedMap key value n
  | 0 => (∅ : AList fun _ : key => value)
  | n + 1 => (∅ : AList fun _ : key => NestedMap key value n)

def isEmpty : {n : Nat} -> NestedMap key value n -> Bool
  | 0, m => (AList.entries m).isEmpty
  | _ + 1, m => (AList.entries m).isEmpty

/-- No map inside is empty. -/
def NoneEmpty [DecidableEq key] :
    {n : Nat} -> NestedMap key value n -> Prop
  | 0, _ => True
  | _ + 1, m => forall k inner, AList.lookup k m = some inner ->
      isEmpty inner = false ∧ NoneEmpty inner

variable [DecidableEq key]

def lookup : {n : Nat} -> NestedMap key value n -> List key -> Option value
  | 0, m, [k] => AList.lookup k m
  | _ + 1, m, k :: ks => (AList.lookup k m).bind fun inner => lookup inner ks
  | _, _, _ => none

/-- `m[k₁][k₂]… = a`. -/
def assign : {n : Nat} -> NestedMap key value n -> List key -> value ->
    NestedMap key value n
  | 0, m, [k], a => AList.insert k a m
  | n + 1, m, k :: ks, a =>
      AList.insert k (assign ((AList.lookup k m).getD (empty n)) ks a) m
  | _, m, _, _ => m

/-- Erase the entry if its value is one of those to go. -/
def eraseIf (gone : value -> Bool) : {n : Nat} -> NestedMap key value n ->
    List key -> NestedMap key value n
  | 0, m, [k] =>
      match AList.lookup k m with
      | none => m
      | some a => if gone a then AList.erase k m else m
  | _ + 1, m, k :: ks =>
      match AList.lookup k m with
      | none => m
      | some inner =>
          if isEmpty (eraseIf gone inner ks) then AList.erase k m
          else AList.insert k (eraseIf gone inner ks) m
  | _, m, _ => m

/-!
## Reading
-/

theorem lookup_of_length_ne {n : Nat} (m : NestedMap key value n)
    {ks : List key} (hks : ks.length ≠ n + 1) : lookup m ks = none := by
  induction n generalizing ks with
  | zero =>
      match ks with
      | [] => rfl
      | [k] => exact absurd rfl hks
      | _ :: _ :: _ => rfl
  | succ n ih =>
      cases ks with
      | nil => rfl
      | cons k ks =>
          have hinner : ks.length ≠ n + 1 := fun h => hks (congrArg (· + 1) h)
          show (AList.lookup k m).bind _ = none
          rw [Option.bind_eq_none_iff]
          intro inner _
          exact ih inner hinner

theorem lookup_empty {n : Nat} (ks : List key) :
    lookup (empty n : NestedMap key value n) ks = none := by
  cases n with
  | zero =>
      match ks with
      | [] => rfl
      | [k] => rfl
      | _ :: _ :: _ => rfl
  | succ n =>
      cases ks with
      | nil => rfl
      | cons k ks => rfl

theorem alist_lookup_of_isEmpty {any : Type}
    {m : AList fun _ : key => any} (h : m.entries.isEmpty = true) (k : key) :
    m.lookup k = none := by
  have hm : m = ∅ := AList.ext (List.isEmpty_iff.mp h)
  rw [hm]
  rfl

theorem lookup_of_isEmpty {n : Nat} {m : NestedMap key value n}
    (h : isEmpty m = true) (ks : List key) : lookup m ks = none := by
  cases n with
  | zero =>
      match ks with
      | [] => rfl
      | [k] => exact alist_lookup_of_isEmpty (m := m) h k
      | _ :: _ :: _ => rfl
  | succ n =>
      cases ks with
      | nil => rfl
      | cons k ks =>
          show (AList.lookup k m).bind _ = none
          rw [alist_lookup_of_isEmpty (m := m) h k, Option.bind_none]

/-!
## Reading what was written
-/

theorem lookup_assign_self {n : Nat} (m : NestedMap key value n)
    {ks : List key} (hks : ks.length = n + 1) (a : value) :
    lookup (assign m ks a) ks = some a := by
  induction n generalizing ks with
  | zero =>
      match ks, hks with
      | [k], _ => exact AList.lookup_insert m
  | succ n ih =>
      match ks, hks with
      | k :: ks, hks =>
          show (AList.lookup k (AList.insert k _ m)).bind _ = some a
          rw [AList.lookup_insert, Option.bind_some]
          exact ih _ (Nat.succ.inj hks)

theorem lookup_assign_ne {n : Nat} (m : NestedMap key value n)
    {ks js : List key} (hks : ks.length = n + 1) (hne : js ≠ ks) (a : value) :
    lookup (assign m ks a) js = lookup m js := by
  by_cases hjs : js.length = n + 1
  · induction n generalizing ks js with
    | zero =>
        match ks, js, hks, hjs with
        | [k], [j], _, _ =>
            have hkey : j ≠ k := fun h => hne (congrArg (fun k => [k]) h)
            exact AList.lookup_insert_ne hkey
    | succ n ih =>
        match ks, js, hks, hjs with
        | k :: ks, j :: js, hks, hjs =>
            show (AList.lookup j (AList.insert k _ m)).bind _ =
              (AList.lookup j m).bind _
            by_cases hkey : j = k
            · subst hkey
              have htail : js ≠ ks := fun h => hne (congrArg (j :: ·) h)
              rw [AList.lookup_insert, Option.bind_some,
                ih _ (Nat.succ.inj hks) htail (Nat.succ.inj hjs)]
              cases AList.lookup j m with
              | none => exact lookup_empty js
              | some inner => rfl
            · rw [AList.lookup_insert_ne hkey]
  · rw [lookup_of_length_ne _ hjs, lookup_of_length_ne _ hjs]

/-!
## Reading after something was erased
-/

theorem lookup_eraseIf_self (gone : value -> Bool) {n : Nat}
    (m : NestedMap key value n) (ks : List key) :
    lookup (eraseIf gone m ks) ks =
      (lookup m ks).filter fun a => !gone a := by
  by_cases hks : ks.length = n + 1
  · induction n generalizing ks with
    | zero =>
        match ks, hks with
        | [k], _ =>
            show AList.lookup k (match AList.lookup k m with
              | none => m
              | some a => if gone a then AList.erase k m else m) =
                (AList.lookup k m).filter _
            cases hk : AList.lookup k m with
            | none => exact hk
            | some a =>
                cases hgone : gone a with
                | true => simp [hgone, AList.lookup_erase, Option.filter]
                | false => simp [hgone, hk, Option.filter]
    | succ n ih =>
        match ks, hks with
        | k :: ks, hks =>
            show (AList.lookup k (match AList.lookup k m with
              | none => m
              | some inner =>
                  if isEmpty (eraseIf gone inner ks) then AList.erase k m
                  else AList.insert k (eraseIf gone inner ks) m)).bind _ =
                ((AList.lookup k m).bind _).filter _
            cases hk : AList.lookup k m with
            | none =>
                show (AList.lookup k m).bind _ = _
                rw [hk]
                rfl
            | some inner =>
                have hinner := ih inner ks (Nat.succ.inj hks)
                dsimp only
                rw [Option.bind_some, ← hinner]
                split
                · rename_i hempty
                  rw [AList.lookup_erase, lookup_of_isEmpty hempty]
                  rfl
                · rw [AList.lookup_insert, Option.bind_some]
  · rw [lookup_of_length_ne _ hks, lookup_of_length_ne _ hks]
    rfl

theorem lookup_eraseIf_ne (gone : value -> Bool) {n : Nat}
    (m : NestedMap key value n) {ks js : List key} (hne : js ≠ ks) :
    lookup (eraseIf gone m ks) js = lookup m js := by
  by_cases hjs : js.length = n + 1
  · induction n generalizing ks js with
    | zero =>
        match ks, js, hjs with
        | [], [j], _ => rfl
        | _ :: _ :: _, [j], _ => rfl
        | [k], [j], _ =>
            have hkey : j ≠ k := fun h => hne (congrArg (fun k => [k]) h)
            show AList.lookup j (match AList.lookup k m with
              | none => m
              | some a => if gone a then AList.erase k m else m) =
                AList.lookup j m
            cases AList.lookup k m with
            | none => rfl
            | some a =>
                cases hgone : gone a with
                | true => simp [hgone, AList.lookup_erase_ne hkey]
                | false => simp [hgone]
    | succ n ih =>
        match ks, js, hjs with
        | [], j :: js, _ => rfl
        | k :: ks, j :: js, hjs =>
            show (AList.lookup j (match AList.lookup k m with
              | none => m
              | some inner =>
                  if isEmpty (eraseIf gone inner ks) then AList.erase k m
                  else AList.insert k (eraseIf gone inner ks) m)).bind _ =
                (AList.lookup j m).bind _
            cases hk : AList.lookup k m with
            | none => rfl
            | some inner =>
                dsimp only
                by_cases hkey : j = k
                · subst hkey
                  have htail : js ≠ ks := fun h => hne (congrArg (j :: ·) h)
                  have hinner := ih inner htail (Nat.succ.inj hjs)
                  rw [hk, Option.bind_some, ← hinner]
                  split
                  · rename_i hempty
                    rw [AList.lookup_erase, lookup_of_isEmpty hempty]
                    rfl
                  · rw [AList.lookup_insert, Option.bind_some]
                · split
                  · rw [AList.lookup_erase_ne hkey]
                  · rw [AList.lookup_insert_ne hkey]
  · rw [lookup_of_length_ne _ hjs, lookup_of_length_ne _ hjs]

/-!
## No map inside is empty
-/

theorem noneEmpty_empty (n : Nat) :
    NoneEmpty (empty n : NestedMap key value n) := by
  cases n with
  | zero => trivial
  | succ n =>
      intro k inner hk
      cases hk

theorem isEmpty_of_lookup {n : Nat} {m : NestedMap key value n}
    {ks : List key} {a : value} (h : lookup m ks = some a) :
    isEmpty m = false := by
  cases hempty : isEmpty m with
  | false => rfl
  | true => cases (lookup_of_isEmpty hempty ks).symm.trans h

theorem noneEmpty_insert {n : Nat} {m : NestedMap key value (n + 1)}
    (h : NoneEmpty m) {inner : NestedMap key value n}
    (hempty : isEmpty inner = false) (hinner : NoneEmpty inner) (k : key) :
    NoneEmpty (n := n + 1) (AList.insert k inner m) := by
  intro j other hother
  by_cases hkey : j = k
  · subst hkey
    rw [AList.lookup_insert] at hother
    cases hother
    exact ⟨hempty, hinner⟩
  · rw [AList.lookup_insert_ne hkey] at hother
    exact h j other hother

theorem noneEmpty_assign {n : Nat} {m : NestedMap key value n}
    (h : NoneEmpty m) {ks : List key} (hks : ks.length = n + 1) (a : value) :
    NoneEmpty (assign m ks a) := by
  induction n generalizing ks with
  | zero => trivial
  | succ n ih =>
      match ks, hks with
      | k :: ks, hks =>
          have hold : NoneEmpty ((AList.lookup k m).getD (empty n)) := by
            cases hk : AList.lookup k m with
            | none => exact noneEmpty_empty n
            | some inner => exact (h k inner hk).2
          have hself := lookup_assign_self
            ((AList.lookup k m).getD (empty n)) (Nat.succ.inj hks) a
          exact noneEmpty_insert h (isEmpty_of_lookup hself)
            (ih hold (Nat.succ.inj hks)) k

theorem noneEmpty_eraseIf (gone : value -> Bool) {n : Nat}
    {m : NestedMap key value n} (h : NoneEmpty m) (ks : List key) :
    NoneEmpty (eraseIf gone m ks) := by
  induction n generalizing ks with
  | zero => trivial
  | succ n ih =>
      cases ks with
      | nil => exact h
      | cons k ks =>
          show NoneEmpty (n := n + 1) (match AList.lookup k m with
            | none => m
            | some inner =>
                if isEmpty (eraseIf gone inner ks) then AList.erase k m
                else AList.insert k (eraseIf gone inner ks) m)
          cases hk : AList.lookup k m with
          | none => exact h
          | some inner =>
              dsimp only
              split
              · intro j other hother
                by_cases hkey : j = k
                · subst hkey
                  rw [AList.lookup_erase] at hother
                  cases hother
                · rw [AList.lookup_erase_ne hkey] at hother
                  exact h j other hother
              · rename_i hempty
                exact noneEmpty_insert h (Bool.not_eq_true _ ▸ hempty)
                  (ih (h k inner hk).2 ks) k

end NestedMap

end NestedMap

end Foundation
end Streaming
