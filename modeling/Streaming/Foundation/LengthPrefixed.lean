import Streaming.Foundation.BigEndian

/-!
# Units behind their lengths

A sequence of units, each behind its own length in a fixed number of bytes.
Every byte string begins with such a sequence; what is left is too short for
another unit.
-/

namespace Streaming
namespace Foundation

/-- A unit behind its length. -/
def withLength (k : Nat) (unit : List UInt8) : List UInt8 :=
  bigEndian k unit.length ++ unit

def encodeUnits (k : Nat) (units : List (List UInt8)) : List UInt8 :=
  units.flatMap (withLength k)

/-- Either the length itself is cut off, or less follows than it says. -/
def Incomplete (k : Nat) (rest : List UInt8) : Prop :=
  rest.length < k ∨ rest.length - k < bigEndianValue (rest.take k)

/-- The lengths of the units fit into their fields. -/
def Sized (k : Nat) (units : List (List UInt8)) : Prop :=
  forall unit, unit ∈ units -> unit.length < 256 ^ k

section Units

variable {k : Nat}

@[simp] theorem encodeUnits_nil : encodeUnits k [] = [] := rfl

@[simp] theorem encodeUnits_cons (unit : List UInt8)
    (units : List (List UInt8)) :
    encodeUnits k (unit :: units) = withLength k unit ++ encodeUnits k units :=
  rfl

theorem take_withLength (unit rest : List UInt8) :
    (withLength k unit ++ rest).take k = bigEndian k unit.length := by
  rw [withLength, List.append_assoc]
  exact List.take_left' (bigEndian_length k _)

theorem drop_withLength (unit rest : List UInt8) :
    (withLength k unit ++ rest).drop k = unit ++ rest := by
  rw [withLength, List.append_assoc]
  exact List.drop_left' (bigEndian_length k _)

/-- What begins with a unit is not incomplete. -/
theorem not_incomplete_withLength {unit : List UInt8} (rest : List UInt8)
    (h : unit.length < 256 ^ k) : ¬ Incomplete k (withLength k unit ++ rest) := by
  have hlength : (withLength k unit ++ rest).length =
      k + unit.length + rest.length := by
    simp [withLength, Nat.add_assoc]
  unfold Incomplete
  rw [take_withLength, bigEndianValue_of_lt h, hlength]
  omega

/-- Unless it is incomplete, a string begins with a unit. -/
theorem exists_unit {bytes : List UInt8} (h : ¬ Incomplete k bytes) :
    exists unit rest, bytes = withLength k unit ++ rest ∧
      unit.length < 256 ^ k := by
  unfold Incomplete at h
  have hk : (bytes.take k).length = k := by
    rw [List.length_take]
    omega
  have hlt := bigEndianValue_lt (bytes.take k)
  rw [hk] at hlt
  have hlength : ((bytes.drop k).take
      (bigEndianValue (bytes.take k))).length =
      bigEndianValue (bytes.take k) := by
    rw [List.length_take, List.length_drop]
    omega
  refine ⟨(bytes.drop k).take (bigEndianValue (bytes.take k)),
    (bytes.drop k).drop (bigEndianValue (bytes.take k)), ?_, ?_⟩
  · have hprefix : bigEndian k (bigEndianValue (bytes.take k)) =
        bytes.take k := by
      have hall := bigEndian_bigEndianValue (bytes.take k)
      rwa [hk] at hall
    rw [withLength, hlength, hprefix, List.append_assoc, List.take_append_drop,
      List.take_append_drop]
  · rw [hlength]
    exact hlt

/-- Every string is a sequence of units and something incomplete. -/
theorem exists_units (hk : 0 < k) (bytes : List UInt8) :
    exists units rest, bytes = encodeUnits k units ++ rest ∧ Sized k units ∧
      Incomplete k rest := by
  induction hn : bytes.length using Nat.strong_induction_on generalizing bytes with
  | _ n ih =>
      by_cases hincomplete : Incomplete k bytes
      · exact ⟨[], bytes, rfl, fun _ h => (by cases h), hincomplete⟩
      · rcases exists_unit hincomplete with ⟨unit, more, rfl, hunit⟩
        have hshorter : more.length < n := by
          rw [← hn]
          simp only [withLength, List.length_append, bigEndian_length]
          omega
        rcases ih more.length hshorter more rfl with
          ⟨units, rest, rfl, hsized, hrest⟩
        refine ⟨unit :: units, rest, ?_, ?_, hrest⟩
        · rw [encodeUnits_cons, List.append_assoc]
        · exact List.forall_mem_cons.mpr ⟨hunit, hsized⟩

theorem withLength_inj {unit unit' rest rest' : List UInt8}
    (hunit : unit.length < 256 ^ k) (hunit' : unit'.length < 256 ^ k)
    (h : withLength k unit ++ rest = withLength k unit' ++ rest') :
    unit = unit' ∧ rest = rest' := by
  have hfront := congrArg (fun bytes => bigEndianValue (bytes.take k)) h
  have hback := congrArg (List.drop k) h
  simp only [take_withLength, bigEndianValue_of_lt hunit,
    bigEndianValue_of_lt hunit'] at hfront
  rw [drop_withLength, drop_withLength] at hback
  exact List.append_inj hback hfront

/-- There is only one way to read a string so. -/
theorem encodeUnits_inj {units units' : List (List UInt8)}
    {rest rest' : List UInt8} (hsized : Sized k units)
    (hsized' : Sized k units') (hrest : Incomplete k rest)
    (hrest' : Incomplete k rest')
    (h : encodeUnits k units ++ rest = encodeUnits k units' ++ rest') :
    units = units' ∧ rest = rest' := by
  induction units generalizing units' with
  | nil =>
      rcases units' with _ | ⟨unit', units'⟩
      · exact ⟨rfl, h⟩
      · rw [encodeUnits_nil, List.nil_append, encodeUnits_cons,
          List.append_assoc] at h
        rw [h] at hrest
        exact absurd hrest (not_incomplete_withLength _
          (hsized' unit' (List.mem_cons_self ..)))
  | cons unit units ih =>
      rcases units' with _ | ⟨unit', units'⟩
      · rw [encodeUnits_nil, List.nil_append, encodeUnits_cons,
          List.append_assoc] at h
        rw [← h] at hrest'
        exact absurd hrest' (not_incomplete_withLength _
          (hsized unit (List.mem_cons_self ..)))
      · rcases List.forall_mem_cons.mp hsized with ⟨hunit, hunits⟩
        rcases List.forall_mem_cons.mp hsized' with ⟨hunit', hunits'⟩
        rw [encodeUnits_cons, encodeUnits_cons, List.append_assoc,
          List.append_assoc] at h
        rcases withLength_inj hunit hunit' h with ⟨rfl, hmore⟩
        rcases ih hunits hunits' hmore with ⟨rfl, hsame⟩
        exact ⟨rfl, hsame⟩

end Units

end Foundation
end Streaming
