import Streaming.Codec.SpsSyntax

/-!
# Parameter sets are read as they are written

Each function of the parser reads the bits of its fields and stores them.  The
function for the whole set then reads what the writer has put together.
-/

namespace Streaming
namespace Codec

open Foundation Util BitSource

/-!
## Single fields
-/

section Factors

variable {scan jvt : List Nat} {iSize : Nat}

end Factors

namespace SeqParameterSet

variable {s : SeqParameterSet} {t : Sps}

/-- What the parser works out of the fields before is what the writer means. -/
structure Agrees (s : SeqParameterSet) (t : Sps) : Prop where
  chroma : t.iChromaFormatIdc = s.chromaFormatIdc
  depth : t.iBitDepthLuma = s.bitDepth
  width : t.iMbWidth = s.picWidthInMbsMinus1 + 1
  height : t.iMbHeight = s.picHeightInMapUnitsMinus1 + 1
  frames : t.iFrameMbsOnlyFlag = flagValue s.frameMbsOnly

theorem Agrees.stepX (h : s.Agrees t) : stepX t = s.cropUnitX := by
  unfold Codec.stepX cropUnitX
  rw [h.chroma]
  split <;> split <;> first | rfl | omega

theorem Agrees.stepY (h : s.Agrees t) : stepY t = s.cropUnitY := by
  have hchroma : (t.iChromaFormatIdc = 1) = (s.chromaFormatIdc = 1) := by
    rw [h.chroma]
    exact propext Nat.cast_eq_one
  unfold Codec.stepY cropUnitY
  simp only [hchroma, h.frames]
  cases s.frameMbsOnly <;> split <;> rfl

theorem Agrees.alignedLeft (h : s.Agrees t) (c : Cropping) :
    alignedLeft t c.left = s.keptLeft c := by
  have hmask : forall x k : Nat, x &&& (2 ^ k - 1) = x % 2 ^ k :=
    fun x k => Nat.and_two_pow_sub_one_eq_mod x k
  unfold Codec.alignedLeft keptLeft
  rw [h.depth]
  split <;> split
  · exact congrArg (c.left - ·) (hmask c.left 4)
  · omega
  · omega
  · exact congrArg (c.left - ·) (hmask c.left 5)

end SeqParameterSet

/-!
## Usability information
-/

namespace Vui

variable {v : Vui} {t : Sps}

end Vui

/-!
## The whole set
-/

namespace SeqParameterSet

variable {s : SeqParameterSet} {t : Sps}

theorem trailingBits_length (n : Nat) :
    0 < (trailingBits n).length ∧ 8 ∣ n + (trailingBits n).length := by
  rw [trailingBits, List.length_cons, List.length_replicate]
  omega

theorem aligned (s : SeqParameterSet) :
    8 ∣ (s.bits ++ trailingBits s.bits.length).length := by
  rw [List.length_append]
  exact (trailingBits_length _).2

end SeqParameterSet

end Codec
end Streaming
