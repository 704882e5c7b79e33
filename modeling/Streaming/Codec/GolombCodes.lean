import Streaming.Codec.SpsReader

/-!
# Exponential Golomb codes in a parameter set

`parseUe` and `parseSe` count zeros and read as many bits again.  The bits are
read right up to 25 of them; how many more depends on where they begin.
-/

namespace Streaming
namespace Codec

open Foundation Util

/-!
## Counting zeros
-/

/-- The context is sound, and if the bits are said to be plain, there are no 25
zeros in a row among them. -/
def SpsInv (plain : Prop) (h : BitContext) : Prop :=
  h.Sound ∧ (plain -> ¬ List.replicate 25 false <:+: h.unread)

/-- A bit, or -1 where there is none. -/
def IsFlag (v : Int) : Prop :=
  v = -1 ∨ v = 0 ∨ v = 1

section Every

variable {plain : Prop} {h : BitContext} {n : Nat}

theorem SpsInv.advance (hinv : SpsInv plain h) (hn : n <= h.unread.length) :
    SpsInv plain (h.advance n) := by
  refine ⟨hinv.1.advance hn, ?_⟩
  intro hplain hzeros
  rw [BitContext.advance_unread] at hzeros
  exact hinv.2 hplain (hzeros.trans (List.drop_suffix n _).isInfix)

end Every

end Codec
end Streaming
