import Streaming.Foundation.Bits

/-!
# Exponential Golomb codes

A number is written one more, in binary, behind as many zeros as there are bits
after its first.  Signed numbers are numbered 0, 1, -1, 2, -2 and so on.
-/

namespace Streaming
namespace Foundation

/-- The zeros in front of the code of a number. -/
def leadingZeros (k : Nat) : Nat :=
  (k + 1).log2

def expGolomb (k : Nat) : List Bool :=
  List.replicate (leadingZeros k) false ++ true :: binary (leadingZeros k) (k + 1)

def signedNumber (v : Int) : Nat :=
  if 0 < v then (2 * v - 1).toNat else (-2 * v).toNat

def expGolombSigned (v : Int) : List Bool :=
  expGolomb (signedNumber v)

end Foundation
end Streaming
