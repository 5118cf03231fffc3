import AuthGateway.Decimal.Shortest

/-!
The binary floating-point number nearest to a decimal one, found by exact
arithmetic; a tie goes to the even significand.
-/
namespace AuthGateway.Decimal

/-- The exponent of the last bit of the significand nearest to a ratio: the
significand has fifty-three bits, or fewer where numbers are subnormal. -/
def lastBitExponent (r : Ratio) : Int :=
  let guess : Int := (r.num.log2 : Int) - (r.den.log2 : Int) - 52
  let scaled := r.times2 (-guess)
  max (if scaled.num < firstBit * scaled.den then guess - 1 else guess) (-1074)

/-- The bits of the number nearest to a ratio, those of infinity if it is too
large. The exponent counts from that of subnormal numbers, and a significand of
fifty-three bits adds its first bit to it. -/
def nearestBits (r : Ratio) : Nat :=
  let e := lastBitExponent r
  min ((e + 1074).toNat * firstBit + (r.times2 (-e)).rounded) infinityBits

/-- The nearest number to `coefficient * 10 ^ exponent`. Exponents beyond the
range of all numbers are settled without computing their power. -/
def toFloat (coefficient : Nat) (exponent : Int) : Float :=
  let top := exponent + ((natChars coefficient).length : Int)
  if coefficient = 0 ∨ top < -400 then 0.0
  else if 400 < top then 1.0 / 0.0
  else Float.ofBits (UInt64.ofNat (nearestBits (Ratio.times10 ⟨coefficient, 1⟩ exponent)))

end AuthGateway.Decimal
