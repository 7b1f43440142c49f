/-!
Decimal numbers beside the range of a double: which are too large for a finite one, and
which become too large when a double is multiplied by a power of ten.
-/

namespace ShaderBuild.Decimal

/-- The least whole number that is rounded to infinity: 2^1024 less half a unit of the last
place. -/
def firstInfinite : Nat := 0x3FFFFFFFFFFFFF <<< 970

/-- Whether `significand` times ten to the `exponent` is rounded to infinity. A number of fewer than
308 digits before its point is finite and one of more than 310 is not, whatever the digits. -/
def isInfinite (significand : Nat) (exponent : Int) : Bool :=
  let magnitude : Int := (Nat.toDigits 10 significand).length + exponent
  if significand = 0 ∨ magnitude < 308 then false
  else if 310 < magnitude then true
  else if 0 ≤ exponent then firstInfinite ≤ significand * Nat.pow 10 exponent.toNat
  else firstInfinite * Nat.pow 10 (-exponent).toNat ≤ significand

/-! ## Products -/

/-- The nearest number with 53 bits before its zeros; of two that are equally near the even one. -/
def rounded (n : Nat) : Nat :=
  let excess := n.log2 + 1 - 53
  let unit := 1 <<< excess
  let twice := 2 * (n % unit)
  let whole := n / unit
  if unit < twice ∨ (twice = unit ∧ whole % 2 = 1) then (whole + 1) * unit else whole * unit

/-- Whether the product of the double nearest to `significand` and the one nearest to ten to the
`exponent` is rounded to infinity. -/
def productIsInfinite (significand exponent : Nat) : Bool :=
  firstInfinite ≤ rounded significand * rounded (Nat.pow 10 exponent)

end ShaderBuild.Decimal
