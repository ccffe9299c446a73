import PostSlots.Decimal.Binary64

/-!
# Decimals by steps of doubles

A decimal can be made a double without exact arithmetic: the digits become a double, which is then
multiplied with a power of ten or divided by one. Each step rounds, so that the result need not be
the nearest double, and a decimal next to the largest double may leave the range.
-/

namespace PostSlots.Decimal.Binary64

/-- The product of two doubles, rounded, or `none` beyond the largest one. -/
def mul? (x y : Binary64) : Option Binary64 :=
  ofRatio? (x.negative != y.negative) (x.units * y.units) (unitsPerOne * unitsPerOne)

/-- The quotient by a double that is not zero, rounded, or `none` beyond the largest one. -/
def div? (x y : Binary64) : Option Binary64 :=
  ofRatio? (x.negative != y.negative) x.units y.units

/-- The exponent of the largest power of ten that is in the range of doubles. -/
def topExponent : Nat := 308

/-- The double nearest to `10 ^ k`. -/
def tenPower? (k : Nat) : Option Binary64 :=
  ofRatio? false (Nat.pow 10 k) 1

/-- Multiplies with a power of ten. -/
def timesTenPower? (k : Nat) (x : Binary64) : Option Binary64 :=
  (tenPower? k).bind x.mul?

/-- Divides by a power of ten. -/
def overTenPower? (k : Nat) (x : Binary64) : Option Binary64 :=
  (tenPower? k).bind x.div?

/-- Divides by the top power again and again, as long as something is left. -/
def overTopPowers? : (times : Nat) → Binary64 → Option Binary64
  | 0, x => some x
  | times + 1, x =>
    if x.isZero then some x else (x.overTenPower? topExponent).bind (overTopPowers? times)

/-- The double that the steps for `± digits · 10 ^ exponent` lead to, or `none` if they leave the
range. A small enough exponent takes several divisions, of which the last one may be by less than
the top power. -/
def stepwise? (negative : Bool) (digits : Nat) (exponent : Int) : Option Binary64 := do
  let x ← ofRatio? negative digits 1
  match exponent with
  | .ofNat k =>
    if k ≤ topExponent then x.timesTenPower? k else if x.isZero then some x else none
  | .negSucc k => (← x.overTopPowers? (k / topExponent)).overTenPower? (k % topExponent + 1)

-- One unit in the last place above the double nearest to `1.602176634e-19`.
example : (stepwise? false 1602176634 (-28)).map units =
    (ofDecimal? false 1602176634 (-28)).map fun x => (x.significand + 1) * Nat.pow 2 x.scale := by
  decide +kernel

-- The double nearest to `1.7976931348623158e308` is the largest one, and the steps overshoot it.
example : stepwise? false 17976931348623158 292 = none := by decide +kernel

end PostSlots.Decimal.Binary64
