/-!
# Finite doubles

A finite binary64 number is a sign and a whole multiple of `2 ^ -1074`, the least positive double.
Keeping that multiple as `significand · 2 ^ scale` makes every comparison a comparison of natural
numbers. `ofRatio?` rounds a quotient to the nearest double, ties to the even significand.
-/

namespace PostSlots.Decimal

/-- The significand and scale of a double in its one normal form: the significand has 53 bits,
or fewer at the least scale. -/
def NormalForm (significand scale : Nat) : Prop :=
  significand < Nat.pow 2 53 ∧ scale ≤ 2045 ∧ (Nat.pow 2 52 ≤ significand ∨ scale = 0)

instance (significand scale : Nat) : Decidable (NormalForm significand scale) :=
  inferInstanceAs (Decidable (_ ∧ _ ∧ _))

/-- A finite double: `± significand · 2 ^ scale` units of `2 ^ -1074`. -/
structure Binary64 where
  negative : Bool
  significand : Nat
  scale : Nat
  normal : NormalForm significand scale
deriving DecidableEq

namespace Binary64

/-- The number of units in one: doubles are whole multiples of `1 / unitsPerOne`. -/
def unitsPerOne : Nat := Nat.pow 2 1074

/-- The magnitude in units of `2 ^ -1074`. -/
def units (x : Binary64) : Nat :=
  x.significand * Nat.pow 2 x.scale

/-- Zero of the given sign. -/
def zero (negative : Bool) : Binary64 :=
  ⟨negative, 0, 0, by decide⟩

instance : Inhabited Binary64 := ⟨zero false⟩

/-- The double of a significand and scale, if they are in normal form. -/
def ofNormalForm? (negative : Bool) (significand scale : Nat) : Option Binary64 :=
  if h : NormalForm significand scale then some ⟨negative, significand, scale, h⟩ else none

/-- The whole number nearest to `num / den`, a half going to the even neighbour. -/
def roundHalfEven (num den : Nat) : Nat :=
  let q := num / den
  let r := num % den
  if 2 * r < den then q
  else if 2 * r > den then q + 1
  else if q % 2 = 0 then q else q + 1

/-- The scale at which a magnitude of `units` whole units keeps 53 bits. -/
def scaleFor (units : Nat) : Nat :=
  if units < Nat.pow 2 53 then 0 else units.log2 - 52

/-- The double nearest to `num / den`, or `none` beyond the largest one. -/
def ofRatio? (negative : Bool) (num den : Nat) : Option Binary64 :=
  let scaled := num * unitsPerOne
  let scale := scaleFor (scaled / den)
  let significand := roundHalfEven scaled (den * Nat.pow 2 scale)
  if significand = Nat.pow 2 53 then ofNormalForm? negative (Nat.pow 2 52) (scale + 1)
  else ofNormalForm? negative significand scale

/-- Decimal exponents beyond this bound leave the range of doubles whatever the digits are. -/
def exponentBound : Nat := 400

/-- The double nearest to `± digits · 10 ^ exponent`, or `none` beyond the largest one. The first
three cases hold whatever the rounding, and keep the powers of ten small. -/
def ofDecimal? (negative : Bool) (digits : Nat) (exponent : Int) : Option Binary64 :=
  if digits = 0 then some (zero negative)
  else if exponent > exponentBound then none
  else if -exponent > exponentBound + digits.log2 + 1 then some (zero negative)
  else if exponent ≥ 0 then ofRatio? negative (digits * Nat.pow 10 exponent.toNat) 1
  else ofRatio? negative digits (Nat.pow 10 (-exponent).toNat)

/-- No fractional part. -/
def isWhole (x : Binary64) : Bool :=
  x.units % unitsPerOne == 0

/-- The whole part of the magnitude. -/
def floor (x : Binary64) : Nat :=
  x.units / unitsPerOne

def isZero (x : Binary64) : Bool :=
  x.significand == 0

example : (ofDecimal? false 9007199254740993 0).map floor = some 9007199254740992 := by
  decide +kernel

end Binary64

end PostSlots.Decimal
