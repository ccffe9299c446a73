import PostSlots.Decimal.Binary64

/-!
# The shortest decimal of a double

A decimal reads back as a double when it lies in the interval of the reals that round to it (ends
included for an even significand). `shortest` takes the coarsest power of ten that has a multiple
in that interval, hence the fewest digits, and of its multiples the one nearest to the double,
an exact tie going to the even digit.
-/

namespace PostSlots.Decimal.Binary64

/-- The interval of reals that round to a double, in quarter units. -/
structure Interval where
  lower : Nat
  value : Nat
  upper : Nat
  closed : Bool

/-- The neighbours of `x` are one step away, except below a power of two, where the gap is half
a step. -/
def interval (x : Binary64) : Interval :=
  let step := Nat.pow 2 x.scale
  let below := if x.significand = Nat.pow 2 52 ∧ 0 < x.scale then step else 2 * step
  let value := 4 * x.units
  ⟨value - below, value, value + 2 * step, x.significand % 2 = 0⟩

/-- `c · 10 ^ k` lies in the interval. -/
def Interval.contains (i : Interval) (c : Nat) (k : Int) : Bool :=
  let up := Nat.pow 10 (-k).toNat
  let point := c * Nat.pow 10 k.toNat * (4 * unitsPerOne)
  if i.closed then i.lower * up ≤ point && point ≤ i.upper * up
  else i.lower * up < point && point < i.upper * up

/-- The multiple of `10 ^ k` in the interval that is nearest to its value. -/
def Interval.nearest? (i : Interval) (k : Int) : Option Nat :=
  let num := i.value * Nat.pow 10 (-k).toNat
  let den := 4 * unitsPerOne * Nat.pow 10 k.toNat
  let c := num / den
  match i.contains c k && c != 0, i.contains (c + 1) k with
  | true, true => some (roundHalfEven num den)
  | true, false => some c
  | false, true => some (c + 1)
  | false, false => none

/-- Tries the powers `10 ^ k`, `10 ^ (k - 1)`, … in turn. -/
def Interval.coarsest (i : Interval) : Nat → Int → Nat × Int
  | 0, k => (0, k)
  | fuel + 1, k =>
    match i.nearest? k with
    | some c => (c, k)
    | none => i.coarsest fuel (k - 1)

/-- A power of ten above the magnitude of `x`: `30103 / 100000` exceeds the decimal logarithm
of two. -/
def ceilingExponent (x : Binary64) : Int :=
  let bits : Int := (x.units.log2 : Int) + 1 - 1074
  if bits ≥ 0 then bits * 30103 / 100000 + 1 else bits * 30102 / 100000 + 1

/-- The digits `c` and exponent `k` of the shortest decimal `c · 10 ^ k` that reads back as the
magnitude of a nonzero `x`. Every double is a multiple of `10 ^ -1074`, which bounds the search. -/
def shortest (x : Binary64) : Nat × Int :=
  let k := x.ceilingExponent
  x.interval.coarsest (k + 1075).toNat k

example : (ofDecimal? false 1 (-1)).map shortest = some (1, -1) := by decide +kernel

end PostSlots.Decimal.Binary64
