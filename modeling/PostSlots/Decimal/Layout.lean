import PostSlots.Decimal.Shortest

/-!
# Writing decimals

A decimal is written positionally while the exponent of its first digit lies in the layout's
range, and with an exponent outside it.
-/

namespace PostSlots.Decimal

/-- The decimal digits of a natural number. -/
def digitsOf (n : Nat) : List Char :=
  Nat.toDigits 10 n

/-- An integer in decimal digits after its sign. -/
def intText : Int → List Char
  | .ofNat n => digitsOf n
  | .negSucc n => '-' :: digitsOf (n + 1)

/-- Which exponents of the first digit are written positionally: those from `least` on that are
below `bound`. -/
structure Layout where
  least : Int
  bound : Int

/-- `digits · 10 ^ k` with a point and at least one digit on each side of it. -/
def positional (digits : List Char) (k : Int) : List Char :=
  let whole := digits.length + k
  if 0 ≤ k then digits ++ List.replicate k.toNat '0' ++ ['.', '0']
  else if 0 < whole then digits.take whole.toNat ++ '.' :: digits.drop whole.toNat
  else ['0', '.'] ++ List.replicate (-whole).toNat '0' ++ digits

/-- The first digit, a point before further digits, and the exponent with its sign. -/
def scientific (digits : List Char) (exponent : Int) : List Char :=
  let mantissa := match digits with
    | d :: e :: rest => d :: '.' :: e :: rest
    | ds => ds
  let sign := if exponent < 0 then '-' else '+'
  mantissa ++ 'e' :: sign :: digitsOf exponent.natAbs

/-- `digits · 10 ^ k` as the layout has it. -/
def Layout.write (l : Layout) (digits : List Char) (k : Int) : List Char :=
  let exponent := k + digits.length - 1
  if l.least ≤ exponent ∧ exponent < l.bound then positional digits k
  else scientific digits exponent

/-- The shortest decimal of a double, as the layout has it. -/
def Layout.writeDouble (l : Layout) (x : Binary64) : List Char :=
  let body := if x.isZero then ['0', '.', '0'] else
    let (c, k) := x.shortest
    l.write (digitsOf c) k
  if x.negative then '-' :: body else body

example : positional ['1', '5'] (-3) = "0.015".toList := by decide

end PostSlots.Decimal
