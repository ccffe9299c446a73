/-!
# Punycode

Labels with characters beyond ASCII are written with ASCII ones: the ASCII characters come first,
and after a hyphen follow digits that say which characters are put in, and where. Every character
is one step of a counter that runs over code points and, within each, over places.
-/

namespace PostSlots.Idna.Punycode

/-- The number of digits. -/
def base : Nat := 36
/-- The least and greatest threshold at which a digit ends a number. -/
def tMin : Nat := 1
def tMax : Nat := 26
/-- How fast the bias follows the size of the steps. -/
def skew : Nat := 38
/-- The damping of the first step. -/
def damp : Nat := 700
def initialBias : Nat := 72
/-- The first code point beyond ASCII. -/
def initialN : Nat := 128
/-- Numbers are 32-bit words. -/
def bound : Nat := Nat.pow 2 32

/-- Halves a step until it is small, and counts the digits that this saves. -/
def damped : Nat → Nat → Nat → Nat
  | 0, delta, k => k + (base - tMin + 1) * delta / (delta + skew)
  | fuel + 1, delta, k =>
    if delta > (base - tMin) * tMax / 2 then damped fuel (delta / (base - tMin)) (k + base)
    else k + (base - tMin + 1) * delta / (delta + skew)

/-- The bias after a step. -/
def adapt (delta points : Nat) (first : Bool) : Nat :=
  let delta := if first then delta / damp else delta / 2
  damped 8 (delta + delta / points) 0

/-- The threshold at place `k`. -/
def threshold (k bias : Nat) : Nat :=
  if k ≤ bias then tMin else if k ≥ bias + tMax then tMax else k - bias

/-- The value of a digit. -/
def digit? (c : Char) : Option Nat :=
  if 'a' ≤ c ∧ c ≤ 'z' then some (c.toNat - 'a'.toNat)
  else if 'A' ≤ c ∧ c ≤ 'Z' then some (c.toNat - 'A'.toNat)
  else if c.isDigit then some (c.toNat - '0'.toNat + 26)
  else none

/-- The digit of a value. -/
def digit (n : Nat) : Char :=
  if n < 26 then Char.ofNat ('a'.toNat + n) else Char.ofNat ('0'.toNat + (n - 26))

/-- Reads a number: its value added to `i`, and the digits behind it. -/
def readStep? (bias : Nat) : Nat → Nat → Nat → List Char → Option (Nat × List Char)
  | _, _, _, [] => none
  | k, w, i, c :: cs => do
    let d ← digit? c
    let i := i + d * w
    if i ≥ bound then none
    else
      let t := threshold k bias
      if d < t then some (i, cs)
      else if w * (base - t) ≥ bound then none
      else readStep? bias (k + base) (w * (base - t)) i cs

/-- Puts in the characters that the digits name. Each turn takes a digit, so their number is fuel
enough. -/
def readSteps? : Nat → Nat → Nat → Nat → List Char → List Char → Option (List Char)
  | _, _, _, _, out, [] => some out
  | 0, _, _, _, _, _ => none
  | fuel + 1, n, i, bias, out, cs => do
    let (j, cs) ← readStep? bias base 1 i cs
    let len := out.length + 1
    let n := n + j / len
    let place := j % len
    if h : n.isValidChar then
      let out := out.insertIdx place (.ofNatAux n h)
      readSteps? fuel n (place + 1) (adapt (j - i) len (i == 0)) out cs
    else none

/-- The label that an encoded label stands for. -/
def decode? (cs : List Char) : Option (List Char) :=
  let back := cs.reverse
  let digits := (back.takeWhile (· != '-')).reverse
  match back.dropWhile (· != '-') with
  | [] => readSteps? cs.length initialN 0 initialBias [] cs
  | _ :: [] => none
  | _ :: basic => readSteps? cs.length initialN 0 initialBias basic.reverse digits

/-- The digits of a number. Each turn divides it by at least ten, so that the fuel suffices for
every word. -/
def writeNumber (bias : Nat) : Nat → Nat → Nat → List Char
  | 0, _, _ => []
  | fuel + 1, k, q =>
    let t := threshold k bias
    if q < t then [digit q]
    else digit (t + (q - t) % (base - t)) :: writeNumber bias fuel (k + base) ((q - t) / (base - t))

/-- The state of writing: the step so far, the bias, and how many characters are written. -/
structure Progress where
  delta : Nat
  bias : Nat
  written : Nat
  out : List Char

/-- One place of the counter: code point `n` at character `c`. -/
def Progress.pass (basic n : Nat) (p : Progress) (c : Char) : Progress :=
  if c.toNat < n then { p with delta := p.delta + 1 }
  else if c.toNat = n then
    { delta := 0
      bias := adapt p.delta (p.written + 1) (p.written == basic)
      written := p.written + 1
      out := p.out ++ writeNumber p.bias 64 base p.delta }
  else p

/-- Writes the characters from code point `n` on; one code point a turn. -/
def writeSteps (cs : List Char) (basic : Nat) : Nat → Nat → Progress → List Char
  | 0, _, p => p.out
  | fuel + 1, n, p =>
    match ((cs.map Char.toNat).filter (n ≤ ·)).min? with
    | none => p.out
    | some m =>
      let p := { p with delta := p.delta + (m - n) * (p.written + 1) }
      let p := cs.foldl (Progress.pass basic m) p
      writeSteps cs basic fuel (m + 1) { p with delta := p.delta + 1 }

/-- The encoded form of a label. -/
def encode (cs : List Char) : List Char :=
  let basic := cs.filter (·.toNat < initialN)
  let start := if basic.isEmpty then [] else basic ++ ['-']
  start ++ writeSteps cs basic.length cs.length initialN ⟨0, initialBias, basic.length, []⟩

example : encode "bücher".toList = "bcher-kva".toList := by decide +kernel

example : decode? "bcher-kva".toList = some "bücher".toList := by decide +kernel

end PostSlots.Idna.Punycode
