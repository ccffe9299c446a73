import PostSlots.Decimal.Binary64

/-!
# Decimal numerals

Unsigned 64-bit words and numbers with an exponent, read from a whole token.
-/

namespace PostSlots.Decimal

/-- The value of a list of decimal digits. -/
def ofDigits (ds : List Char) : Nat :=
  ds.foldl (fun n c => 10 * n + (c.toNat - '0'.toNat)) 0

/-- Reads one or more decimal digits, and nothing else. -/
def readDigits? (cs : List Char) : Option Nat :=
  if !cs.isEmpty && cs.all Char.isDigit then some (ofDigits cs) else none

/-- The bound of unsigned 64-bit words. -/
def wordBound : Nat := Nat.pow 2 64

/-- Drops one leading plus sign. -/
def dropPlus : List Char → List Char
  | '+' :: cs => cs
  | cs => cs

/-- Reads an unsigned 64-bit word: an optional plus sign and decimal digits. -/
def readWord? (cs : List Char) : Option Nat :=
  match readDigits? (dropPlus cs) with
  | some n => if n < wordBound then some n else none
  | none => none

/-- Splits off a leading sign; `true` stands for minus. -/
def takeSign : List Char → Bool × List Char
  | '-' :: cs => (true, cs)
  | '+' :: cs => (false, cs)
  | cs => (false, cs)

/-- A decimal number `± digits · 10 ^ exponent`. -/
structure Numeral where
  negative : Bool
  digits : Nat
  exponent : Int
deriving DecidableEq

/-- Reads what follows the digits: nothing, or an exponent. -/
def readExponent? : List Char → Option Int
  | [] => some 0
  | e :: cs =>
    if e = 'e' ∨ e = 'E' then
      let (negative, ds) := takeSign cs
      (readDigits? ds).map fun n => if negative then -(n : Int) else n
    else none

/-- Splits off the digits behind a point, if there is one. -/
def takeFraction : List Char → List Char × List Char
  | '.' :: cs => (cs.takeWhile Char.isDigit, cs.dropWhile Char.isDigit)
  | cs => ([], cs)

/-- Reads a number: a sign, digits with a point among them, and an exponent, of which only one digit
must be there. -/
def Numeral.read? (cs : List Char) : Option Numeral :=
  let (negative, rest) := takeSign cs
  let (fraction, tail) := takeFraction (rest.dropWhile Char.isDigit)
  match readDigits? (rest.takeWhile Char.isDigit ++ fraction), readExponent? tail with
  | some digits, some exponent => some ⟨negative, digits, exponent - fraction.length⟩
  | _, _ => none

/-- The nearest double. -/
def Numeral.toBinary64? (n : Numeral) : Option Binary64 :=
  Binary64.ofDecimal? n.negative n.digits n.exponent

/-! ## What is a numeral -/

section
variable {c : Char} {cs : List Char}

theorem dropPlus_of_ne (hplus : c ≠ '+') (cs : List Char) : dropPlus (c :: cs) = c :: cs := by
  unfold dropPlus
  split
  · next heq => exact absurd (List.cons.inj heq).1 hplus
  · rfl

theorem takeSign_of_ne (hplus : c ≠ '+') (hminus : c ≠ '-') (cs : List Char) :
    takeSign (c :: cs) = (false, c :: cs) := by
  unfold takeSign
  split
  · next heq => exact absurd (List.cons.inj heq).1 hminus
  · next heq => exact absurd (List.cons.inj heq).1 hplus
  · rfl

theorem takeFraction_of_ne (hpoint : c ≠ '.') (cs : List Char) :
    takeFraction (c :: cs) = ([], c :: cs) := by
  unfold takeFraction
  split
  · next heq => exact absurd (List.cons.inj heq).1 hpoint
  · rfl

theorem readDigits?_of_isDigit (hne : cs ≠ []) (hcs : ∀ c ∈ cs, c.isDigit = true) :
    readDigits? cs = some (ofDigits cs) := by
  rw [readDigits?, if_pos]
  simpa [hne] using hcs

theorem readDigits?_of_head (hdigit : c.isDigit = false) (cs : List Char) :
    readDigits? (c :: cs) = none := by
  rw [readDigits?, if_neg]
  simp [hdigit]

theorem ofDigits_toDigits (n : Nat) : ofDigits (Nat.toDigits 10 n) = n :=
  Nat.ofDigitChars_eq_foldl.symm.trans Nat.ofDigitChars_ten_toDigits

theorem dropPlus_of_isDigit (hcs : ∀ c ∈ cs, c.isDigit = true) : dropPlus cs = cs := by
  cases cs with
  | nil => rfl
  | cons c cs =>
    have hc : c.isDigit = true := hcs c List.mem_cons_self
    exact dropPlus_of_ne (by rintro rfl; exact absurd hc (by decide)) cs

theorem takeSign_of_isDigit (hcs : ∀ c ∈ cs, c.isDigit = true) : takeSign cs = (false, cs) := by
  cases cs with
  | nil => rfl
  | cons c cs =>
    have hc : c.isDigit = true := hcs c List.mem_cons_self
    exact takeSign_of_ne (by rintro rfl; exact absurd hc (by decide))
      (by rintro rfl; exact absurd hc (by decide)) cs

/-- Decimal digits are read as the word that they denote, if they denote one. -/
theorem readWord?_of_isDigit (hne : cs ≠ []) (hcs : ∀ c ∈ cs, c.isDigit = true) :
    readWord? cs = if ofDigits cs < wordBound then some (ofDigits cs) else none := by
  rw [readWord?, dropPlus_of_isDigit hcs, readDigits?_of_isDigit hne hcs]

/-- The decimal digits of a word are read as that word. -/
theorem readWord?_toDigits {n : Nat} (hn : n < wordBound) :
    readWord? (Nat.toDigits 10 n) = some n := by
  have hdigits : ∀ c ∈ Nat.toDigits 10 n, c.isDigit = true := fun c hc =>
    Nat.isDigit_of_mem_toDigits (by decide) (by decide) hc
  rw [readWord?_of_isDigit Nat.toDigits_ne_nil hdigits, ofDigits_toDigits, if_pos hn]

/-- Decimal digits are read as the number that they denote. -/
theorem Numeral.read?_of_isDigit (hne : cs ≠ []) (hcs : ∀ c ∈ cs, c.isDigit = true) :
    Numeral.read? cs = some ⟨false, ofDigits cs, 0⟩ := by
  have htake : cs.takeWhile Char.isDigit = cs := by
    have hall : (cs ++ []).takeWhile Char.isDigit = cs ++ [] := List.takeWhile_append_of_pos hcs
    rwa [List.append_nil] at hall
  have hdrop : cs.dropWhile Char.isDigit = [] := by
    have hall : (cs ++ []).dropWhile Char.isDigit = [] := List.dropWhile_append_of_pos hcs
    rwa [List.append_nil] at hall
  have hread : readDigits? (cs ++ []) = some (ofDigits cs) := by
    rw [List.append_nil, readDigits?_of_isDigit hne hcs]
  simp only [Numeral.read?, takeSign_of_isDigit hcs, htake, hdrop, takeFraction, hread,
    readExponent?]
  rfl

/-- What starts with neither a digit nor a plus sign is no word. -/
theorem readWord?_of_head (hdigit : c.isDigit = false) (hplus : c ≠ '+') (cs : List Char) :
    readWord? (c :: cs) = none := by
  rw [readWord?, dropPlus_of_ne hplus, readDigits?_of_head hdigit]

/-- What starts with neither a digit nor a sign nor a point is no number. -/
theorem Numeral.read?_of_head (hdigit : c.isDigit = false) (hplus : c ≠ '+') (hminus : c ≠ '-')
    (hpoint : c ≠ '.') (cs : List Char) : Numeral.read? (c :: cs) = none := by
  have htake : (c :: cs).takeWhile Char.isDigit = [] := by
    rw [List.takeWhile_cons, hdigit]; rfl
  have hdrop : (c :: cs).dropWhile Char.isDigit = c :: cs := by
    rw [List.dropWhile_cons, hdigit]; rfl
  simp only [Numeral.read?, takeSign_of_ne hplus hminus, htake, hdrop, takeFraction_of_ne hpoint]
  rfl

end

example : readWord? "+007".toList = some 7 ∧ readWord? "18446744073709551616".toList = none := by
  decide

example : Numeral.read? "-12e+3".toList = some ⟨true, 12, 3⟩ ∧
    Numeral.read? ".50".toList = some ⟨false, 50, -2⟩ ∧ Numeral.read? ".".toList = none := by
  decide

end PostSlots.Decimal
