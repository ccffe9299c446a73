import PostSlots.Json.Reader
import PostSlots.Proofs.Decimal.Stepwise

/-!
# Short decimals in JSON

The digits of a number are kept as long as they fit into a word, and its double is reached in steps.
A decimal that is short enough loses no digit and is rounded once, so that it is read as the double
nearest to it, wherever it stands in a text.

Results:
1. `Json.Reader.takeWord_of_lt`: digits that fit into a word are all kept.
2. `Json.ShortDecimal.readNumber_eq`: what is made of digits on both sides of a point.
3. `Json.ShortDecimal.readValue_eq`: a short decimal in a text is read as the nearest double.
4. `Json.ShortDecimal.parse_text`: so is a text that is a short decimal.
-/

namespace PostSlots.Json

open Decimal

/-- Digits on both sides of a point, with no zero in front of others. They denote a whole number of
53 bits at most, divided by a power of ten that is a double. -/
structure ShortDecimal where
  negative : Bool
  whole : List Char
  fraction : List Char
  isDigit_of_mem_whole : ∀ c ∈ whole, c.isDigit = true
  isDigit_of_mem_fraction : ∀ c ∈ fraction, c.isDigit = true
  whole_ne_nil : whole ≠ []
  fraction_ne_nil : fraction ≠ []
  length_of_zero : whole.head? = some '0' → whole.length = 1
  significand_le : ofDigits (whole ++ fraction) ≤ 2 ^ 53
  places_le : fraction.length ≤ Binary64.exactExponent

-- -12.5
example : ∃ d : ShortDecimal, d.negative = true ∧ ofDigits (d.whole ++ d.fraction) = 125 :=
  ⟨⟨true, ['1', '2'], ['5'], by simp, by simp, by decide, by decide, by decide, by decide,
    by decide⟩, rfl, rfl⟩

namespace Reader

/-! ## Digits -/

/-- The number that digits make behind a number. -/
def appended (n : Nat) (ds : List Char) : Nat :=
  ds.foldl (fun n c => 10 * n + (c.toNat - '0'.toNat)) n

theorem appended_ofDigits (cs ds : List Char) : appended (ofDigits cs) ds = ofDigits (cs ++ ds) :=
  List.foldl_append.symm

theorem le_appended (n : Nat) (ds : List Char) : n ≤ appended n ds := by
  induction ds generalizing n with
  | nil => exact Nat.le_refl n
  | cons d ds ih =>
    have hnext : 10 * n + (d.toNat - '0'.toNat) ≤ appended n (d :: ds) := ih _
    omega

/-- Digits that fit into a word are all kept. -/
theorem takeWord_of_lt {n : Nat} {ds : List Char} (h : appended n ds < wordBound) :
    takeWord n ds = (appended n ds, []) := by
  induction ds generalizing n with
  | nil => rfl
  | cons d ds ih =>
    have hnext : 10 * n + (d.toNat - '0'.toNat) < wordBound :=
      Nat.lt_of_le_of_lt (le_appended _ ds) h
    rw [takeWord, if_pos hnext]
    exact ih h

theorem takeDigits_append {ds rest : List Char} (hds : ∀ c ∈ ds, c.isDigit = true)
    (hrest : ∀ c ∈ rest.head?, c.isDigit = false) (line column : Nat) :
    takeDigits ⟨ds ++ rest, line, column⟩ = (ds, ⟨rest, line, column + ds.length⟩) := by
  obtain ⟨htake, hdrop⟩ :
      rest.takeWhile Char.isDigit = [] ∧ rest.dropWhile Char.isDigit = rest := by
    cases rest with
    | nil => exact ⟨rfl, rfl⟩
    | cons c cs => simp [hrest c rfl]
  simp only [takeDigits, List.takeWhile_append_of_pos hds, List.dropWhile_append_of_pos hds, htake,
    hdrop, List.append_nil]

/-- What comes next is no part of a number. -/
def EndsNumber (rest : List Char) : Prop :=
  ∀ c ∈ rest.head?, c.isDigit = false ∧ c ≠ 'e' ∧ c ≠ 'E'

/-! ## Values -/

theorem skipSpace_of_isDigit {c : Char} (h : c.isDigit = true) (cs : List Char)
    (line column : Nat) :
    Cursor.skipSpace ⟨c :: cs, line, column⟩ = ⟨c :: cs, line, column⟩ := by
  have hspace : ¬isSpace c = true := by
    intro hspace
    simp only [isSpace, Bool.or_eq_true, beq_iff_eq] at hspace
    obtain ((rfl | rfl) | rfl) | rfl := hspace <;> exact absurd h (by decide)
  exact if_neg hspace

/-- A minus starts a number behind it. -/
theorem readValue_minus (fuel depth : Nat) (cs : List Char) (line column : Nat) :
    readValue (fuel + 1) depth ⟨'-' :: cs, line, column⟩ =
      (readNumber true ⟨cs, line, column + 1⟩).map fun (n, cur) => (number n, cur) := by
  unfold readValue
  rfl

/-- A digit starts a number. -/
theorem readValue_of_isDigit {c : Char} (h : c.isDigit = true) (cs : List Char)
    (fuel depth line column : Nat) :
    readValue (fuel + 1) depth ⟨c :: cs, line, column⟩ =
      (readNumber false ⟨c :: cs, line, column⟩).map fun (n, cur) => (number n, cur) := by
  unfold readValue
  rw [skipSpace_of_isDigit h]
  dsimp only
  split <;> simp_all

end Reader

open Reader

namespace ShortDecimal

variable (d : ShortDecimal)

/-- The whole number that all digits denote. -/
def significand : Nat := ofDigits (d.whole ++ d.fraction)

/-- The nearest double. -/
def nearest? : Option Binary64 :=
  Binary64.ofDecimal? d.negative d.significand (-d.fraction.length)

/-- The characters behind the sign. -/
def body : List Char := d.whole ++ '.' :: d.fraction

/-- All characters. -/
def chars : List Char := if d.negative then '-' :: d.body else d.body

/-! ## Numbers -/

theorem significand_lt : d.significand < wordBound :=
  Nat.lt_of_le_of_lt d.significand_le (by decide +kernel)

/-- The digits in front of the point fit into a word, and so do all digits. -/
theorem takeWord_eq :
    takeWord 0 d.whole = (ofDigits d.whole, []) ∧
      takeWord (ofDigits d.whole) d.fraction = (d.significand, []) := by
  have hword : appended (ofDigits d.whole) d.fraction < wordBound := by
    rw [appended_ofDigits]
    exact d.significand_lt
  constructor
  · exact takeWord_of_lt (Nat.lt_of_le_of_lt (le_appended _ _) hword)
  · rw [takeWord_of_lt hword, appended_ofDigits, significand]

/-- Behind its sign, a short decimal makes a double of all its digits. -/
theorem readNumber_eq {rest : List Char} (hrest : EndsNumber rest) (negative : Bool)
    (line column : Nat) :
    readNumber negative ⟨d.body ++ rest, line, column⟩ =
      finishDouble negative d.significand (-d.fraction.length)
        ⟨rest, line, column + d.body.length⟩ := by
  have hbody : d.body ++ rest = d.whole ++ '.' :: (d.fraction ++ rest) := by
    rw [body, List.append_assoc, List.cons_append]
  have hcolumn : column + d.whole.length + 1 + d.fraction.length = column + d.body.length := by
    rw [body, List.length_append, List.length_cons]
    omega
  have hpointHead : ∀ c ∈ ('.' :: (d.fraction ++ rest)).head?, c.isDigit = false := by
    rintro _ ⟨⟩
    decide
  have hbefore := takeDigits_append d.isDigit_of_mem_whole hpointHead line column
  have hbehind := takeDigits_append d.isDigit_of_mem_fraction (fun c hc => (hrest c hc).1) line
    (column + d.whole.length + 1)
  have hpoint : Cursor.past ⟨'.' :: (d.fraction ++ rest), line, column + d.whole.length⟩ '.'
      (d.fraction ++ rest) = ⟨d.fraction ++ rest, line, column + d.whole.length + 1⟩ := rfl
  have hexponent : ((([] : List Char).length : Int) -
      ((d.fraction.length : Int) - (([] : List Char).length : Int))) = -d.fraction.length := by
    rw [List.length_nil]
    omega
  have hsome : d.fraction.isEmpty = false := by simpa using d.fraction_ne_nil
  obtain ⟨hfirst, hsecond⟩ := d.takeWord_eq
  rw [hcolumn] at hbehind
  unfold readNumber
  rw [hbody, hbefore]
  dsimp only
  split
  · next hnil => exact absurd hnil d.whole_ne_nil
  · next hzero => exact absurd (d.length_of_zero (by rw [hzero]; rfl)) (by simp [hzero])
  · simp only [hfirst, hpoint, hbehind, hsecond, hsome, hexponent, Bool.false_eq_true, if_false]
    cases rest with
    | nil => rfl
    | cons c cs =>
      obtain ⟨-, hsmall, hlarge⟩ := hrest c rfl
      exact if_neg (not_or.2 ⟨hsmall, hlarge⟩)

/-- The steps for a short decimal end in the nearest double. -/
theorem finishDouble_eq (cur : Cursor) :
    ∃ x, d.nearest? = some x ∧
      finishDouble d.negative d.significand (-d.fraction.length) cur = .ok (.double x, cur) := by
  have hpos : 0 < d.fraction.length := List.length_pos_iff.2 d.fraction_ne_nil
  have hplaces := d.places_le
  have hsmall : (-d.fraction.length : Int).natAbs ≤ Binary64.exactExponent := by omega
  have hneg : (-d.fraction.length : Int) < 0 := by omega
  have hnearest := Binary64.stepwise?_eq_ofDecimal? d.negative d.significand_le hsmall
  have hword : d.significand ≤ wordBound := Nat.le_of_lt d.significand_lt
  obtain ⟨x, hx⟩ := Binary64.exists_stepwise?_of_neg d.negative hword hneg
  refine ⟨x, hnearest.symm.trans hx, ?_⟩
  rw [finishDouble, hx, Option.elim_some]

/-- What a short decimal starts with behind its sign is a digit. -/
theorem exists_body_eq_cons : ∃ c cs, d.body = c :: cs ∧ c.isDigit = true := by
  obtain ⟨c, cs, hwhole⟩ := List.exists_cons_of_ne_nil d.whole_ne_nil
  have hdigit := d.isDigit_of_mem_whole c (by rw [hwhole]; exact List.mem_cons_self)
  exact ⟨c, cs ++ '.' :: d.fraction, by rw [body, hwhole, List.cons_append], hdigit⟩

/-- A short decimal in a text is read as the nearest double, however deep it stands. -/
theorem readValue_eq {rest : List Char} (hrest : EndsNumber rest) (fuel depth line column : Nat) :
    ∃ x, d.nearest? = some x ∧
      readValue (fuel + 1) depth ⟨d.chars ++ rest, line, column⟩ =
        .ok (number (.double x), ⟨rest, line, column + d.chars.length⟩) := by
  obtain ⟨x, hnearest, hfinish⟩ :=
    d.finishDouble_eq ⟨rest, line, column + d.chars.length⟩
  refine ⟨x, hnearest, ?_⟩
  cases hsign : d.negative with
  | true =>
    have hchars : d.chars = '-' :: d.body := if_pos hsign
    have hcolumn : column + d.chars.length = column + 1 + d.body.length := by
      rw [hchars, List.length_cons]
      omega
    rw [hsign, hcolumn] at hfinish
    rw [hcolumn, hchars, List.cons_append, readValue_minus, d.readNumber_eq hrest, hfinish]
    rfl
  | false =>
    have hchars : d.chars = d.body := if_neg (Bool.eq_false_iff.1 hsign)
    obtain ⟨c, cs, hbody, hdigit⟩ := d.exists_body_eq_cons
    have hvalue : readValue (fuel + 1) depth ⟨d.body ++ rest, line, column⟩ =
        (readNumber false ⟨d.body ++ rest, line, column⟩).map fun (n, cur) => (number n, cur) := by
      rw [hbody, List.cons_append]
      exact readValue_of_isDigit hdigit _ fuel depth line column
    rw [hsign, hchars] at hfinish
    rw [hchars, hvalue, d.readNumber_eq hrest, hfinish]
    rfl

/-- A text that is a short decimal is read as the nearest double. -/
theorem parse_text : ∃ x, d.nearest? = some x ∧
    Json.parse (String.ofList d.chars) = .ok (number (.double x)) := by
  have hends : EndsNumber [] := by rintro _ ⟨⟩
  obtain ⟨x, hnearest, hvalue⟩ := d.readValue_eq hends (3 * d.chars.length + 2) depthLimit 1 0
  rw [List.append_nil] at hvalue
  refine ⟨x, hnearest, ?_⟩
  rw [Json.parse, String.toList_ofList]
  simp only [hvalue]
  rfl

end ShortDecimal

end PostSlots.Json
