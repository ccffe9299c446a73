import Mathlib.Algebra.Order.Field.Power
import Mathlib.Algebra.Order.Field.Rat
import Mathlib.Data.List.TakeWhile
import Mathlib.Data.Rat.Cast.Order
import PostSlots.Proofs.Decimal.WholeQuotients
import PostSlots.Proofs.KeyPath.DecimalKeys

/-!
# Keys with an exponent

A number may be written with an exponent, and what it denotes is then a quotient that no double need
hold: `9007199254740992000e-3` is a position, `999999999999999e-1` is a name. What decides is the
exact value, as far as this file goes: whole values up to `2 ^ 53` are positions, and the others of
at most 15 digits are names, although both were rounded before they were told apart.

Results:
1. `ExponentForm.read?_chars`: digits with an exponent are read as what they denote.
2. `ExponentForm.position_of_value`: whole values are positions.
3. `ExponentForm.name_of_value`: values of few digits that are not whole are names.
4. `KeyPath.exponent_steps`: the steps that numbers with an exponent are.
-/

namespace PostSlots

open Decimal

/-! ## Texts with an exponent -/

/-- The sign of an exponent, which may be left out. -/
inductive ExponentSign where
  | none
  | plus
  | minus
deriving DecidableEq

namespace ExponentSign

def chars : ExponentSign → List Char
  | none => []
  | plus => ['+']
  | minus => ['-']

/-- The exponent with some sign and digits. -/
def apply : ExponentSign → Nat → Int
  | minus, n => -(n : Int)
  | _, n => n

end ExponentSign

/-- A number with an exponent: digits behind an optional plus sign, one letter for the power of ten,
and the exponent. -/
structure ExponentForm where
  plus : Bool
  mantissa : String
  capital : Bool
  sign : ExponentSign
  magnitude : String
  isDecimal_mantissa : IsDecimal mantissa
  isDecimal_magnitude : IsDecimal magnitude
  magnitude_le : decimalValue magnitude ≤ 9999

namespace ExponentForm

variable (t : ExponentForm)

def letter : Char := if t.capital then 'E' else 'e'

def chars : List Char :=
  (if t.plus then ['+'] else []) ++
    (t.mantissa.toList ++ t.letter :: (t.sign.chars ++ t.magnitude.toList))

def text : String := String.ofList t.chars

def exponent : Int := t.sign.apply (decimalValue t.magnitude)

/-- The exact value. -/
def value : ℚ := decimalValue t.mantissa * 10 ^ t.exponent

end ExponentForm

/-! ## Reading -/

namespace Decimal

variable {c : Char} {cs : List Char}

theorem readDigits?_of_mem (hc : c ∈ cs) (hdigit : c.isDigit = false) : readDigits? cs = none := by
  rw [readDigits?, if_neg]
  intro h
  have hall := List.all_eq_true.1 (Bool.and_eq_true_iff.1 h).2 c hc
  rw [hdigit] at hall
  cases hall

theorem mem_dropPlus (hc : c ∈ cs) (hplus : c ≠ '+') : c ∈ dropPlus cs := by
  unfold dropPlus
  split
  · exact (List.mem_cons.1 hc).resolve_left hplus
  · exact hc

/-- What holds anything but digits behind the sign is no word. -/
theorem readWord?_of_mem (hc : c ∈ cs) (hdigit : c.isDigit = false) (hplus : c ≠ '+') :
    readWord? cs = none := by
  rw [readWord?, readDigits?_of_mem (mem_dropPlus hc hplus) hdigit]

theorem takeSign_digits_append {ms : List Char} (hne : ms ≠ [])
    (hms : ∀ c ∈ ms, c.isDigit = true) (rest : List Char) :
    takeSign (ms ++ rest) = (false, ms ++ rest) := by
  obtain ⟨m, ms, rfl⟩ := List.exists_cons_of_ne_nil hne
  have hm : m.isDigit = true := hms m List.mem_cons_self
  exact takeSign_of_ne (by rintro rfl; exact absurd hm (by decide))
    (by rintro rfl; exact absurd hm (by decide)) _

/-- The exponent behind its letter. -/
theorem readExponent?_cons {letter : Char} (hletter : letter = 'e' ∨ letter = 'E')
    (sign : ExponentSign) (hne : cs ≠ []) (hcs : ∀ c ∈ cs, c.isDigit = true) :
    readExponent? (letter :: (sign.chars ++ cs)) = some (sign.apply (ofDigits cs)) := by
  rw [readExponent?, if_pos hletter]
  cases sign with
  | none =>
    rw [ExponentSign.chars, List.nil_append, takeSign_of_isDigit hcs]
    simp [readDigits?_of_isDigit hne hcs, ExponentSign.apply]
  | plus => simp [ExponentSign.chars, takeSign, readDigits?_of_isDigit hne hcs, ExponentSign.apply]
  | minus => simp [ExponentSign.chars, takeSign, readDigits?_of_isDigit hne hcs, ExponentSign.apply]

theorem Numeral.read?_plus (h : takeSign cs = (false, cs)) :
    Numeral.read? ('+' :: cs) = Numeral.read? cs := by
  have hplus : takeSign ('+' :: cs) = (false, cs) := rfl
  simp only [Numeral.read?, h, hplus]

/-- Digits and an exponent. -/
theorem Numeral.read?_append_exponent {ms : List Char} {letter : Char} {k : Int} (hne : ms ≠ [])
    (hms : ∀ c ∈ ms, c.isDigit = true) (hletter : letter.isDigit = false) (hpoint : letter ≠ '.')
    (hk : readExponent? (letter :: cs) = some k) :
    Numeral.read? (ms ++ letter :: cs) = some ⟨false, ofDigits ms, k⟩ := by
  have htake : (ms ++ letter :: cs).takeWhile Char.isDigit = ms := by
    rw [Text.takeWhile_append_stop hletter, List.takeWhile_eq_self_iff.2 hms]
  have hdrop : (ms ++ letter :: cs).dropWhile Char.isDigit = letter :: cs := by
    rw [Text.dropWhile_append_stop hletter, List.dropWhile_eq_nil_iff.2 hms, List.nil_append]
  simp only [Numeral.read?, takeSign_digits_append hne hms, htake, hdrop, takeFraction_of_ne hpoint,
    List.append_nil, readDigits?_of_isDigit hne hms, hk]
  simp

end Decimal

namespace ExponentForm

variable (t : ExponentForm)

theorem letter_eq : t.letter = 'e' ∨ t.letter = 'E' := by
  unfold letter
  split
  · exact .inr rfl
  · exact .inl rfl

theorem letter_stops : t.letter.isDigit = false ∧ t.letter ≠ '.' ∧ t.letter ≠ '+' := by
  rcases t.letter_eq with heq | heq
  · rw [heq]; decide
  · rw [heq]; decide

/-- The characters that numbers with an exponent are made of. -/
theorem isDigit_or_mem {c : Char} (hc : c ∈ t.chars) :
    c.isDigit = true ∨ c ∈ ['+', '-', 'e', 'E'] := by
  have hplus : c ∈ (if t.plus then ['+'] else []) → c ∈ ['+', '-', 'e', 'E'] := by
    split
    · intro hc
      rw [List.mem_singleton.1 hc]
      decide
    · intro hc
      cases hc
  have hsign : c ∈ t.sign.chars → c ∈ ['+', '-', 'e', 'E'] := by
    cases t.sign <;> simp +contextual [ExponentSign.chars]
  rcases List.mem_append.1 hc with hc | hc
  · exact .inr (hplus hc)
  rcases List.mem_append.1 hc with hc | hc
  · exact .inl (t.isDecimal_mantissa.isDigit c hc)
  rcases List.mem_cons.1 hc with rfl | hc
  · rcases t.letter_eq with heq | heq
    · rw [heq]; decide
    · rw [heq]; decide
  rcases List.mem_append.1 hc with hc | hc
  · exact .inr (hsign hc)
  · exact .inl (t.isDecimal_magnitude.isDigit c hc)

theorem letter_mem : t.letter ∈ t.chars := by simp [chars]

theorem unbroken_of_mem {c : Char} (hc : c ∈ ['+', '-', 'e', 'E']) :
    Text.isBlank c = false ∧ KeyPath.isDelimiter c = false ∧ c ≠ ',' := by
  simp only [List.mem_cons, List.not_mem_nil, or_false] at hc
  rcases hc with rfl | rfl | rfl | rfl
  · decide
  · decide
  · decide
  · decide

theorem isTokenText : Segment.IsTokenText t.chars := by
  have hblank : ∀ c ∈ t.chars, Text.isBlank c = false := fun c hc => by
    rcases t.isDigit_or_mem hc with hdigit | hmem
    · exact Segment.isBlank_of_isDigit hdigit
    · exact (unbroken_of_mem hmem).1
  refine ⟨List.ne_nil_of_mem t.letter_mem, fun c hc => ?_,
    fun c hc => hblank c (List.mem_of_head? hc), fun c hc => hblank c (List.mem_of_getLast? hc)⟩
  rcases t.isDigit_or_mem hc with hdigit | hmem
  · have hone : Segment.IsTokenText [c] :=
      Segment.isTokenText_of_isDigit (List.cons_ne_nil c []) (List.forall_mem_singleton.2 hdigit)
    exact hone.unbroken c List.mem_cons_self
  · exact (unbroken_of_mem hmem).2

theorem readWord?_chars : readWord? t.chars = none := by
  obtain ⟨hdigit, -, hplus⟩ := t.letter_stops
  exact readWord?_of_mem t.letter_mem hdigit hplus

/-- Digits with an exponent are read as what they denote. -/
theorem read?_chars :
    Numeral.read? t.chars = some ⟨false, decimalValue t.mantissa, t.exponent⟩ := by
  have hne := t.isDecimal_mantissa.toList_ne_nil
  have hms := t.isDecimal_mantissa.isDigit
  have hexponent := readExponent?_cons t.letter_eq t.sign t.isDecimal_magnitude.toList_ne_nil
    t.isDecimal_magnitude.isDigit
  rw [ofDigits_toList] at hexponent
  obtain ⟨hdigit, hpoint, -⟩ := t.letter_stops
  have hread := Numeral.read?_append_exponent hne hms hdigit hpoint hexponent
  rw [ofDigits_toList] at hread
  unfold chars
  split
  · exact (Numeral.read?_plus (takeSign_digits_append hne hms _)).trans hread
  · exact hread

/-- What is read in place of a word. -/
def binary64? : Option Binary64 :=
  Binary64.ofDecimal? false (decimalValue t.mantissa) t.exponent

/-- The step that a number with an exponent is. -/
theorem parse_text :
    KeyPath.parse t.text = [(t.binary64?.bind Segment.ofBinary64?).getD (.field t.text)] := by
  have hstep : Segment.ofToken t.chars =
      (t.binary64?.bind Segment.ofBinary64?).getD (.field t.text) := by
    have hread : (Numeral.read? t.chars).bind Numeral.toBinary64? = t.binary64? := by
      rw [t.read?_chars]
      rfl
    rw [Segment.ofToken, t.readWord?_chars, hread]
    cases t.binary64?.bind Segment.ofBinary64? with
    | none => rfl
    | some segment => rfl
  rw [text, KeyPath.parse_of_isTokenText t.isTokenText, hstep, text]

/-! ## Values -/

/-- The value is a quotient of these two. -/
def numerator : Nat := decimalValue t.mantissa * 10 ^ t.exponent.toNat

def denominator : Nat := 10 ^ (-t.exponent).toNat

theorem denominator_pos : 0 < t.denominator := Nat.pow_pos (by decide)

theorem cast_mul_zpow (d : ℕ) (k : ℤ) :
    (d : ℚ) * 10 ^ k = (d * 10 ^ k.toNat : ℕ) / (10 ^ (-k).toNat : ℕ) := by
  rcases Int.le_total 0 k with hk | hk
  · obtain ⟨n, rfl⟩ := Int.eq_ofNat_of_zero_le hk
    simp
  · obtain ⟨n, hn⟩ := Int.eq_ofNat_of_zero_le (Int.neg_nonneg_of_nonpos hk)
    obtain rfl : k = -n := by omega
    simp [div_eq_mul_inv]

theorem value_eq : t.value = (t.numerator : ℚ) / t.denominator :=
  cast_mul_zpow (decimalValue t.mantissa) t.exponent

theorem value_eq_natCast_iff {n : ℕ} : t.value = n ↔ t.numerator = n * t.denominator := by
  have hpos : (t.denominator : ℚ) ≠ 0 := Nat.cast_ne_zero.2 (Nat.ne_of_gt t.denominator_pos)
  rw [t.value_eq, div_eq_iff hpos]
  norm_cast

theorem value_le_natCast_iff {n : ℕ} : t.value ≤ n ↔ t.numerator ≤ n * t.denominator := by
  have hpos : (0 : ℚ) < t.denominator := Nat.cast_pos.2 t.denominator_pos
  rw [t.value_eq, div_le_iff₀ hpos]
  norm_cast

theorem one_div_pow_le_div_iff {num den p : ℕ} (hden : 0 < den) :
    1 / 10 ^ p ≤ (num : ℚ) / den ↔ den ≤ num * 10 ^ p := by
  have hpos : (0 : ℚ) < den := Nat.cast_pos.2 hden
  rw [div_le_div_iff₀ (pow_pos (by decide) p) hpos, one_mul]
  norm_cast

variable {t}

/-- A number that is neither too large nor too small is read as its quotient. -/
theorem binary64?_eq {p : Nat} (hp : p ≤ Binary64.exponentBound)
    (hlow : t.denominator ≤ t.numerator * 10 ^ p) (hhigh : t.numerator ≤ 2 ^ 53 * t.denominator) :
    t.binary64? = Binary64.ofRatio? false t.numerator t.denominator := by
  have hdigits : decimalValue t.mantissa ≠ 0 := by
    intro hzero
    rw [numerator, hzero, Nat.zero_mul, Nat.zero_mul] at hlow
    exact Nat.not_le.2 t.denominator_pos hlow
  exact Binary64.ofDecimal?_eq_ofRatio? false hdigits hhigh hlow hp

/-- Whole values are positions. -/
theorem position_of_value {n : ℕ} (h : t.value = n) (hle : n ≤ 2 ^ 53) :
    t.binary64?.bind Segment.ofBinary64? = some (.index n) := by
  have hquotient := t.value_eq_natCast_iff.1 h
  rcases Nat.eq_zero_or_pos n with rfl | hn
  · have hdigits : decimalValue t.mantissa = 0 := by
      rw [Nat.zero_mul] at hquotient
      exact (Nat.mul_eq_zero.1 hquotient).resolve_right (Nat.ne_of_gt (Nat.pow_pos (by decide)))
    have hzero : Segment.ofBinary64? (Binary64.zero false) = some (.index 0) := by decide +kernel
    rw [binary64?, Binary64.ofDecimal?, if_pos hdigits, Option.bind_some, hzero]
  · have hlow : t.denominator ≤ t.numerator * 10 ^ 0 := by
      rw [Nat.pow_zero, Nat.mul_one, hquotient]
      exact Nat.le_mul_of_pos_left _ hn
    have hhigh : t.numerator ≤ 2 ^ 53 * t.denominator := by
      rw [hquotient]
      exact Nat.mul_le_mul_right _ hle
    obtain ⟨x, hx, hsign, hunits⟩ :=
      Binary64.ofRatio?_of_whole false (Nat.ne_of_gt hn) hle t.denominator_pos hquotient
    have hword : n ≤ wordBound := Nat.le_trans hle (by decide +kernel)
    have hmin : min n (wordBound - 1) = n := Nat.min_eq_left (Nat.le_trans hle (by decide +kernel))
    rw [binary64?_eq (Nat.zero_le _) hlow hhigh, hx, Option.bind_some,
      Segment.ofBinary64?_of_units hsign hunits, if_pos hword, hmin]

/-- Values with places behind the point are names, if few digits write them. -/
theorem name_of_places {p q c : ℕ} (hp : p ≤ 300) (hlow : 1 / 10 ^ p ≤ t.value)
    (hhigh : t.value ≤ 2 ^ 53) (hfraction : ∀ n : ℕ, t.value ≠ n) (hc : c < 10 ^ 15)
    (h : t.value = (c : ℚ) / (10 ^ q : ℕ)) : t.binary64?.bind Segment.ofBinary64? = none := by
  have hplaces : 0 < 10 ^ q := Nat.pow_pos (by decide)
  have hquotient : t.numerator * 10 ^ q = c * t.denominator := by
    have hden : (t.denominator : ℚ) ≠ 0 := Nat.cast_ne_zero.2 (Nat.ne_of_gt t.denominator_pos)
    have hpow : ((10 ^ q : ℕ) : ℚ) ≠ 0 := Nat.cast_ne_zero.2 (Nat.ne_of_gt hplaces)
    rw [t.value_eq, div_eq_div_iff hden hpow] at h
    exact_mod_cast h
  have hread : t.binary64? = Binary64.ofRatio? false c (10 ^ q) := by
    have hlow : t.denominator ≤ t.numerator * 10 ^ p := by
      rwa [t.value_eq, one_div_pow_le_div_iff t.denominator_pos] at hlow
    have hhigh : t.numerator ≤ 2 ^ 53 * t.denominator :=
      t.value_le_natCast_iff.1 (by exact_mod_cast hhigh)
    rw [binary64?_eq (Nat.le_trans hp (by decide)) hlow hhigh,
      Binary64.ofRatio?_congr false t.denominator_pos hplaces hquotient]
  have hnormal : 2 ^ 52 * 10 ^ q ≤ c * Binary64.unitsPerOne := by
    rw [h, one_div_pow_le_div_iff hplaces] at hlow
    calc 2 ^ 52 * 10 ^ q
        ≤ 2 ^ 52 * (c * 10 ^ p) := Nat.mul_le_mul_left _ hlow
      _ = c * (2 ^ 52 * 10 ^ p) := Nat.mul_left_comm _ _ _
      _ ≤ c * Binary64.unitsPerOne :=
        Nat.mul_le_mul_left _ (Binary64.two_pow_mul_ten_pow_le hp)
  have hindivisible : ¬10 ^ q ∣ c := by
    rintro ⟨n, rfl⟩
    refine hfraction n (t.value_eq_natCast_iff.2 ?_)
    refine Nat.eq_of_mul_eq_mul_right hplaces ?_
    rw [hquotient, Nat.mul_comm (10 ^ q), Nat.mul_right_comm]
  rw [hread]
  refine Option.bind_eq_none_iff.2 fun x hx => ?_
  have hwhole := Binary64.isWhole_eq_false hplaces hx hnormal hc hindivisible
  rw [Segment.ofBinary64?, hwhole, Bool.and_false, Bool.false_and, if_neg Bool.false_ne_true]

/-- Values that are not whole are names, if few digits write them. -/
theorem name_of_value {p c : ℕ} {j : ℤ} (hp : p ≤ 300) (hlow : 1 / 10 ^ p ≤ t.value)
    (hhigh : t.value ≤ 2 ^ 53) (hfraction : ∀ n : ℕ, t.value ≠ n) (hc : c < 10 ^ 15)
    (h : t.value = c * 10 ^ j) : t.binary64?.bind Segment.ofBinary64? = none := by
  rcases Int.le_total 0 j with hj | hj
  · obtain ⟨n, rfl⟩ := Int.eq_ofNat_of_zero_le hj
    refine absurd ?_ (hfraction (c * 10 ^ n))
    rw [h]
    norm_cast
  · rw [cast_mul_zpow, Int.toNat_of_nonpos hj, pow_zero, Nat.mul_one] at h
    exact name_of_places hp hlow hhigh hfraction hc h

end ExponentForm

/-! ## Paths -/

namespace KeyPath

/-- A number with an exponent is the position that its exact value is, found wherever its plain
digits are; a value that is not whole stays a name, if it is not too small for a double and at most
15 digits write it. Neither the number of digits nor the size of the exponent matters. -/
theorem exponent_steps (t : ExponentForm) :
    (∀ n : ℕ, t.value = n → n ≤ 2 ^ 53 → parse t.text = [.index n] ∧
      ∀ d v, IsDecimal d → decimalValue d = n → resolve t.text v = resolve d v) ∧
    (1 / 10 ^ 300 ≤ t.value → t.value < 2 ^ 50 → (∀ n : ℕ, t.value ≠ n) →
      (∃ (c : ℕ) (j : ℤ), c < 10 ^ 15 ∧ t.value = c * 10 ^ j) →
      parse t.text = [.field t.text]) := by
  refine ⟨fun n hvalue hle => ?_, ?_⟩
  · have hparse : parse t.text = [.index n] := by
      rw [t.parse_text, ExponentForm.position_of_value hvalue hle, Option.getD_some]
    refine ⟨hparse, ?_⟩
    rintro d v hd rfl
    have hword : decimalValue d ≤ 2 ^ 64 - 1 := by omega
    have hplain : parse d = [.index (decimalValue d)] := by rw [parse_decimal hd, if_pos hword]
    rw [resolve, resolve, hparse, hplain]
  · rintro hlow hhigh hfraction ⟨c, j, hc, hvalue⟩
    have hbits : t.value ≤ 2 ^ 53 :=
      hhigh.le.trans (pow_le_pow_right₀ (by decide) (by decide))
    rw [t.parse_text, ExponentForm.name_of_value le_rfl hlow hbits hfraction hc hvalue,
      Option.getD_none]

/-- Past the 53 bits by its digits and back by its exponent, and a tenth away from the whole numbers
of 14 digits. -/
theorem exponent_steps_bounds :
    ∃ s t : ExponentForm, s.text = "+9007199254740992000E-0003" ∧ t.text = "999999999999999e-1" ∧
      parse s.text = [.index (2 ^ 53)] ∧ parse t.text = [.field "999999999999999e-1"] ∧
      ∀ v, resolve s.text v = resolve "09007199254740992" v := by
  let s : ExponentForm :=
    ⟨true, "9007199254740992000", true, .minus, "0003", .of_all (by decide) (by decide +kernel),
      .of_all (by decide) (by decide), by decide⟩
  let t : ExponentForm :=
    ⟨false, "999999999999999", false, .minus, "1", .of_all (by decide) (by decide +kernel),
      .of_all (by decide) (by decide), by decide⟩
  have hs : s.value = (2 ^ 53 : ℕ) := s.value_eq_natCast_iff.2 (by decide +kernel)
  have ht : t.text = "999999999999999e-1" := by decide +kernel
  have hnum : t.numerator = 999999999999999 := by decide +kernel
  have hden : t.denominator = 10 := by decide +kernel
  have hlow (p : ℕ) : 1 / 10 ^ p ≤ t.value := by
    rw [t.value_eq, ExponentForm.one_div_pow_le_div_iff t.denominator_pos, hden, hnum]
    exact Nat.le_trans (by decide) (Nat.le_mul_of_pos_right _ (Nat.pow_pos (by decide)))
  have hhigh : t.value ≤ (2 ^ 49 : ℕ) := t.value_le_natCast_iff.2 (by rw [hden, hnum]; decide)
  have hfraction (n : ℕ) : t.value ≠ n := by
    rw [Ne, t.value_eq_natCast_iff, hden, hnum]
    omega
  have hdigits : t.value = (999999999999999 : ℕ) * 10 ^ (-1 : ℤ) := by
    rw [t.value_eq, hden, hnum, div_eq_mul_inv, zpow_neg_one, Nat.cast_ofNat, Nat.cast_ofNat]
  obtain ⟨hsparse, hsresolve⟩ := (exponent_steps s).1 (2 ^ 53) hs (Nat.le_refl _)
  have htparse : parse t.text = [.field t.text] :=
    (exponent_steps t).2 (hlow 300) (hhigh.trans_lt (by norm_cast)) hfraction
      ⟨_, _, by decide, hdigits⟩
  refine ⟨s, t, by decide +kernel, ht, hsparse, htparse.trans (by rw [ht]), fun v => ?_⟩
  exact hsresolve _ v (.of_all (by decide) (by decide +kernel)) (by decide +kernel)

end KeyPath

end PostSlots
