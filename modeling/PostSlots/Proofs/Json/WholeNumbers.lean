import PostSlots.Json.Display
import PostSlots.Proofs.Decimal.ShortestDigits

/-!
# Whole doubles in full

Below `10 ^ 21` a whole double is shown without a point and without an exponent, as its exact value.
A browser script shows the digits of its shortest decimal instead, with zeros up to the units place.
Up to `2 ^ 54` that is the same text. Above, the exact value can have digits that the shortest decimal
does not have, and that the JSON form does not have either.

Results:
1. `Json.significantDigits_render`: the JSON form has the digits of the shortest decimal.
2. `Json.display_whole`: what is shown for a whole double, and when it is what a script shows.
-/

namespace PostSlots

open Decimal Decimal.Binary64

/-- The digits of a number before its exponent. -/
def mantissaDigits (text : List Char) : List Char :=
  (text.takeWhile (· != 'e')).filter Char.isDigit

/-- The digits of a number before its exponent, without the zeros around them. -/
def significantDigits (text : List Char) : List Char :=
  let digits := mantissaDigits text
  ((digits.dropWhile (· == '0')).reverse.dropWhile (· == '0')).reverse

/-- Digits after the sign of a double. -/
def Decimal.Binary64.signed (x : Binary64) (digits : List Char) : List Char :=
  if x.negative then '-' :: digits else digits

/-- A whole double as a browser script shows it: its shortest decimal, with zeros up to the units
place. -/
def Decimal.Binary64.scriptText (x : Binary64) : List Char :=
  x.signed (digitsOf x.shortest.1 ++ List.replicate x.shortest.2.toNat '0')

/-! ## Digits -/

section
variable {n : Nat}

theorem digitChar_ne_zero {d : Nat} (hd : 0 < d) (hlt : d < 10) : d.digitChar ≠ '0' := by
  have hdigits : ∀ d < 10, 0 < d → d.digitChar ≠ '0' := by decide
  exact hdigits d hlt hd

theorem isDigit_of_mem_digitsOf {c : Char} (h : c ∈ digitsOf n) : c.isDigit = true :=
  Nat.isDigit_of_mem_toDigits (by decide) (by decide) h

theorem digitsOf_injective {m : Nat} (h : digitsOf m = digitsOf n) : m = n := by
  rw [← ofDigits_toDigits m, ← ofDigits_toDigits n]
  exact congrArg ofDigits h

/-- Digits start with a nonzero one. -/
theorem exists_digitsOf_eq_cons (hn : 0 < n) : ∃ d ds, digitsOf n = d :: ds ∧ d ≠ '0' := by
  induction n using Nat.strongRecOn with
  | ind n ih =>
    rcases Nat.lt_or_ge n 10 with hsmall | hlarge
    · exact ⟨n.digitChar, [], Nat.toDigits_of_lt_base hsmall, digitChar_ne_zero hn hsmall⟩
    · obtain ⟨d, ds, hdigits, hd⟩ := ih (n / 10) (by omega) (by omega)
      refine ⟨d, ds ++ [(n % 10).digitChar], ?_, hd⟩
      rw [← List.cons_append, ← hdigits]
      exact Nat.toDigits_of_base_le (by decide) hlarge

/-- The last digit is nonzero if the number is no multiple of ten. -/
theorem exists_digitsOf_eq_append (hn : n % 10 ≠ 0) : ∃ ds d, digitsOf n = ds ++ [d] ∧ d ≠ '0' := by
  have hlast : (n % 10).digitChar ≠ '0' :=
    digitChar_ne_zero (Nat.pos_of_ne_zero hn) (Nat.mod_lt n (by decide))
  rcases Nat.lt_or_ge n 10 with hsmall | hlarge
  · rw [Nat.mod_eq_of_lt hsmall] at hlast
    exact ⟨[], n.digitChar, Nat.toDigits_of_lt_base hsmall, hlast⟩
  · exact ⟨digitsOf (n / 10), _, Nat.toDigits_of_base_le (by decide) hlarge, hlast⟩

theorem digitsOf_mul_pow (hn : 0 < n) (k : Nat) :
    digitsOf (n * 10 ^ k) = digitsOf n ++ List.replicate k '0' := by
  induction k with
  | zero => rw [Nat.pow_zero, Nat.mul_one, List.replicate_zero, List.append_nil]
  | succ k ih =>
    have hpos : 0 < n * 10 ^ k := Nat.mul_pos hn (Nat.pow_pos (by decide))
    have hnext : n * 10 ^ (k + 1) = 10 * (n * 10 ^ k) + 0 := by
      rw [Nat.pow_succ', Nat.mul_left_comm]
      rfl
    rw [hnext, List.replicate_succ', ← List.append_assoc, ← ih]
    exact (Nat.toDigits_append_toDigits (by decide) hpos (by decide)).symm

end

/-! ## Signs -/

section
variable {x : Binary64}

theorem signed_injective {ds es : List Char} (h : x.signed ds = x.signed es) : ds = es := by
  rw [signed, signed] at h
  split at h
  · exact (List.cons.inj h).2
  · exact h

theorem isDigit_of_mem_signed {n : Nat} {c : Char} (h : c ∈ x.signed (digitsOf n)) :
    c = '-' ∨ c.isDigit = true := by
  rw [signed] at h
  split at h
  · exact (List.mem_cons.1 h).imp_right isDigit_of_mem_digitsOf
  · exact .inr (isDigit_of_mem_digitsOf h)

end

/-! ## The digits of the JSON form -/

theorem significantDigits_of_mantissa {c j : Nat} {text : List Char} (hc : c % 10 ≠ 0)
    (h : mantissaDigits text = digitsOf c ++ List.replicate j '0') :
    significantDigits text = digitsOf c := by
  obtain ⟨first, tail, hfirst, hne⟩ := exists_digitsOf_eq_cons (n := c) (by omega)
  obtain ⟨init, last, hlast, hne'⟩ := exists_digitsOf_eq_append hc
  have hzeros : ∀ d ∈ List.replicate j '0', (d == '0') = true := by simp
  have hfront : (digitsOf c ++ List.replicate j '0').dropWhile (· == '0') =
      digitsOf c ++ List.replicate j '0' := by
    rw [hfirst, List.cons_append, List.dropWhile_cons_of_neg (by simpa using hne)]
  have hback : (digitsOf c).reverse.dropWhile (· == '0') = (digitsOf c).reverse := by
    rw [hlast, List.reverse_append, List.reverse_singleton, List.singleton_append,
      List.dropWhile_cons_of_neg (by simpa using hne')]
  rw [significantDigits, h, hfront, List.reverse_append, List.reverse_replicate,
    List.dropWhile_append_of_pos hzeros, hback, List.reverse_reverse]

example : significantDigits "-120.50e+20".toList = ['1', '2', '0', '5'] := by decide +kernel

section
variable {ds : List Char}

theorem mantissaDigits_append (cs : List Char) (hcs : ∀ c ∈ cs, c ≠ 'e') (rest : List Char) :
    mantissaDigits (cs ++ rest) = cs.filter Char.isDigit ++ mantissaDigits rest := by
  rw [mantissaDigits, List.takeWhile_append_of_pos (by simpa using hcs), List.filter_append]
  rfl

theorem mantissaDigits_exponent (rest : List Char) : mantissaDigits ('e' :: rest) = [] :=
  rfl

theorem mantissaDigits_signed (x : Binary64) (body : List Char) :
    mantissaDigits (x.signed body) = mantissaDigits body := by
  rw [signed]
  split
  · exact mantissaDigits_append ['-'] (by simp) body
  · rfl

theorem mantissaDigits_digits (hds : ∀ c ∈ ds, c.isDigit = true) (rest : List Char) :
    mantissaDigits (ds ++ rest) = ds ++ mantissaDigits rest := by
  have hne : ∀ c ∈ ds, c ≠ 'e' := by
    rintro _ hc rfl
    exact absurd (hds _ hc) (by decide)
  rw [mantissaDigits_append ds hne, List.filter_eq_self.2 hds]

theorem mantissaDigits_positional (hds : ∀ c ∈ ds, c.isDigit = true) (k : Nat) :
    mantissaDigits (positional ds k) = ds ++ List.replicate (k + 1) '0' := by
  have hzeros : ∀ c ∈ List.replicate k '0', c.isDigit = true := by simp
  rw [positional, if_pos (Int.natCast_nonneg k), Int.toNat_natCast, List.append_assoc,
    mantissaDigits_digits hds, mantissaDigits_digits hzeros, List.replicate_succ']
  rfl

theorem mantissaDigits_scientific (hds : ∀ c ∈ ds, c.isDigit = true) (exponent : Int) :
    mantissaDigits (scientific ds exponent) = ds := by
  rcases ds with _ | ⟨first, _ | ⟨second, rest⟩⟩
  · rfl
  · exact mantissaDigits_digits hds _
  · -- the point stands behind the first digit
    have hfirst : ∀ c ∈ [first], c.isDigit = true := fun c hc =>
      hds c (List.mem_append_left (second :: rest) hc)
    have hrest : ∀ c ∈ second :: rest, c.isDigit = true := fun c hc =>
      hds c (List.mem_cons_of_mem first hc)
    have hpoint (cs : List Char) : mantissaDigits ('.' :: cs) = mantissaDigits cs :=
      mantissaDigits_append ['.'] (by simp) cs
    refine (mantissaDigits_digits hfirst _).trans (congrArg (first :: ·) ?_)
    refine (hpoint _).trans ((mantissaDigits_digits hrest _).trans ?_)
    rw [mantissaDigits_exponent, List.append_nil]

end

/-- The digits that stand before an exponent are those of the decimal, and zeros. -/
theorem mantissaDigits_write (l : Layout) (c k : Nat) :
    ∃ j, mantissaDigits (l.write (digitsOf c) k) = digitsOf c ++ List.replicate j '0' := by
  have hds : ∀ d ∈ digitsOf c, d.isDigit = true := fun _ => isDigit_of_mem_digitsOf
  rw [Layout.write]
  split
  · exact ⟨k + 1, mantissaDigits_positional hds k⟩
  · exact ⟨0, (mantissaDigits_scientific hds _).trans (List.append_nil _).symm⟩

/-! ## What is shown -/

namespace Json

section
variable {x : Binary64}

theorem toList_display_number (n : Number) : (number n).display.toList = n.display :=
  String.toList_ofList

theorem toList_render_number (n : Number) : (number n).render.toList = n.text :=
  String.toList_ofList

/-- The JSON form of a whole double has the digits of its shortest decimal. -/
theorem significantDigits_render {c k : Nat} (hzero : x.isZero = false)
    (hwhole : x.isWhole = true) (h : x.shortest = (c, (k : Int))) :
    significantDigits (number (.double x)).render.toList = digitsOf c := by
  obtain ⟨hunits, hpos⟩ := units_of_isWhole hzero hwhole
  obtain ⟨j, hj⟩ := mantissaDigits_write doubleLayout c k
  have htext : (number (.double x)).render.toList =
      x.signed (doubleLayout.write (digitsOf c) k) := by
    rw [toList_render_number, Number.text, Layout.writeDouble, hzero, h]
    rfl
  rw [htext]
  exact significantDigits_of_mantissa (mod_ten_shortest hunits hpos h)
    ((mantissaDigits_signed x _).trans hj)

/-- A whole double below `10 ^ 21` is shown as its sign and the digits of its exact value. -/
theorem display_exact (hzero : x.isZero = false) (hwhole : x.isWhole = true)
    (hbound : x.floor < Number.fullBound) :
    (number (.double x)).display.toList = x.signed (digitsOf x.floor) := by
  have hshown : (x.isWhole && decide (x.floor < Number.fullBound)) = true := by
    rw [hwhole, Bool.true_and]
    exact decide_eq_true hbound
  rw [toList_display_number]
  simp only [Number.display, hzero, hshown, Bool.false_eq_true, if_false, if_true, signed]

end

/-- A whole double below `10 ^ 21` is shown in full, as its sign and the digits of its exact value.
Its JSON form has the digits of its shortest decimal, and so has what a script shows. The text that is
shown is the script's exactly if the shortest decimal is exact, and up to `2 ^ 54` it is. -/
theorem display_whole {x : Binary64} (hzero : x.isZero = false) (hwhole : x.isWhole = true)
    (hbound : x.floor < Number.fullBound) :
    (number (.double x)).display.toList = x.signed (digitsOf x.floor) ∧
      (∀ c ∈ (number (.double x)).display.toList, c = '-' ∨ c.isDigit = true) ∧
      ofDecimal? x.negative x.floor 0 = some x ∧
      ∃ c k : Nat, x.IsShortest c k ∧
        significantDigits (number (.double x)).render.toList = digitsOf c ∧
        x.scriptText = x.signed (digitsOf c ++ List.replicate k '0') ∧
        ((number (.double x)).display.toList = x.scriptText ↔ x.floor = c * 10 ^ k) ∧
        (x.floor ≤ 2 ^ 54 → (number (.double x)).display.toList = x.scriptText) := by
  obtain ⟨hunits, hpos⟩ := units_of_isWhole hzero hwhole
  obtain ⟨c, k, hshortest⟩ := exists_shortest hunits hpos
  have hdisplay := display_exact hzero hwhole hbound
  have hdigits : ∀ d ∈ (number (.double x)).display.toList, d = '-' ∨ d.isDigit = true := by
    rw [hdisplay]
    exact fun _ => isDigit_of_mem_signed
  have hread : ofDecimal? x.negative x.floor 0 = some x :=
    ofDecimal?_of_contains (contains_whole hunits hpos) (Nat.ne_of_gt hpos) (Nat.zero_le _)
  have hc : 0 < c := by
    have hmod := mod_ten_shortest hunits hpos hshortest
    omega
  have hscript : x.scriptText = x.signed (digitsOf c ++ List.replicate k '0') := by
    rw [scriptText, hshortest, Int.toNat_natCast]
  have hsame : (number (.double x)).display.toList = x.scriptText ↔ x.floor = c * 10 ^ k := by
    rw [hdisplay, hscript, ← digitsOf_mul_pow hc]
    exact ⟨fun h => digitsOf_injective (signed_injective h), fun h => by rw [← h]⟩
  refine ⟨hdisplay, hdigits, hread, c, k, isShortest_of_whole hunits hpos hshortest,
    significantDigits_render hzero hwhole hshortest, hscript, hsame, fun hle => hsame.2 ?_⟩
  exact (shortest_eq_of_le hunits hpos hle hshortest).symm

/-- The double nearest to `123456789000000000000`. -/
def roundTrillions : Binary64 := ⟨false, 7535204406738281, 1088, by decide⟩

/-- The double `10 ^ 20`. -/
def roundPower : Binary64 := ⟨false, 6103515625000000, 1088, by decide⟩

/-- The first double is shown by its exact value; the second one is its shortest decimal and shown as
a script shows it, though it is above `2 ^ 54`. -/
theorem display_whole_roundTrillions :
    roundTrillions.isZero = false ∧ roundTrillions.isWhole = true ∧
      roundTrillions.floor < Number.fullBound ∧
      (number (.double roundTrillions)).display.toList =
        roundTrillions.signed (digitsOf roundTrillions.floor) ∧
      roundPower.isZero = false ∧ roundPower.isWhole = true ∧
      (2 ^ 54 < roundPower.floor ∧ roundPower.floor < Number.fullBound) ∧
      (number (.double roundPower)).display.toList = roundPower.scriptText := by
  have hzero : roundTrillions.isZero = false := by decide +kernel
  have hwhole : roundTrillions.isWhole = true := by decide +kernel
  have hbound : roundTrillions.floor < Number.fullBound := by decide +kernel
  have hzero' : roundPower.isZero = false := by decide +kernel
  have hwhole' : roundPower.isWhole = true := by decide +kernel
  have hbound' : roundPower.floor < Number.fullBound := by decide +kernel
  have hlarge : 2 ^ 54 < roundPower.floor := by decide +kernel
  obtain ⟨-, -, -, c, k, -, hrender, hscript, hsame, -⟩ := display_whole hzero' hwhole' hbound'
  -- its one digit is seen in its JSON form, and the zeros behind it in what a script shows
  have hc : c = 1 := by
    refine digitsOf_injective (hrender.symm.trans ?_)
    decide +kernel
  subst hc
  have hk : (digitsOf 1 ++ List.replicate k '0').length = 21 := by
    have hlength : roundPower.scriptText.length = 21 := by decide +kernel
    rw [hscript] at hlength
    exact hlength
  have hone : digitsOf 1 = ['1'] := by decide
  rw [hone, List.length_append, List.length_replicate, List.length_singleton] at hk
  obtain rfl : k = 20 := by omega
  exact ⟨hzero, hwhole, hbound, (display_whole hzero hwhole hbound).1, hzero', hwhole',
    ⟨hlarge, hbound'⟩, hsame.2 (by decide +kernel)⟩

/-- The exact value of the first one has digits that neither its JSON form nor a script shows. -/
theorem display_ne_scriptText :
    ofDecimal? false 123456789 12 = some roundTrillions ∧
      (number (.double roundTrillions)).render = "1.23456789e+20" ∧
      roundTrillions.scriptText = "123456789000000000000".toList ∧
      (number (.double roundTrillions)).display = "123456788999999995904" := by
  decide +kernel

end Json

end PostSlots
