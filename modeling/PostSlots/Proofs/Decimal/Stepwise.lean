import PostSlots.Decimal.Numeral
import PostSlots.Decimal.Stepwise
import PostSlots.Proofs.Decimal.WholeQuotients

/-!
# How good the steps are

The steps for a decimal round more than once, and so miss the nearest double of some decimals. They
find that of every decimal with at most 53 bits of digits and an exponent up to 22 either way: there
the digits and the power of ten are doubles themselves, and one step is left that rounds. Steps
downwards never leave the range, as no quotient by a power of ten is rounded beyond what is divided.

Results:
1. `exists_ofRatio?_le`: a quotient that is not above a double is not rounded beyond it.
2. `exists_stepwise?_of_neg`: a decimal with a negative exponent has a result.
3. `stepwise?_eq_ofDecimal?`: a short decimal has the nearest double as its result.
-/

namespace PostSlots.Decimal.Binary64

/-! ## Rounding and what it does not pass -/

/-- Rounding does not pass a whole number. -/
theorem roundHalfEven_le_of_le {num den r : Nat} (hden : 0 < den) (h : num ≤ r * den) :
    roundHalfEven num den ≤ r := by
  by_contra hlt
  obtain ⟨hbelow, -⟩ := (roundHalfEven_eq_iff hden).1 (Eq.refl (roundHalfEven num den))
  have hbelow := hbelow.le
  have hmul : (r + 1) * den ≤ roundHalfEven num den * den :=
    Nat.mul_le_mul_right den (Nat.lt_of_not_le hlt)
  rw [Nat.succ_mul] at hmul
  omega

section
variable {x : Binary64} {num den : Nat}

theorem units_eq (x : Binary64) : x.units = x.significand * 2 ^ x.scale := by
  rw [units, two_pow_eq]

theorem units_lt (x : Binary64) : x.units < 2 ^ 53 * 2 ^ x.scale := by
  rw [units_eq]
  exact Nat.mul_lt_mul_of_pos_right (two_pow_eq 53 ▸ x.normal.1) (Nat.two_pow_pos _)

/-- A quotient that is not above a double is rounded at a place of the double or below. -/
theorem scaleFor_le (hden : 0 < den) (h : num * unitsPerOne ≤ x.units * den) :
    scaleFor (num * unitsPerOne / den) ≤ x.scale := by
  by_contra hlt
  obtain ⟨-, hlow⟩ := (scaleFor_div_eq_iff hden).1 (Eq.refl (scaleFor (num * unitsPerOne / den)))
  have hlow := hlow.resolve_left (by omega)
  have hpow : 2 ^ 53 * 2 ^ x.scale ≤ 2 ^ 52 * 2 ^ scaleFor (num * unitsPerOne / den) := by
    rw [← Nat.pow_add, ← Nat.pow_add]
    exact Nat.pow_le_pow_right (by decide) (by omega)
  have hle : 2 ^ 52 * 2 ^ scaleFor (num * unitsPerOne / den) * den ≤ x.units * den := by
    rw [Nat.mul_assoc, Nat.mul_comm _ den]
    exact Nat.le_trans hlow h
  have hunits := x.units_lt
  exact Nat.not_lt.2 (Nat.le_of_mul_le_mul_right hle hden) (Nat.lt_of_lt_of_le hunits hpow)

/-- The double is a multiple of such a place, and the quotient is not rounded beyond it. -/
theorem roundHalfEven_mul_le {scale : Nat} (hden : 0 < den) (hscale : scale ≤ x.scale)
    (h : num * unitsPerOne ≤ x.units * den) :
    roundHalfEven (num * unitsPerOne) (den * 2 ^ scale) * 2 ^ scale ≤ x.units := by
  have hmultiple : x.units = x.significand * 2 ^ (x.scale - scale) * 2 ^ scale := by
    rw [units_eq, Nat.mul_assoc, ← Nat.pow_add, Nat.sub_add_cancel hscale]
  have hplace : 0 < den * 2 ^ scale := Nat.mul_pos hden (Nat.two_pow_pos scale)
  rw [hmultiple] at h ⊢
  rw [Nat.mul_assoc _ (2 ^ scale), Nat.mul_comm (2 ^ scale)] at h
  exact Nat.mul_le_mul_right _ (roundHalfEven_le_of_le hplace h)

/-- Rounding does not pass a double. -/
theorem exists_ofRatio?_le (negative : Bool) (hden : 0 < den)
    (h : num * unitsPerOne ≤ x.units * den) :
    ∃ z, ofRatio? negative num den = some z ∧ z.units ≤ x.units := by
  have hscale_le := scaleFor_le hden h
  obtain ⟨scale, hscale⟩ : ∃ scale, scaleFor (num * unitsPerOne / den) = scale := ⟨_, rfl⟩
  obtain ⟨hhigh, hlow⟩ := (scaleFor_div_eq_iff hden).1 hscale
  rw [hscale] at hscale_le
  have hplace : 0 < den * 2 ^ scale := Nat.mul_pos hden (Nat.two_pow_pos scale)
  have hle := roundHalfEven_mul_le hden hscale_le h
  have hbits := roundHalfEven_le_of_le hplace (Nat.le_of_lt hhigh)
  have hmost : x.scale ≤ 2045 := x.normal.2.1
  rw [ofRatio?_eq, hscale]
  split
  · next hcarry =>
    -- the double is above the bits that the carry overflows, so there is a scale left
    rw [hcarry] at hle
    have hroom : scale < x.scale := by
      have hpow := Nat.lt_of_le_of_lt hle x.units_lt
      exact (Nat.pow_lt_pow_iff_right (by decide)).1 (Nat.lt_of_mul_lt_mul_left hpow)
    have hnormal : NormalForm (2 ^ 52) (scale + 1) := ⟨by decide, by omega, .inl (by decide)⟩
    refine ⟨_, dif_pos hnormal, ?_⟩
    have hnext : 2 ^ 52 * 2 ^ (scale + 1) = 2 ^ 53 * 2 ^ scale := by
      rw [← Nat.pow_add, ← Nat.pow_add]
      congr 1
      omega
    rw [units_eq]
    exact hnext ▸ hle
  · next hcarry =>
    have hfull : 2 ^ 52 ≤ roundHalfEven (num * unitsPerOne) (den * 2 ^ scale) ∨ scale = 0 := by
      refine hlow.symm.imp_left fun hlow => ?_
      exact Nat.le_trans ((Nat.le_div_iff_mul_le hplace).2 hlow) (le_roundHalfEven _ _)
    have hnormal : NormalForm (roundHalfEven (num * unitsPerOne) (den * 2 ^ scale)) scale :=
      ⟨two_pow_eq 53 ▸ Nat.lt_of_le_of_ne hbits hcarry, by omega, two_pow_eq 52 ▸ hfull⟩
    refine ⟨_, dif_pos hnormal, ?_⟩
    rw [units_eq]
    exact hle

end

/-! ## Steps downwards -/

section
variable {x y : Binary64} {k : Nat}

/-- What is divided by one or more does not grow. -/
theorem exists_div?_le (hy : unitsPerOne ≤ y.units) :
    ∃ z, x.div? y = some z ∧ z.units ≤ x.units :=
  exists_ofRatio?_le _ (Nat.lt_of_lt_of_le unitsPerOne_pos hy) (Nat.mul_le_mul_left _ hy)

/-- The powers of ten in the range are no less than one when they are rounded. -/
theorem exists_tenPower? (hk : k ≤ topExponent) :
    ∃ y, tenPower? k = some y ∧ unitsPerOne ≤ y.units := by
  have hpos : 0 < 10 ^ k := Nat.pow_pos (by decide)
  rcases Nat.eq_or_lt_of_le hk with rfl | hlt
  · have htop : ((tenPower? topExponent).any fun y => decide (unitsPerOne ≤ y.units)) = true := by
      decide +kernel
    obtain ⟨y, hy, hone⟩ := (Option.any_eq_true _ _).1 htop
    exact ⟨y, hy, of_decide_eq_true hone⟩
  · rw [tenPower?, Nat.pow_eq]
    rcases Nat.lt_or_ge (10 ^ k) (2 ^ 53) with hsmall | hlarge
    · obtain ⟨y, hy, -, hunits⟩ := ofRatio?_of_whole false (Nat.ne_of_gt hpos)
        (Nat.le_of_lt hsmall) Nat.one_pos (Nat.mul_one _).symm
      exact ⟨y, hy, hunits ▸ Nat.le_mul_of_pos_left _ hpos⟩
    · have hmost : 10 ^ k ≤ 10 ^ (topExponent - 1) :=
        Nat.pow_le_pow_right (by decide) (Nat.le_sub_one_of_lt hlt)
      have hlog : (10 ^ k).log2 ≤ 1022 := calc
        (10 ^ k).log2 = Nat.log 2 (10 ^ k) := Nat.log2_eq_log_two
        _ ≤ Nat.log 2 (10 ^ (topExponent - 1)) := Nat.log_mono_right hmost
        _ = (10 ^ (topExponent - 1)).log2 := Nat.log2_eq_log_two.symm
        _ ≤ 1022 := by decide +kernel
      obtain ⟨y, hy⟩ := exists_ofRatio? hlarge hlog false
      have hnearest : 0 < nearestWhole (10 ^ k) :=
        Nat.lt_of_lt_of_le (Nat.two_pow_pos _) (le_nearestWhole hlarge)
      refine ⟨y, hy, ?_⟩
      rw [(units_of_ofRatio? hlarge hy).2]
      exact Nat.le_mul_of_pos_left _ hnearest

theorem exists_overTenPower?_le (hk : k ≤ topExponent) (x : Binary64) :
    ∃ z, x.overTenPower? k = some z ∧ z.units ≤ x.units := by
  obtain ⟨y, hy, hone⟩ := exists_tenPower? hk
  rw [overTenPower?, hy, Option.bind_some]
  exact exists_div?_le hone

theorem exists_overTopPowers?_le (times : Nat) (x : Binary64) :
    ∃ z, x.overTopPowers? times = some z ∧ z.units ≤ x.units := by
  induction times generalizing x with
  | zero => exact ⟨x, rfl, Nat.le_refl _⟩
  | succ times ih =>
    rw [overTopPowers?]
    split
    · exact ⟨x, rfl, Nat.le_refl _⟩
    · obtain ⟨y, hy, hle⟩ := exists_overTenPower?_le (Nat.le_refl topExponent) x
      obtain ⟨z, hz, hle'⟩ := ih y
      rw [hy, Option.bind_some]
      exact ⟨z, hz, Nat.le_trans hle' hle⟩

theorem stepwise?_negSucc (negative : Bool) (digits k : Nat) :
    stepwise? negative digits (.negSucc k) =
      (ofRatio? negative digits 1).bind fun x =>
        (x.overTopPowers? (k / topExponent)).bind (overTenPower? (k % topExponent + 1)) :=
  rfl

/-- The steps for a negative exponent lead to no more than the digits. -/
theorem exists_stepwise?_le {negative : Bool} {digits : Nat}
    (hx : ofRatio? negative digits 1 = some x) (k : Nat) :
    ∃ z, stepwise? negative digits (.negSucc k) = some z ∧ z.units ≤ x.units := by
  obtain ⟨y, hy, hle⟩ := exists_overTopPowers?_le (k / topExponent) x
  have hrest : k % topExponent + 1 ≤ topExponent := Nat.succ_le_of_lt (Nat.mod_lt k (by decide))
  obtain ⟨z, hz, hle'⟩ := exists_overTenPower?_le hrest y
  refine ⟨z, ?_, Nat.le_trans hle' hle⟩
  rw [stepwise?_negSucc, hx, Option.bind_some, hy, Option.bind_some, hz]

end

/-- The double `2 ^ 64`. -/
def wordEnd : Binary64 := ⟨false, Nat.pow 2 52, 1086, by decide⟩

/-- A word divided by a power of ten is in the range of doubles, however small it gets. -/
theorem exists_stepwise?_of_neg {digits : Nat} {exponent : Int} (negative : Bool)
    (hdigits : digits ≤ wordBound) (hexponent : exponent < 0) :
    ∃ z, stepwise? negative digits exponent = some z := by
  have hend : wordEnd.units = wordBound * unitsPerOne := by decide +kernel
  have hbound : digits * unitsPerOne ≤ wordEnd.units * 1 := by
    rw [hend, Nat.mul_one]
    exact Nat.mul_le_mul_right _ hdigits
  obtain ⟨x, hx, -⟩ := exists_ofRatio?_le negative Nat.one_pos hbound
  obtain ⟨k, rfl⟩ := Int.eq_negSucc_of_lt_zero hexponent
  obtain ⟨z, hz, -⟩ := exists_stepwise?_le hx k
  exact ⟨z, hz⟩

/-! ## Short decimals -/

theorem ofRatio?_zero (negative : Bool) {den : Nat} (hden : 0 < den) :
    ofRatio? negative 0 den = some (zero negative) := by
  have hone : ofRatio? negative 0 1 = some (zero negative) := by
    cases negative <;> decide +kernel
  rw [← hone]
  exact ofRatio?_congr negative hden Nat.one_pos (by rw [Nat.zero_mul, Nat.zero_mul])

/-- Whole numbers of up to 53 bits are doubles, zero among them. -/
theorem exists_ofRatio?_one {n : Nat} (negative : Bool) (hle : n ≤ 2 ^ 53) :
    ∃ x, ofRatio? negative n 1 = some x ∧ x.negative = negative ∧ x.units = n * unitsPerOne := by
  rcases Nat.eq_zero_or_pos n with rfl | hpos
  · exact ⟨zero negative, ofRatio?_zero negative Nat.one_pos, rfl,
      (Nat.zero_mul _).trans (Nat.zero_mul _).symm⟩
  · exact ofRatio?_of_whole negative (Nat.ne_of_gt hpos) hle Nat.one_pos (Nat.mul_one n).symm

/-- The exponent of the largest power of ten that is a double. -/
def exactExponent : Nat := 22

section
variable {x : Binary64} {n k : Nat}

theorem tenPower?_exact (hk : k ≤ exactExponent) :
    ∃ y, tenPower? k = some y ∧ y.negative = false ∧ y.units = 10 ^ k * unitsPerOne := by
  have hall : ∀ k ≤ exactExponent, ((tenPower? k).any fun y =>
      decide (y.negative = false ∧ y.units = 10 ^ k * unitsPerOne)) = true := by decide +kernel
  obtain ⟨y, hy, hexact⟩ := (Option.any_eq_true _ _).1 (hall k hk)
  exact ⟨y, hy, of_decide_eq_true hexact⟩

/-- The product with an exact power of ten is rounded once. -/
theorem timesTenPower?_of_units (hx : x.units = n * unitsPerOne) (hk : k ≤ exactExponent) :
    x.timesTenPower? k = ofRatio? x.negative (n * 10 ^ k) 1 := by
  obtain ⟨y, hy, hsign, hunits⟩ := tenPower?_exact hk
  have hone : 0 < unitsPerOne * unitsPerOne := Nat.mul_pos unitsPerOne_pos unitsPerOne_pos
  rw [timesTenPower?, hy, Option.bind_some, mul?, hsign, Bool.bne_false]
  refine ofRatio?_congr _ hone Nat.one_pos ?_
  rw [hx, hunits, Nat.mul_one, Nat.mul_mul_mul_comm]

/-- The quotient by an exact power of ten is rounded once. -/
theorem overTenPower?_of_units (hx : x.units = n * unitsPerOne) (hk : k ≤ exactExponent) :
    x.overTenPower? k = ofRatio? x.negative n (10 ^ k) := by
  obtain ⟨y, hy, hsign, hunits⟩ := tenPower?_exact hk
  have hpos : 0 < 10 ^ k := Nat.pow_pos (by decide)
  rw [overTenPower?, hy, Option.bind_some, div?, hsign, Bool.bne_false, hx, hunits]
  refine ofRatio?_congr _ (Nat.mul_pos hpos unitsPerOne_pos) hpos ?_
  rw [Nat.mul_assoc, Nat.mul_comm unitsPerOne]

end

theorem stepwise?_ofNat (negative : Bool) (digits k : Nat) :
    stepwise? negative digits (.ofNat k) = (ofRatio? negative digits 1).bind fun x =>
      if k ≤ topExponent then x.timesTenPower? k else if x.isZero then some x else none :=
  rfl

/-- A decimal with few digits and a small exponent becomes the nearest double. -/
theorem stepwise?_eq_ofDecimal? {digits : Nat} {exponent : Int} (negative : Bool)
    (hdigits : digits ≤ 2 ^ 53) (hexponent : exponent.natAbs ≤ exactExponent) :
    stepwise? negative digits exponent = ofDecimal? negative digits exponent := by
  obtain ⟨x, hx, hsign, hunits⟩ := exists_ofRatio?_one negative hdigits
  have hbound : exponentBound = 400 := rfl
  have hexact : exactExponent = 22 := rfl
  have htop : topExponent = 308 := rfl
  have hnearest : ofDecimal? negative digits exponent =
      if exponent ≥ 0 then ofRatio? negative (digits * 10 ^ exponent.toNat) 1
      else ofRatio? negative digits (10 ^ (-exponent).toNat) := by
    rcases Nat.eq_zero_or_pos digits with rfl | hpos
    · rw [ofDecimal?, if_pos rfl, Nat.zero_mul, ofRatio?_zero negative Nat.one_pos,
        ofRatio?_zero negative (Nat.pow_pos (by decide)), ite_self]
    · rw [ofDecimal?, if_neg (Nat.ne_of_gt hpos), if_neg (by omega), if_neg (by omega), Nat.pow_eq,
        Nat.pow_eq]
  rw [hnearest]
  cases exponent with
  | ofNat k =>
    have hk : k ≤ exactExponent := hexponent
    rw [stepwise?_ofNat, hx, Option.bind_some, if_pos (by omega), timesTenPower?_of_units hunits hk,
      hsign]
    exact (if_pos (Int.natCast_nonneg k)).symm
  | negSucc k =>
    have hk : k + 1 ≤ exactExponent := hexponent
    have hless : k < topExponent := by omega
    rw [stepwise?_negSucc, hx, Option.bind_some, Nat.div_eq_of_lt hless, Nat.mod_eq_of_lt hless,
      overTopPowers?, Option.bind_some, overTenPower?_of_units hunits hk, hsign]
    exact (if_neg (Int.not_le.2 (Int.negSucc_lt_zero k))).symm

end PostSlots.Decimal.Binary64
