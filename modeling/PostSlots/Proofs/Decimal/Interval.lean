import PostSlots.Decimal.Shortest
import PostSlots.Proofs.Decimal.Rounding

/-!
# Quotients that are rounded to a double

A quotient is rounded to a double exactly if it lies in the double's interval: half a step above the
double and half a step below it, or a quarter below a power of two, where the doubles stand closer.
The ends belong to the interval if the significand is even.

Results:
1. `Binary64.roundHalfEven_eq_iff`: the quotients that are rounded to a whole number.
2. `Binary64.ofRatio?_eq_some_iff`: the quotients that are rounded to a double.
3. `Binary64.Interval.Holds.between`: what lies between two quotients of an interval is in it.
-/

namespace PostSlots.Decimal.Binary64

/-- Less, or equal where the ends count. -/
def Below (closed : Bool) (a b : Nat) : Prop :=
  a < b ∨ closed = true ∧ a = b

/-- The quotient `num / den` lies in the interval. -/
def Interval.Holds (i : Interval) (num den : Nat) : Prop :=
  Below i.closed (i.lower * den) (4 * unitsPerOne * num) ∧
    Below i.closed (4 * unitsPerOne * num) (i.upper * den)

/-! ## Comparing -/

section
variable {closed : Bool} {a b c : Nat}

theorem Below.le (h : Below closed a b) : a ≤ b := by
  rcases h with h | ⟨-, h⟩
  · exact Nat.le_of_lt h
  · exact Nat.le_of_eq h

theorem Below.of_lt (h : a < b) : Below closed a b := .inl h

theorem Below.trans_le (hab : Below closed a b) (hbc : b ≤ c) : Below closed a c := by
  rcases hab with h | ⟨hclosed, h⟩
  · exact .inl (Nat.lt_of_lt_of_le h hbc)
  · subst h
    exact (Nat.lt_or_eq_of_le hbc).imp_right fun h => ⟨hclosed, h⟩

theorem Below.le_trans (hab : a ≤ b) (hbc : Below closed b c) : Below closed a c := by
  rcases hbc with h | ⟨hclosed, h⟩
  · exact .inl (Nat.lt_of_le_of_lt hab h)
  · subst h
    exact (Nat.lt_or_eq_of_le hab).imp_right fun h => ⟨hclosed, h⟩

theorem below_true_iff : Below true a b ↔ a ≤ b :=
  ⟨Below.le, fun h => (Nat.lt_or_eq_of_le h).imp_right fun h => ⟨rfl, h⟩⟩

theorem below_false_iff : Below false a b ↔ a < b :=
  ⟨fun h => h.resolve_right fun h => Bool.noConfusion h.1, .inl⟩

/-- A common factor does not matter. -/
theorem below_mul_right_iff {k : Nat} (hk : 0 < k) :
    Below closed (a * k) (b * k) ↔ Below closed a b := by
  rw [Below, Below, Nat.mul_lt_mul_right hk, Nat.mul_right_cancel_iff hk]

end

/-! ## Whole numbers -/

/-- The quotients that are rounded to a whole number: half a unit around it, with the ends around an
even one. -/
theorem roundHalfEven_eq_iff {num den r : Nat} (hden : 0 < den) :
    roundHalfEven num den = r ↔
      Below (decide (r % 2 = 0)) (2 * (r * den)) (2 * num + den) ∧
        Below (decide (r % 2 = 0)) (2 * num) (2 * (r * den) + den) := by
  obtain ⟨q, rem, hrem, rfl⟩ : ∃ q rem, rem < den ∧ num = q * den + rem :=
    ⟨num / den, num % den, Nat.mod_lt _ hden, (Nat.div_add_mod' num den).symm⟩
  rw [roundHalfEven_add q hrem]
  simp only [Below, decide_eq_true_eq]
  constructor
  · rintro rfl
    have hsucc : (q + 1) * den = q * den + den := Nat.succ_mul q den
    split_ifs <;> omega
  · rintro ⟨hlow, hhigh⟩
    -- only the whole numbers on both sides of the quotient are near enough
    have hle : q ≤ r := by
      by_contra hlt
      have hmul : (r + 1) * den ≤ q * den := Nat.mul_le_mul_right den (by omega)
      have hsucc : (r + 1) * den = r * den + den := Nat.succ_mul r den
      omega
    have hge : r ≤ q + 1 := by
      by_contra hlt
      have hmul : (q + 2) * den ≤ r * den := Nat.mul_le_mul_right den (by omega)
      have hsucc : (q + 2) * den = q * den + 2 * den := Nat.add_mul q 2 den
      omega
    have hsucc : (q + 1) * den = q * den + den := Nat.succ_mul q den
    obtain rfl | rfl : r = q ∨ r = q + 1 := by omega
    · split_ifs <;> omega
    · split_ifs <;> omega

/-! ## Scales -/

/-- The scale of a magnitude leaves 53 bits of it, or is the least one. -/
theorem scaleFor_eq_iff {units scale : Nat} :
    scaleFor units = scale ↔
      units < 2 ^ 53 * 2 ^ scale ∧ (scale = 0 ∨ 2 ^ 52 * 2 ^ scale ≤ units) := by
  have hone : 2 ^ 53 ≤ units → scaleFor units = units.log2 - 52 := fun h =>
    if_neg (Nat.not_lt.2 (two_pow_eq 53 ▸ h))
  constructor
  · rintro rfl
    by_cases hsmall : units < 2 ^ 53
    · have hzero : scaleFor units = 0 := if_pos (two_pow_eq 53 ▸ hsmall)
      rw [hzero]
      exact ⟨by omega, .inl rfl⟩
    · have hlarge := Nat.not_lt.1 hsmall
      have hlog := log2_ge hlarge
      have hhigh : 53 + (units.log2 - 52) = units.log2 + 1 := by omega
      have hlow : 52 + (units.log2 - 52) = units.log2 := by omega
      rw [hone hlarge, ← Nat.pow_add, ← Nat.pow_add, hhigh, hlow]
      exact ⟨Nat.lt_log2_self, .inr (Nat.log2_self_le (by omega))⟩
  · rintro ⟨hhigh, hlow⟩
    by_cases hzero : scale = 0
    · subst hzero
      exact if_pos (two_pow_eq 53 ▸ by omega)
    · have hlow := hlow.resolve_left hzero
      have htwo : 2 ≤ 2 ^ scale := by
        obtain ⟨k, rfl⟩ := Nat.exists_eq_succ_of_ne_zero hzero
        have hpos := Nat.two_pow_pos k
        rw [Nat.pow_succ]
        omega
      have hlog : units.log2 = 52 + scale := by
        rw [Nat.log2_eq_iff (by omega)]
        refine ⟨by rwa [Nat.pow_add], ?_⟩
        rwa [Nat.add_right_comm, Nat.pow_add]
      rw [hone (by omega), hlog, Nat.add_sub_cancel_left]

/-- The scale that is found for a quotient. -/
theorem scaleFor_div_eq_iff {num den scale : Nat} (hden : 0 < den) :
    scaleFor (num / den) = scale ↔
      num < 2 ^ 53 * (den * 2 ^ scale) ∧ (scale = 0 ∨ 2 ^ 52 * (den * 2 ^ scale) ≤ num) := by
  have hswap (n : Nat) : n * (den * 2 ^ scale) = n * 2 ^ scale * den := by
    rw [Nat.mul_comm den, Nat.mul_assoc]
  rw [scaleFor_eq_iff, Nat.div_lt_iff_lt_mul hden, Nat.le_div_iff_mul_le hden, hswap, hswap]

/-! ## Doubles -/

section
variable {x : Binary64} {num den : Nat}

/-- Below a power of two the doubles stand closer. -/
def IsPower (x : Binary64) : Prop := x.significand = 2 ^ 52 ∧ 0 < x.scale

instance (x : Binary64) : Decidable (IsPower x) := inferInstanceAs (Decidable (_ ∧ _))

/-- A step of the double, times a denominator. -/
def stepAt (x : Binary64) (den : Nat) : Nat := den * 2 ^ x.scale

theorem units_mul (x : Binary64) (den : Nat) : x.units * den = x.significand * x.stepAt den := by
  rw [units, two_pow_eq, stepAt, Nat.mul_assoc, Nat.mul_comm den]

theorem lower_mul (x : Binary64) (den : Nat) :
    x.interval.lower * den = 4 * (x.significand * x.stepAt den) -
      if IsPower x then x.stepAt den else 2 * x.stepAt den := by
  have hstep : Nat.pow 2 x.scale * den = x.stepAt den := by
    rw [two_pow_eq, stepAt, Nat.mul_comm]
  have hlower : x.interval.lower =
      4 * x.units - if IsPower x then Nat.pow 2 x.scale else 2 * Nat.pow 2 x.scale := rfl
  rw [hlower, Nat.sub_mul, Nat.mul_assoc, units_mul]
  split
  · rw [hstep]
  · rw [Nat.mul_assoc, hstep]

theorem upper_mul (x : Binary64) (den : Nat) :
    x.interval.upper * den = 4 * (x.significand * x.stepAt den) + 2 * x.stepAt den := by
  have hupper : x.interval.upper = 4 * x.units + 2 * Nat.pow 2 x.scale := rfl
  rw [hupper, Nat.add_mul, Nat.mul_assoc, units_mul, Nat.mul_assoc, two_pow_eq,
    Nat.mul_comm _ den]
  rfl

theorem IsPower.closed (h : IsPower x) : x.interval.closed = true := by
  refine decide_eq_true ?_
  rw [h.1]
  decide

/-- The interval in half steps around the double, and with a quarter step below a power of two. -/
theorem holds_iff :
    x.interval.Holds num den ↔
      (if IsPower x then
        4 * (x.significand * x.stepAt den) ≤ 4 * (num * unitsPerOne) + x.stepAt den
      else Below x.interval.closed (2 * (x.significand * x.stepAt den))
        (2 * (num * unitsPerOne) + x.stepAt den)) ∧
      Below x.interval.closed (2 * (num * unitsPerOne))
        (2 * (x.significand * x.stepAt den) + x.stepAt den) := by
  have hpoint : 4 * unitsPerOne * num = 4 * (num * unitsPerOne) := by
    rw [Nat.mul_assoc, Nat.mul_comm num]
  rw [Interval.Holds, lower_mul, upper_mul, hpoint]
  by_cases hclosed : x.interval.closed = true
  · rw [hclosed]
    simp only [below_true_iff]
    split_ifs
    · omega
    · omega
  · have hpower : ¬IsPower x := fun h => hclosed h.closed
    have hodd : x.significand % 2 ≠ 0 := fun h => hclosed (decide_eq_true h)
    have hstep : x.stepAt den ≤ x.significand * x.stepAt den :=
      Nat.le_mul_of_pos_left _ (by omega)
    rw [Bool.eq_false_iff.2 hclosed]
    simp only [below_false_iff, if_neg hpower]
    omega

theorem ofNormalForm?_parts {negative : Bool} {significand scale : Nat}
    (h : ofNormalForm? negative significand scale = some x) :
    x.negative = negative ∧ x.significand = significand ∧ x.scale = scale := by
  unfold ofNormalForm? at h
  split at h
  · cases h
    exact ⟨rfl, rfl, rfl⟩
  · cases h

theorem ofNormalForm?_self (x : Binary64) : ofNormalForm? x.negative x.significand x.scale = some x :=
  dif_pos x.normal

theorem stepAt_pos (x : Binary64) (hden : 0 < den) : 0 < x.stepAt den :=
  Nat.mul_pos hden (Nat.two_pow_pos _)

/-- What is rounded without a carry lies in the interval of the double with these bits. -/
theorem holds_of_round (hden : 0 < den) (hscale : scaleFor (num * unitsPerOne / den) = x.scale)
    (hround : roundHalfEven (num * unitsPerOne) (x.stepAt den) = x.significand) :
    x.interval.Holds num den := by
  obtain ⟨-, hlow⟩ := (scaleFor_div_eq_iff hden).1 hscale
  obtain ⟨hbelow, habove⟩ := (roundHalfEven_eq_iff (x.stepAt_pos hden)).1 hround
  rw [holds_iff]
  refine ⟨?_, habove⟩
  split
  · next hpower =>
    -- the scale keeps all 53 bits, so nothing below the power of two has been rounded up to it
    have hlow : 2 ^ 52 * x.stepAt den ≤ num * unitsPerOne :=
      hlow.resolve_left (Nat.ne_of_gt hpower.2)
    rw [hpower.1]
    omega
  · exact hbelow

/-- What is rounded up to 54 bits lies in the interval of the power of two that it is rounded to. -/
theorem holds_of_carry {scale : Nat} (hden : 0 < den)
    (hscale : scaleFor (num * unitsPerOne / den) = scale)
    (hround : roundHalfEven (num * unitsPerOne) (den * 2 ^ scale) = 2 ^ 53)
    (hsignificand : x.significand = 2 ^ 52) (hx : x.scale = scale + 1) :
    x.interval.Holds num den := by
  have hstep : x.stepAt den = 2 * (den * 2 ^ scale) := by
    rw [stepAt, hx, Nat.pow_succ, ← Nat.mul_assoc, Nat.mul_comm]
  have hpower : IsPower x := ⟨hsignificand, by omega⟩
  obtain ⟨hhigh, -⟩ := (scaleFor_div_eq_iff hden).1 hscale
  obtain ⟨hbelow, -⟩ := (roundHalfEven_eq_iff (Nat.mul_pos hden (Nat.two_pow_pos scale))).1 hround
  have hbelow := hbelow.le
  rw [holds_iff, if_pos hpower, hpower.closed, below_true_iff, hsignificand, hstep]
  omega

/-- A quotient of the interval at the double's own scale is rounded to the double. -/
theorem round_of_holds (hden : 0 < den) (h : x.interval.Holds num den)
    (hscale : x.scale = 0 ∨ 2 ^ 52 * x.stepAt den ≤ num * unitsPerOne) :
    scaleFor (num * unitsPerOne / den) = x.scale ∧
      roundHalfEven (num * unitsPerOne) (x.stepAt den) = x.significand := by
  have hstep := x.stepAt_pos hden
  have hbits : x.significand < 2 ^ 53 := two_pow_eq 53 ▸ x.normal.1
  obtain ⟨hbelow, habove⟩ := holds_iff.1 h
  have hmul : (x.significand + 1) * x.stepAt den ≤ 2 ^ 53 * x.stepAt den :=
    Nat.mul_le_mul_right _ hbits
  rw [Nat.succ_mul] at hmul
  refine ⟨(scaleFor_div_eq_iff hden).2 ⟨?_, hscale⟩, (roundHalfEven_eq_iff hstep).2 ⟨?_, habove⟩⟩
  · have hle := habove.le
    change num * unitsPerOne < 2 ^ 53 * x.stepAt den
    omega
  · split at hbelow
    · next hpower =>
      have hlow := hscale.resolve_left (Nat.ne_of_gt hpower.2)
      refine .of_lt ?_
      rw [hpower.1]
      omega
    · exact hbelow

/-- A quotient of the interval below the double's own scale is rounded up to a power of two. -/
theorem carry_of_holds (hden : 0 < den) (h : x.interval.Holds num den) (hscale : 0 < x.scale)
    (hlow : num * unitsPerOne < 2 ^ 52 * x.stepAt den) :
    ∃ scale, x.significand = 2 ^ 52 ∧ x.scale = scale + 1 ∧
      scaleFor (num * unitsPerOne / den) = scale ∧
      roundHalfEven (num * unitsPerOne) (den * 2 ^ scale) = 2 ^ 53 := by
  obtain ⟨scale, hsucc⟩ := Nat.exists_eq_succ_of_ne_zero (Nat.ne_of_gt hscale)
  have hhalf : 0 < den * 2 ^ scale := Nat.mul_pos hden (Nat.two_pow_pos scale)
  have hstep : x.stepAt den = 2 * (den * 2 ^ scale) := by
    rw [stepAt, hsucc, Nat.pow_succ, ← Nat.mul_assoc, Nat.mul_comm]
  have hbits : 2 ^ 52 ≤ x.significand :=
    two_pow_eq 52 ▸ x.normal.2.2.resolve_right (Nat.ne_of_gt hscale)
  obtain ⟨hbelow, -⟩ := holds_iff.1 h
  have hpower : IsPower x := by
    by_contra hpower
    rw [if_neg hpower] at hbelow
    have hmore : 2 ^ 52 + 1 ≤ x.significand :=
      Nat.lt_of_le_of_ne hbits fun heq => hpower ⟨heq.symm, hscale⟩
    have hmul := Nat.mul_le_mul_right (x.stepAt den) hmore
    rw [Nat.succ_mul] at hmul
    have hle := hbelow.le
    omega
  rw [if_pos hpower, hpower.1, hstep] at hbelow
  refine ⟨scale, hpower.1, hsucc, (scaleFor_div_eq_iff hden).2 ⟨by omega, .inr (by omega)⟩,
    (roundHalfEven_eq_iff hhalf).2 ⟨below_true_iff.2 ?_, below_true_iff.2 ?_⟩⟩
  · omega
  · omega

theorem ofRatio?_eq (negative : Bool) (num den : Nat) :
    ofRatio? negative num den =
      if roundHalfEven (num * unitsPerOne) (den * 2 ^ scaleFor (num * unitsPerOne / den)) = 2 ^ 53
      then ofNormalForm? negative (2 ^ 52) (scaleFor (num * unitsPerOne / den) + 1)
      else ofNormalForm? negative
        (roundHalfEven (num * unitsPerOne) (den * 2 ^ scaleFor (num * unitsPerOne / den)))
        (scaleFor (num * unitsPerOne / den)) := by
  simp only [ofRatio?, two_pow_eq]

/-- The quotients that are rounded to a double are those of its interval. -/
theorem ofRatio?_eq_some_iff {negative : Bool} (hden : 0 < den) :
    ofRatio? negative num den = some x ↔ x.negative = negative ∧ x.interval.Holds num den := by
  rw [ofRatio?_eq]
  constructor
  · intro h
    split at h
    · next hcarry =>
      obtain ⟨hsign, hsignificand, hscale⟩ := ofNormalForm?_parts h
      exact ⟨hsign, holds_of_carry hden rfl hcarry hsignificand hscale⟩
    · obtain ⟨hsign, hsignificand, hscale⟩ := ofNormalForm?_parts h
      refine ⟨hsign, holds_of_round hden hscale.symm ?_⟩
      rw [stepAt, hscale, hsignificand]
  · rintro ⟨rfl, h⟩
    by_cases hscale : x.scale = 0 ∨ 2 ^ 52 * x.stepAt den ≤ num * unitsPerOne
    · obtain ⟨hfound, hround⟩ := round_of_holds hden h hscale
      have hbits : x.significand < 2 ^ 53 := two_pow_eq 53 ▸ x.normal.1
      rw [stepAt] at hround
      rw [hfound, hround, if_neg (Nat.ne_of_lt hbits)]
      exact ofNormalForm?_self x
    · rw [not_or, Nat.not_le] at hscale
      obtain ⟨scale, hsignificand, hsucc, hfound, hround⟩ :=
        carry_of_holds hden h (Nat.pos_of_ne_zero hscale.1) hscale.2
      rw [hfound, if_pos hround, ← hsignificand, ← hsucc]
      exact ofNormalForm?_self x

end

/-! ## Decimals -/

namespace Interval

variable {i : Interval}

/-- A decimal lies in an interval if it does as a quotient. -/
theorem contains_iff {c : Nat} {k : Int} :
    i.contains c k = true ↔ i.Holds (c * 10 ^ k.toNat) (10 ^ (-k).toNat) := by
  have hpoint : c * Nat.pow 10 k.toNat * (4 * unitsPerOne) =
      4 * unitsPerOne * (c * 10 ^ k.toNat) := by
    rw [Nat.mul_comm]
    rfl
  rw [contains, Holds, hpoint]
  cases i.closed
  · simp [below_false_iff]
  · simp [below_true_iff]

/-- A whole decimal lies in an interval if it does as a whole number. -/
theorem contains_natCast_iff {c k : Nat} :
    i.contains c (k : Int) = true ↔ i.Holds (c * 10 ^ k) 1 := by
  have hneg : (-(k : Int)).toNat = 0 := by omega
  rw [contains_iff, hneg, Int.toNat_natCast, Nat.pow_zero]

/-- What lies between two quotients of an interval is in it. -/
theorem Holds.between {num den num₁ den₁ num₂ den₂ : Nat} (h₁ : i.Holds num₁ den₁)
    (h₂ : i.Holds num₂ den₂) (hden₁ : 0 < den₁) (hden₂ : 0 < den₂) (hden : 0 < den)
    (hlow : num₁ * den ≤ num * den₁) (hhigh : num * den₂ ≤ num₂ * den) : i.Holds num den := by
  have hpoint (a b : Nat) : 4 * unitsPerOne * a * b = 4 * unitsPerOne * (a * b) :=
    Nat.mul_assoc _ a b
  constructor
  · rw [← below_mul_right_iff hden₁, Nat.mul_right_comm, hpoint]
    have hscaled := (below_mul_right_iff hden).2 h₁.1
    rw [hpoint] at hscaled
    exact hscaled.trans_le (Nat.mul_le_mul_left _ hlow)
  · rw [← below_mul_right_iff hden₂, Nat.mul_right_comm i.upper, hpoint]
    have hscaled := (below_mul_right_iff hden).2 h₂.2
    rw [hpoint] at hscaled
    exact .le_trans (Nat.mul_le_mul_left _ hhigh) hscaled

end Interval

end PostSlots.Decimal.Binary64
