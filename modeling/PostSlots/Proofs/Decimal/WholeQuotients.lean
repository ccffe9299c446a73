import PostSlots.Proofs.Decimal.ShortestDigits

/-!
# Quotients and whole doubles

Which quotients are rounded to a whole double? Whole ones up to `2 ^ 53` are doubles themselves. Of
the others, no quotient with fewer than 16 digits in front of its power of ten is: a whole number is
at least one unit of its last digit away, and the double nearer than that.

Results:
1. `ofRatio?_congr`: equal quotients have the same double.
2. `ofRatio?_of_whole`: a whole quotient up to `2 ^ 53` is its own double.
3. `near_of_holds`: how far a double may be from what is rounded to it.
4. `isWhole_eq_false`: the double of a quotient with few digits is not whole if the quotient is not.
-/

namespace PostSlots.Decimal.Binary64

/-- Rounding to a double depends on the quotient alone. -/
theorem ofRatio?_mul_right (negative : Bool) (num den : Nat) {k : Nat} (hk : 0 < k) :
    ofRatio? negative (num * k) (den * k) = ofRatio? negative num den := by
  have hnum : num * k * unitsPerOne = num * unitsPerOne * k := Nat.mul_right_comm _ _ _
  have hden (scale : Nat) : den * k * Nat.pow 2 scale = den * Nat.pow 2 scale * k :=
    Nat.mul_right_comm _ _ _
  simp only [ofRatio?, hnum, Nat.mul_div_mul_right _ _ hk, hden, roundHalfEven_mul_right _ _ hk]

theorem ofRatio?_congr (negative : Bool) {num den num' den' : Nat} (hden : 0 < den)
    (hden' : 0 < den') (h : num * den' = num' * den) :
    ofRatio? negative num den = ofRatio? negative num' den' := by
  rw [← ofRatio?_mul_right negative num den hden', h, Nat.mul_comm den,
    ofRatio?_mul_right negative num' den' hden]

/-! ## Whole quotients -/

/-- Whole numbers of up to 53 bits are doubles. -/
theorem exists_units_eq {n : Nat} (negative : Bool) (hn : n ≠ 0) (hle : n ≤ 2 ^ 53) :
    ∃ x : Binary64, x.negative = negative ∧ x.units = n * unitsPerOne := by
  rcases Nat.lt_or_eq_of_le hle with hlt | rfl
  · have hlog : n.log2 < 53 := (Nat.log2_lt hn).2 hlt
    -- shifted to the left until all 53 bits are in use
    have hlow : 2 ^ 52 ≤ n * 2 ^ (52 - n.log2) := by
      have hbits : 2 ^ 52 = 2 ^ n.log2 * 2 ^ (52 - n.log2) := by
        rw [← Nat.pow_add, Nat.add_sub_cancel' (by omega)]
      rw [hbits]
      exact Nat.mul_le_mul_right _ (Nat.log2_self_le hn)
    have hhigh : n * 2 ^ (52 - n.log2) < 2 ^ 53 := by
      have hbits : 2 ^ 53 = 2 ^ (n.log2 + 1) * 2 ^ (52 - n.log2) := by
        rw [← Nat.pow_add]
        congr 1
        omega
      rw [hbits]
      exact Nat.mul_lt_mul_of_pos_right Nat.lt_log2_self (Nat.two_pow_pos _)
    have hnormal : NormalForm (n * 2 ^ (52 - n.log2)) (n.log2 + 1022) :=
      ⟨two_pow_eq 53 ▸ hhigh, by omega, .inl (two_pow_eq 52 ▸ hlow)⟩
    have hscale : 52 - n.log2 + (n.log2 + 1022) = 1074 := by omega
    have hplaces : 2 ^ (52 - n.log2) * 2 ^ (n.log2 + 1022) = unitsPerOne :=
      (Nat.pow_add 2 _ _).symm.trans ((congrArg (2 ^ ·) hscale).trans unitsPerOne_eq.symm)
    refine ⟨⟨negative, _, _, hnormal⟩, rfl, ?_⟩
    rw [units, two_pow_eq, Nat.mul_assoc, hplaces]
  · refine ⟨⟨negative, Nat.pow 2 52, 1075, by decide⟩, rfl, ?_⟩
    cases negative <;> decide +kernel

/-- A whole quotient of up to 53 bits is its own double. -/
theorem ofRatio?_of_whole {n num den : Nat} (negative : Bool) (hn : n ≠ 0) (hle : n ≤ 2 ^ 53)
    (hden : 0 < den) (h : num = n * den) :
    ∃ x, ofRatio? negative num den = some x ∧ x.negative = negative ∧
      x.units = n * unitsPerOne := by
  obtain ⟨x, hsign, hunits⟩ := exists_units_eq negative hn hle
  have hholds := contains_whole hunits (Nat.pos_of_ne_zero hn)
  rw [← Int.ofNat_zero, Interval.contains_natCast_iff, Nat.pow_zero, Nat.mul_one] at hholds
  have hquotient : num * 1 = n * den := by rw [h, Nat.mul_one]
  refine ⟨x, ?_, hsign, hunits⟩
  rw [ofRatio?_congr negative hden Nat.one_pos hquotient]
  exact (ofRatio?_eq_some_iff Nat.one_pos).2 ⟨hsign, hholds⟩

/-- A decimal that is neither too large nor too small is read as its quotient. -/
theorem ofDecimal?_eq_ofRatio? {digits p : Nat} {k : Int} (negative : Bool) (hdigits : digits ≠ 0)
    (hhigh : digits * 10 ^ k.toNat ≤ 2 ^ 53 * 10 ^ (-k).toNat)
    (hlow : 10 ^ (-k).toNat ≤ digits * 10 ^ k.toNat * 10 ^ p) (hp : p ≤ exponentBound) :
    ofDecimal? negative digits k =
      ofRatio? negative (digits * 10 ^ k.toNat) (10 ^ (-k).toNat) := by
  have hbound : exponentBound = 400 := rfl
  have habove : k ≤ exponentBound := by
    by_contra hlarge
    have hneg : (-k).toNat = 0 := by omega
    have hpow : 10 ^ 16 ≤ digits * 10 ^ k.toNat :=
      Nat.le_trans (Nat.pow_le_pow_right (by decide) (by omega))
        (Nat.le_mul_of_pos_left _ (Nat.pos_of_ne_zero hdigits))
    rw [hneg, Nat.pow_zero, Nat.mul_one] at hhigh
    omega
  have hbelow : -k ≤ exponentBound + digits.log2 + 1 := by
    by_contra hsmall
    have hpos : k.toNat = 0 := by omega
    have hlt : digits * 10 ^ p < 10 ^ (digits.log2 + 1) * 10 ^ p := by
      refine Nat.mul_lt_mul_of_pos_right ?_ (Nat.pow_pos (by decide))
      exact Nat.lt_of_lt_of_le Nat.lt_log2_self (Nat.pow_le_pow_left (by decide) _)
    have hle : 10 ^ (digits.log2 + 1) * 10 ^ p ≤ 10 ^ (-k).toNat := by
      rw [← Nat.pow_add]
      exact Nat.pow_le_pow_right (by decide) (by omega)
    rw [hpos, Nat.pow_zero, Nat.mul_one] at hlow
    omega
  rw [ofDecimal?, if_neg hdigits, if_neg (by omega), if_neg (by omega)]
  by_cases hk : k ≥ 0
  · have hneg : (-k).toNat = 0 := by omega
    rw [if_pos hk, hneg, Nat.pow_zero, Nat.pow_eq]
  · have hpos : k.toNat = 0 := by omega
    rw [if_neg hk, hpos, Nat.pow_zero, Nat.mul_one, Nat.pow_eq]

/-! ## Other quotients -/

/-- A unit in the place 300 behind the point still has 53 bits. -/
theorem two_pow_mul_ten_pow_le {p : Nat} (hp : p ≤ 300) : 2 ^ 52 * 10 ^ p ≤ unitsPerOne := by
  have hpow (places : Nat) (h : p ≤ places) : 2 ^ 52 * 10 ^ p ≤ 2 ^ 52 * 10 ^ places :=
    Nat.mul_le_mul_left _ (Nat.pow_le_pow_right (by decide) h)
  -- the product stands for a power that Lean would not evaluate while it unifies
  have hunits : 2 ^ 52 * 10 ^ (3 * 100) ≤ unitsPerOne := by decide +kernel
  exact Nat.le_trans (hpow (3 * 100) hp) hunits

section
variable {x : Binary64} {num den : Nat} {negative : Bool}

/-- A step is small beside a quotient that is rounded to 53 bits. -/
theorem near_of_holds (h : x.interval.Holds num den)
    (hnormal : 2 ^ 52 * den ≤ num * unitsPerOne) :
    2 ^ 53 * (x.units * den) ≤ (2 ^ 53 + 1) * (num * unitsPerOne) ∧
      (2 ^ 53 - 1) * (num * unitsPerOne) ≤ 2 ^ 53 * (x.units * den) := by
  obtain ⟨hbelow, habove⟩ := holds_iff.1 h
  have habove := habove.le
  rw [units_mul]
  rcases Nat.eq_zero_or_pos x.scale with hscale | hscale
  · have hpower : ¬IsPower x := fun hpower => Nat.ne_of_gt hpower.2 hscale
    have hstep : x.stepAt den = den := by rw [stepAt, hscale, Nat.pow_zero, Nat.mul_one]
    rw [if_neg hpower] at hbelow
    have hbelow := hbelow.le
    rw [hstep] at hbelow habove ⊢
    omega
  · have hbits : 2 ^ 52 ≤ x.significand :=
      two_pow_eq 52 ▸ x.normal.2.2.resolve_right (Nat.ne_of_gt hscale)
    by_cases hpower : IsPower x
    · rw [if_pos hpower] at hbelow
      rw [hpower.1] at hbelow habove ⊢
      omega
    · have hmore : 2 ^ 52 + 1 ≤ x.significand :=
        Nat.lt_of_le_of_ne hbits fun heq => hpower ⟨heq.symm, hscale⟩
      have hmul := Nat.mul_le_mul_right (x.stepAt den) hmore
      rw [Nat.succ_mul] at hmul
      rw [if_neg hpower] at hbelow
      have hbelow := hbelow.le
      omega

/-- The double of a quotient that fewer than 16 digits write is whole only if the quotient is. -/
theorem isWhole_eq_false (hden : 0 < den) (h : ofRatio? negative num den = some x)
    (hnormal : 2 ^ 52 * den ≤ num * unitsPerOne) (hdigits : num < 10 ^ 15)
    (hfraction : ¬den ∣ num) : x.isWhole = false := by
  by_contra hwhole
  rw [Bool.not_eq_false] at hwhole
  have hunits : x.units = x.floor * unitsPerOne :=
    (Nat.div_mul_cancel (Nat.dvd_of_mod_eq_zero (beq_iff_eq.1 hwhole))).symm
  obtain ⟨hlow, hhigh⟩ := near_of_holds ((ofRatio?_eq_some_iff hden).1 h).2 hnormal
  have hassoc (a b : Nat) : a * (b * unitsPerOne) = a * b * unitsPerOne :=
    (Nat.mul_assoc _ _ _).symm
  rw [hunits, Nat.mul_right_comm, hassoc, hassoc] at hlow hhigh
  have hlow := Nat.le_of_mul_le_mul_right hlow unitsPerOne_pos
  have hhigh := Nat.le_of_mul_le_mul_right hhigh unitsPerOne_pos
  refine hfraction ⟨x.floor, ?_⟩
  rw [Nat.mul_comm]
  omega

end

end PostSlots.Decimal.Binary64
