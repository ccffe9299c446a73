import Mathlib.Algebra.Group.Nat.Defs
import Mathlib.Data.Nat.Log
import PostSlots.Decimal.Numeral

/-!
# Whole numbers as doubles

A whole number with more than 53 bits is rounded at the bit that is the last one to fit: its double
stands for a multiple of `2 ^ (bits - 53)`, the next one below or above it.

Results:
1. `Binary64.le_roundHalfEven`, `Binary64.roundHalfEven_le`: rounding goes to a neighbour.
2. `Binary64.units_of_ofRatio?`: the double of a large whole number stands for its `nearestWhole`.
3. `Binary64.exists_ofRatio?`: whole numbers below `2 ^ 1023` have a double.
-/

namespace PostSlots.Decimal.Binary64

/-! ## Rounding a quotient -/

theorem le_roundHalfEven (num den : Nat) : num / den ≤ roundHalfEven num den := by
  unfold roundHalfEven
  dsimp only
  split
  · exact Nat.le_refl _
  · split
    · exact Nat.le_succ _
    · split
      · exact Nat.le_refl _
      · exact Nat.le_succ _

theorem roundHalfEven_le (num den : Nat) : roundHalfEven num den ≤ num / den + 1 := by
  unfold roundHalfEven
  dsimp only
  split
  · exact Nat.le_succ _
  · split
    · exact Nat.le_refl _
    · split
      · exact Nat.le_succ _
      · exact Nat.le_refl _

/-- Rounding depends on the quotient alone. -/
theorem roundHalfEven_mul_right (num den : Nat) {k : Nat} (hk : 0 < k) :
    roundHalfEven (num * k) (den * k) = roundHalfEven num den := by
  have hless : 2 * (num % den * k) < den * k ↔ 2 * (num % den) < den := by
    rw [← Nat.mul_assoc, Nat.mul_lt_mul_right hk]
  have hmore : den * k < 2 * (num % den * k) ↔ den < 2 * (num % den) := by
    rw [← Nat.mul_assoc, Nat.mul_lt_mul_right hk]
  simp only [roundHalfEven, Nat.mul_div_mul_right _ _ hk, Nat.mul_mod_mul_right, gt_iff_lt, hless,
    hmore]

/-- A quotient is rounded by what its remainder is to half of the divisor. -/
theorem roundHalfEven_add (q : Nat) {r den : Nat} (hr : r < den) :
    roundHalfEven (q * den + r) den =
      if 2 * r < den then q else if den < 2 * r then q + 1 else if q % 2 = 0 then q else q + 1 := by
  have hden : 0 < den := Nat.zero_lt_of_lt hr
  have hdiv : (q * den + r) / den = q := by
    rw [Nat.mul_comm, Nat.mul_add_div hden, Nat.div_eq_of_lt hr, Nat.add_zero]
  have hmod : (q * den + r) % den = r := by
    rw [Nat.mul_comm, Nat.mul_add_mod, Nat.mod_eq_of_lt hr]
  simp only [roundHalfEven, hdiv, hmod, gt_iff_lt]

/-- A whole quotient stays as it is. -/
theorem roundHalfEven_mul (q : Nat) {den : Nat} (hden : 0 < den) :
    roundHalfEven (q * den) den = q := by
  have hexact := roundHalfEven_add q hden
  rwa [Nat.add_zero, if_pos (by omega)] at hexact

/-! ## Large whole numbers -/

/-- The place at which a whole number of more than 53 bits is rounded. -/
def lastPlace (n : Nat) : Nat := 2 ^ (n.log2 - 52)

/-- The multiple of its last place that a whole number is rounded to. -/
def nearestWhole (n : Nat) : Nat := roundHalfEven n (lastPlace n) * lastPlace n

theorem two_pow_eq (k : Nat) : Nat.pow 2 k = 2 ^ k := Nat.pow_eq

theorem unitsPerOne_eq : unitsPerOne = 2 ^ 1074 := by decide +kernel

theorem unitsPerOne_pos : 0 < unitsPerOne := by decide +kernel

theorem lastPlace_pos (n : Nat) : 0 < lastPlace n := Nat.two_pow_pos _

section
variable {n : Nat}

theorem log2_ge (hn : 2 ^ 53 ≤ n) : 53 ≤ n.log2 :=
  (Nat.le_log2 (by omega)).2 hn

theorem log2_mul_two_pow (hn : n ≠ 0) (k : Nat) : (n * 2 ^ k).log2 = n.log2 + k := by
  have hne : n * 2 ^ k ≠ 0 := Nat.mul_ne_zero hn (Nat.two_pow_pos k).ne'
  rw [Nat.log2_eq_iff hne]
  constructor
  · rw [Nat.pow_add]
    exact Nat.mul_le_mul_right _ (Nat.log2_self_le hn)
  · rw [Nat.add_right_comm, Nat.pow_add]
    exact Nat.mul_lt_mul_of_pos_right Nat.lt_log2_self (Nat.two_pow_pos k)

theorem log2_mul_unitsPerOne (hn : n ≠ 0) : (n * unitsPerOne).log2 = n.log2 + 1074 := by
  rw [unitsPerOne_eq]
  exact log2_mul_two_pow hn 1074

theorem scaleFor_whole (hn : 2 ^ 53 ≤ n) :
    scaleFor (n * unitsPerOne / 1) = n.log2 + 1022 := by
  have hlog := log2_ge hn
  have hlarge : ¬n * unitsPerOne < Nat.pow 2 53 := by
    have hle : n ≤ n * unitsPerOne := Nat.le_mul_of_pos_right n unitsPerOne_pos
    have hpow := two_pow_eq 53
    omega
  rw [Nat.div_one, scaleFor, if_neg hlarge, log2_mul_unitsPerOne (by omega)]
  omega

/-- The scale of a large whole number takes its last place. -/
theorem pow_scale (hn : 2 ^ 53 ≤ n) :
    1 * Nat.pow 2 (n.log2 + 1022) = lastPlace n * unitsPerOne := by
  have hlog := log2_ge hn
  have hscale : n.log2 + 1022 = n.log2 - 52 + 1074 := by omega
  rw [Nat.one_mul, two_pow_eq, hscale, pow_add, lastPlace, unitsPerOne_eq]

theorem le_div_lastPlace (hn : 2 ^ 53 ≤ n) : 2 ^ 52 ≤ n / lastPlace n := by
  have hlog := log2_ge hn
  rw [Nat.le_div_iff_mul_le (lastPlace_pos n), lastPlace, ← Nat.pow_add,
    Nat.add_sub_cancel' (by omega)]
  exact Nat.log2_self_le (by omega)

theorem div_lastPlace_lt (hn : 2 ^ 53 ≤ n) : n / lastPlace n < 2 ^ 53 := by
  have hlog := log2_ge hn
  have hbits : 53 + (n.log2 - 52) = n.log2 + 1 := by omega
  rw [Nat.div_lt_iff_lt_mul (lastPlace_pos n), lastPlace, ← Nat.pow_add, hbits]
  exact Nat.lt_log2_self

/-- A whole number is rounded to 53 bits, or to the power of two above them. -/
theorem significand_bounds (hn : 2 ^ 53 ≤ n) :
    2 ^ 52 ≤ roundHalfEven n (lastPlace n) ∧ roundHalfEven n (lastPlace n) ≤ 2 ^ 53 := by
  have hlow := le_div_lastPlace hn
  have hhigh := div_lastPlace_lt hn
  have hfloor := le_roundHalfEven n (lastPlace n)
  have hceil := roundHalfEven_le n (lastPlace n)
  omega

theorem ofRatio?_whole (hn : 2 ^ 53 ≤ n) (negative : Bool) :
    ofRatio? negative n 1 =
      if roundHalfEven n (lastPlace n) = Nat.pow 2 53 then
        ofNormalForm? negative (Nat.pow 2 52) (n.log2 + 1023)
      else ofNormalForm? negative (roundHalfEven n (lastPlace n)) (n.log2 + 1022) := by
  simp only [ofRatio?, scaleFor_whole hn, pow_scale hn, roundHalfEven_mul_right _ _ unitsPerOne_pos]

theorem ofNormalForm?_eq_some {negative : Bool} {significand scale : Nat} {x : Binary64}
    (h : ofNormalForm? negative significand scale = some x) :
    x.negative = negative ∧ x.units = significand * Nat.pow 2 scale := by
  unfold ofNormalForm? at h
  split at h
  · cases h
    exact ⟨rfl, rfl⟩
  · cases h

/-- The double of a large whole number stands for the nearest whole number that has one. -/
theorem units_of_ofRatio? (hn : 2 ^ 53 ≤ n) {negative : Bool} {x : Binary64}
    (hx : ofRatio? negative n 1 = some x) :
    x.negative = negative ∧ x.units = nearestWhole n * unitsPerOne := by
  have hscale := pow_scale hn
  rw [Nat.one_mul] at hscale
  rw [ofRatio?_whole hn] at hx
  rw [nearestWhole, Nat.mul_assoc, ← hscale]
  split at hx
  · next hcarry =>
    -- the 54th bit of the carry becomes one more in the scale
    obtain ⟨hsign, hunits⟩ := ofNormalForm?_eq_some hx
    refine ⟨hsign, hunits.trans ?_⟩
    have hbits : 52 + (n.log2 + 1023) = 53 + (n.log2 + 1022) := by omega
    rw [hcarry]
    simp only [two_pow_eq]
    rw [← Nat.pow_add, ← Nat.pow_add, hbits]
  · exact ofNormalForm?_eq_some hx

/-- Whole numbers below `2 ^ 1023` are in the range of doubles. -/
theorem exists_ofRatio? (hn : 2 ^ 53 ≤ n) (hlog : n.log2 ≤ 1022) (negative : Bool) :
    ∃ x, ofRatio? negative n 1 = some x := by
  obtain ⟨hlow, hhigh⟩ := significand_bounds hn
  rw [ofRatio?_whole hn]
  split
  · next hcarry =>
    have hnormal : NormalForm (Nat.pow 2 52) (n.log2 + 1023) :=
      ⟨by decide, by omega, .inl (Nat.le_refl _)⟩
    exact ⟨_, dif_pos hnormal⟩
  · next hcarry =>
    have h52 := two_pow_eq 52
    have h53 := two_pow_eq 53
    have hnormal : NormalForm (roundHalfEven n (lastPlace n)) (n.log2 + 1022) :=
      ⟨by omega, by omega, .inl (by omega)⟩
    exact ⟨_, dif_pos hnormal⟩

/-- A whole number is rounded to no less than the power of two below it. -/
theorem le_nearestWhole (hn : 2 ^ 53 ≤ n) : 2 ^ n.log2 ≤ nearestWhole n := by
  have hlog := log2_ge hn
  have hbits : n.log2 = 52 + (n.log2 - 52) := by omega
  calc 2 ^ n.log2 = 2 ^ 52 * lastPlace n := by rw [lastPlace, ← Nat.pow_add, ← hbits]
    _ ≤ roundHalfEven n (lastPlace n) * lastPlace n :=
      Nat.mul_le_mul_right _ (significand_bounds hn).1

end

/-- Rounding takes less than one place away. -/
theorem lt_nearestWhole_add (n : Nat) : n < nearestWhole n + lastPlace n := by
  calc n < n / lastPlace n * lastPlace n + lastPlace n := Nat.lt_div_mul_add (lastPlace_pos n)
    _ ≤ nearestWhole n + lastPlace n :=
      Nat.add_le_add_right (Nat.mul_le_mul_right _ (le_roundHalfEven n _)) _

/-! ## Around a power of two -/

section
variable {n k : Nat}

/-- Above a power of two, the distance to it decides, and half a place is not enough. -/
theorem nearestWhole_of_lt (hk : 53 ≤ k) (hlow : 2 ^ k ≤ n) (hhigh : n < 2 ^ k + 2 ^ (k - 52)) :
    nearestWhole n = if n ≤ 2 ^ k + 2 ^ (k - 53) then 2 ^ k else 2 ^ k + 2 ^ (k - 52) := by
  have hne : n ≠ 0 := Nat.ne_of_gt (Nat.lt_of_lt_of_le (Nat.two_pow_pos k) hlow)
  have hhalf : 2 ^ (k - 52) = 2 * 2 ^ (k - 53) := by
    have hbits : k - 52 = k - 53 + 1 := by omega
    rw [hbits, Nat.pow_succ']
  have hpow : 2 ^ k = 2 ^ 52 * 2 ^ (k - 52) := by
    rw [← Nat.pow_add, Nat.add_sub_cancel' (by omega)]
  have hlog : n.log2 = k := by
    refine (Nat.log2_eq_iff hne).2 ⟨hlow, ?_⟩
    rw [Nat.pow_succ]
    omega
  have hsplit : n = 2 ^ 52 * 2 ^ (k - 52) + (n - 2 ^ k) := by omega
  have hround : roundHalfEven n (2 ^ (k - 52)) =
      if n ≤ 2 ^ k + 2 ^ (k - 53) then 2 ^ 52 else 2 ^ 52 + 1 := by
    rw [hsplit, roundHalfEven_add _ (by omega), ← hsplit]
    by_cases hle : n ≤ 2 ^ k + 2 ^ (k - 53)
    · rw [if_pos hle]
      split
      · rfl
      · -- a tie, and the power of two is even
        rw [if_neg (by omega), if_pos (by decide)]
    · rw [if_neg hle, if_neg (by omega), if_pos (by omega)]
  rw [nearestWhole, lastPlace, hlog, hround]
  split
  · exact hpow.symm
  · rw [Nat.succ_mul, ← hpow]

theorem nearestWhole_eq_pow (hk : 53 ≤ k) (hlow : 2 ^ k ≤ n) (hhigh : n ≤ 2 ^ k + 2 ^ (k - 53)) :
    nearestWhole n = 2 ^ k := by
  have hlt : 2 ^ (k - 53) < 2 ^ (k - 52) := Nat.pow_lt_pow_right (by decide) (by omega)
  rw [nearestWhole_of_lt hk hlow (by omega), if_pos hhigh]

theorem pow_lt_nearestWhole (hk : 53 ≤ k) (h : 2 ^ k + 2 ^ (k - 53) < n) :
    2 ^ k < nearestWhole n := by
  have hlow : 2 ^ k ≤ n := Nat.le_trans (Nat.le_add_right _ _) (Nat.le_of_lt h)
  have hlarge : 2 ^ 53 ≤ n := Nat.le_trans (Nat.pow_le_pow_right (by decide) hk) hlow
  have hlog : k ≤ n.log2 := (Nat.le_log2 (by omega)).2 hlow
  rcases Nat.eq_or_lt_of_le hlog with hsame | hmore
  · by_cases hnear : n < 2 ^ k + 2 ^ (k - 52)
    · rw [nearestWhole_of_lt hk hlow hnear, if_neg (Nat.not_le.2 h)]
      exact Nat.lt_add_of_pos_right (Nat.two_pow_pos _)
    · have hplace : lastPlace n = 2 ^ (k - 52) := by rw [lastPlace, ← hsame]
      have hfar := lt_nearestWhole_add n
      omega
  · calc 2 ^ k < 2 ^ n.log2 := Nat.pow_lt_pow_right (by decide) hmore
      _ ≤ nearestWhole n := le_nearestWhole hlarge

end

/-! ## Reading a double as a whole number -/

section
variable {x : Binary64} {n : Nat}

theorem isWhole_of_units (hx : x.units = n * unitsPerOne) : x.isWhole = true := by
  rw [isWhole, hx, Nat.mul_mod_left]
  rfl

theorem floor_of_units (hx : x.units = n * unitsPerOne) : x.floor = n := by
  rw [floor, hx, Nat.mul_div_cancel _ unitsPerOne_pos]

end

end PostSlots.Decimal.Binary64
