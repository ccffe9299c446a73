import PostSlots.Decimal.Layout
import PostSlots.Proofs.Decimal.Interval

/-!
# Shortest decimals of whole doubles

The shortest decimal of a double is looked for among coarser and then finer powers of ten. The first
one that has a multiple in the double's interval gives a decimal that is read back as the double,
and no decimal with fewer digits is. For a whole double it is found at the units at the latest, so
that it is a whole number as well, though not always the double itself.

Results:
1. `Interval.coarsest_spec`: the power of ten that the search ends with, and those it passes over.
2. `exists_shortest`: the shortest decimal of a whole double is a whole number.
3. `isShortest_of_whole`: it is read back, and nothing shorter is.
4. `shortest_eq_of_le`: up to `2 ^ 54` it is the double itself.
-/

namespace PostSlots.Decimal.Binary64

/-- The decimal `± c · 10 ^ k` is read as the double, and no decimal with fewer digits is. -/
structure IsShortest (x : Binary64) (c : Nat) (k : Int) : Prop where
  reads : ofDecimal? x.negative c k = some x
  fewest : ∀ d e, ofDecimal? x.negative d e = some x → (digitsOf c).length ≤ (digitsOf d).length

/-! ## Searching an interval -/

namespace Interval

/-- An interval around its value. -/
def HasValue (i : Interval) : Prop :=
  Below i.closed i.lower i.value ∧ Below i.closed i.value i.upper

section
variable {i : Interval} {k : Int} {c : Nat}

/-- The multiple of a power of ten below the value, or at it. -/
def floorAt (i : Interval) (k : Int) : Nat :=
  i.value * 10 ^ (-k).toNat / (4 * unitsPerOne * 10 ^ k.toNat)

theorem nearest?_eq (i : Interval) (k : Int) :
    i.nearest? k =
      match i.contains (i.floorAt k) k && i.floorAt k != 0, i.contains (i.floorAt k + 1) k with
      | true, true =>
        some (roundHalfEven (i.value * 10 ^ (-k).toNat) (4 * unitsPerOne * 10 ^ k.toNat))
      | true, false => some (i.floorAt k)
      | false, true => some (i.floorAt k + 1)
      | false, false => none :=
  rfl

theorem contains_of_nearest? (h : i.nearest? k = some c) : i.contains c k = true ∧ c ≠ 0 := by
  rw [nearest?_eq] at h
  have hleast := le_roundHalfEven (i.value * 10 ^ (-k).toNat) (4 * unitsPerOne * 10 ^ k.toNat)
  have hmost := roundHalfEven_le (i.value * 10 ^ (-k).toNat) (4 * unitsPerOne * 10 ^ k.toNat)
  rw [← floorAt] at hleast hmost
  split at h
  · next hbelow habove =>
    simp only [Bool.and_eq_true, bne_iff_ne] at hbelow
    rw [← Option.some.inj h]
    -- rounding goes to one of the two neighbours, and both lie in the interval
    rcases Nat.eq_or_lt_of_le hleast with heq | hlt
    · rw [← heq]
      exact hbelow
    · rw [Nat.le_antisymm hmost hlt]
      exact ⟨habove, Nat.succ_ne_zero _⟩
  · next hbelow _ =>
    simp only [Bool.and_eq_true, bne_iff_ne] at hbelow
    rw [← Option.some.inj h]
    exact hbelow
  · next _ habove =>
    rw [← Option.some.inj h]
    exact ⟨habove, Nat.succ_ne_zero _⟩
  · cases h

/-- Nothing is found if neither neighbour of the value lies in the interval. -/
theorem neighbours_of_nearest? (h : i.nearest? k = none) :
    (i.contains (i.floorAt k) k = true → i.floorAt k = 0) ∧
      i.contains (i.floorAt k + 1) k = false := by
  rw [nearest?_eq] at h
  split at h
  · cases h
  · cases h
  · cases h
  · next hbelow habove =>
    refine ⟨fun hcontains => ?_, habove⟩
    rwa [hcontains, Bool.true_and, bne_eq_false_iff_eq] at hbelow

/-- If a multiple of a power of ten lies in the interval, one of the value's neighbours does. -/
theorem contains_eq_false (hvalue : i.HasValue) (h : i.nearest? k = none) (hc : c ≠ 0) :
    i.contains c k = false := by
  obtain ⟨hbelow, habove⟩ := neighbours_of_nearest? h
  by_contra hcontains
  rw [Bool.not_eq_false, contains_iff] at hcontains
  obtain ⟨hlow, hhigh⟩ := hcontains
  have hden : 0 < 4 * unitsPerOne * 10 ^ k.toNat :=
    Nat.mul_pos (Nat.mul_pos (by decide) unitsPerOne_pos) (Nat.pow_pos (by decide))
  have hup : 0 < 10 ^ (-k).toNat := Nat.pow_pos (by decide)
  have hpoint (a : Nat) :
      4 * unitsPerOne * (a * 10 ^ k.toNat) = a * (4 * unitsPerOne * 10 ^ k.toNat) :=
    Nat.mul_left_comm _ _ _
  have hmono {a b : Nat} (hab : a ≤ b) :
      4 * unitsPerOne * (a * 10 ^ k.toNat) ≤ 4 * unitsPerOne * (b * 10 ^ k.toNat) :=
    Nat.mul_le_mul_left _ (Nat.mul_le_mul_right _ hab)
  rcases Nat.lt_or_ge (i.floorAt k) c with hlt | hge
  · refine absurd (contains_iff.2 ⟨?_, .le_trans (hmono hlt) hhigh⟩) (Bool.eq_false_iff.1 habove)
    have hvalueLow := (below_mul_right_iff hup).2 hvalue.1
    refine hvalueLow.trans_le ?_
    rw [hpoint]
    exact Nat.le_of_lt ((Nat.div_lt_iff_lt_mul hden).1 (Nat.lt_succ_self _))
  · have hzero : i.floorAt k = 0 := hbelow <| by
      have hvalueHigh := (below_mul_right_iff hup).2 hvalue.2
      refine contains_iff.2 ⟨hlow.trans_le (hmono hge), .le_trans ?_ hvalueHigh⟩
      rw [hpoint]
      exact Nat.div_mul_le_self _ _
    omega

/-- The search ends with the coarsest power of ten that has a multiple in the interval. -/
theorem coarsest_spec {fuel : Nat} {stop : Int} (hstop : stop ≤ k) (hfuel : k - stop < fuel)
    (hhit : i.nearest? stop ≠ none) :
    i.nearest? (i.coarsest fuel k).2 = some (i.coarsest fuel k).1 ∧
      stop ≤ (i.coarsest fuel k).2 ∧ (i.coarsest fuel k).2 ≤ k ∧
      ∀ e, (i.coarsest fuel k).2 < e → e ≤ k → i.nearest? e = none := by
  induction fuel generalizing k with
  | zero => omega
  | succ fuel ih =>
    rw [coarsest]
    split
    · next c hc => exact ⟨hc, hstop, Int.le_refl k, fun e hlt hle => by omega⟩
    · next hmiss =>
      have hne : stop ≠ k := fun heq => hhit (heq ▸ hmiss)
      obtain ⟨hfound, hleast, hmost, hpassed⟩ := ih (k := k - 1) (by omega) (by omega)
      refine ⟨hfound, hleast, by omega, fun e hlt hle => ?_⟩
      rcases Int.lt_or_eq_of_le hle with hless | rfl
      · exact hpassed e hlt (by omega)
      · exact hmiss

end

end Interval

/-! ## Powers -/

/-- Bounds on powers at one exponent are bounds on the numbers of digits at all. -/
theorem two_pow_le_ten_pow {p q : Nat} (hq : 0 < q) (h : 2 ^ q ≤ 10 ^ p) (bits : Nat) :
    2 ^ bits ≤ 10 ^ (bits * p / q + 1) := by
  have hdigits : bits * p ≤ (bits * p / q + 1) * q :=
    Nat.le_of_lt ((Nat.div_lt_iff_lt_mul hq).1 (Nat.lt_succ_self _))
  refine (Nat.pow_le_pow_iff_left (Nat.ne_of_gt hq)).1 ?_
  calc (2 ^ bits) ^ q = (2 ^ q) ^ bits := Nat.pow_right_comm 2 bits q
    _ ≤ (10 ^ p) ^ bits := Nat.pow_le_pow_left h bits
    _ = 10 ^ (bits * p) := by rw [← Nat.pow_mul, Nat.mul_comm]
    _ ≤ 10 ^ ((bits * p / q + 1) * q) := Nat.pow_le_pow_right (by decide) hdigits
    _ = (10 ^ (bits * p / q + 1)) ^ q := Nat.pow_mul 10 _ q

theorem two_pow_add_eq (j : Nat) : 2 ^ (j + 1074) = 2 ^ j * unitsPerOne := by
  rw [unitsPerOne_eq, pow_add]

/-! ## Whole doubles -/

section
variable {x : Binary64} {n : Nat}

/-- A nonzero whole double is a positive number of whole units. -/
theorem units_of_isWhole (hzero : x.isZero = false) (hwhole : x.isWhole = true) :
    x.units = x.floor * unitsPerOne ∧ 0 < x.floor := by
  have hmod : x.units % unitsPerOne = 0 := beq_iff_eq.1 hwhole
  have hunits : x.units = x.floor * unitsPerOne :=
    (Nat.div_mul_cancel (Nat.dvd_of_mod_eq_zero hmod)).symm
  refine ⟨hunits, Nat.pos_of_ne_zero fun hfloor => ?_⟩
  have hpos : 0 < x.significand * 2 ^ x.scale :=
    Nat.mul_pos (Nat.pos_of_ne_zero (beq_eq_false_iff_ne.1 hzero)) (Nat.two_pow_pos _)
  rw [← two_pow_eq, ← units, hunits, hfloor, Nat.zero_mul] at hpos
  exact Nat.lt_irrefl 0 hpos

theorem significand_ne_zero (hx : x.units = n * unitsPerOne) (hn : 0 < n) :
    x.significand ≠ 0 := by
  intro hzero
  have hpos : 0 < n * unitsPerOne := Nat.mul_pos hn unitsPerOne_pos
  rw [← hx, units, hzero, Nat.zero_mul] at hpos
  exact Nat.lt_irrefl 0 hpos

theorem hasValue_interval (hx : x.significand ≠ 0) : x.interval.HasValue := by
  have hstep : 0 < 2 ^ x.scale := Nat.two_pow_pos x.scale
  have hunits : 2 ^ x.scale ≤ x.units := by
    rw [units, two_pow_eq]
    exact Nat.le_mul_of_pos_left _ (Nat.pos_of_ne_zero hx)
  have hlower := lower_mul x 1
  have hupper := upper_mul x 1
  have hvalue : x.interval.value = 4 * x.units := rfl
  rw [Nat.mul_one, ← units_mul, Nat.mul_one, stepAt, Nat.one_mul] at hlower hupper
  refine ⟨.of_lt ?_, .of_lt ?_⟩
  · rw [hlower, hvalue]
    split <;> omega
  · rw [hupper, hvalue]
    omega

/-- A whole double lies in its interval. -/
theorem contains_whole (hx : x.units = n * unitsPerOne) (hn : 0 < n) :
    x.interval.contains n 0 = true := by
  obtain ⟨hlow, hhigh⟩ := hasValue_interval (significand_ne_zero hx hn)
  have hvalue : x.interval.value = 4 * unitsPerOne * n := by
    have hunits : x.interval.value = 4 * x.units := rfl
    rw [hunits, hx, Nat.mul_assoc, Nat.mul_comm n]
  refine Interval.contains_natCast_iff.2 ?_
  rw [Interval.Holds, Nat.pow_zero, Nat.mul_one, Nat.mul_one, Nat.mul_one, ← hvalue]
  exact ⟨hlow, hhigh⟩

/-- At the units the nearest whole number is the double itself. -/
theorem nearest?_whole (hx : x.units = n * unitsPerOne) (hn : 0 < n) :
    x.interval.nearest? 0 = some n := by
  have hcontains := contains_whole hx hn
  have hden : 0 < 4 * unitsPerOne := Nat.mul_pos (by decide) unitsPerOne_pos
  have hvalue : x.interval.value * 10 ^ (-0 : Int).toNat =
      n * (4 * unitsPerOne * 10 ^ (0 : Int).toNat) := by
    have hunits : x.interval.value = 4 * x.units := rfl
    simp only [Int.toNat_zero, Int.neg_zero, Nat.pow_zero, Nat.mul_one]
    rw [hunits, hx, Nat.mul_left_comm]
  have hfloor : x.interval.floorAt 0 = n := by
    rw [Interval.floorAt, hvalue, Nat.mul_div_cancel]
    simpa using hden
  have hround : roundHalfEven (x.interval.value * 10 ^ (-0 : Int).toNat)
      (4 * unitsPerOne * 10 ^ (0 : Int).toNat) = n := by
    rw [hvalue]
    exact roundHalfEven_mul n (by simpa using hden)
  have hne : (n != 0) = true := bne_iff_ne.2 (Nat.ne_of_gt hn)
  rw [Interval.nearest?_eq, hround, hfloor, hcontains, hne]
  cases x.interval.contains (n + 1) 0 <;> rfl

/-! ## The search from above -/

/-- A power of ten above a whole number. -/
def ceilingOf (n : Nat) : Nat := (n.log2 + 1) * 30103 / 100000 + 1

theorem lt_ten_pow_ceilingOf (n : Nat) : n < 10 ^ ceilingOf n := by
  have hpowers : 2 ^ 100000 ≤ 10 ^ 30103 := by decide +kernel
  exact Nat.lt_of_lt_of_le Nat.lt_log2_self (two_pow_le_ten_pow (by decide) hpowers _)

theorem ceilingExponent_whole (hx : x.units = n * unitsPerOne) (hn : 0 < n) :
    x.ceilingExponent = ceilingOf n := by
  have hbits : ((x.units.log2 : Int) + 1 - 1074) = ((n.log2 + 1 : Nat) : Int) := by
    rw [hx, log2_mul_unitsPerOne (Nat.ne_of_gt hn)]
    omega
  rw [ceilingExponent, ceilingOf, hbits, if_pos (Int.natCast_nonneg _)]
  omega

theorem log2_significand_add (hx : x.units = n * unitsPerOne) (hn : 0 < n) :
    x.significand.log2 + x.scale = n.log2 + 1074 := by
  rw [← log2_mul_unitsPerOne (Nat.ne_of_gt hn), ← hx, units, two_pow_eq,
    log2_mul_two_pow (significand_ne_zero hx hn)]

theorem log2_significand_lt (hx : x.units = n * unitsPerOne) (hn : 0 < n) :
    x.significand.log2 < 53 :=
  (Nat.log2_lt (significand_ne_zero hx hn)).2 (two_pow_eq 53 ▸ x.normal.1)

/-- Whole doubles have at most 1024 bits. -/
theorem ceilingOf_le (hx : x.units = n * unitsPerOne) (hn : 0 < n) :
    ceilingOf n ≤ exponentBound := by
  have hlog := log2_significand_add hx hn
  have hbits := log2_significand_lt hx hn
  have hscale : x.scale ≤ 2045 := x.normal.2.1
  have hbound : exponentBound = 400 := rfl
  rw [ceilingOf, hbound]
  omega

/-- No multiple of a power of ten above the ceiling is in the interval. -/
theorem contains_above {c : Nat} {k : Int} (hx : x.units = n * unitsPerOne) (hn : 0 < n)
    (hk : (ceilingOf n : Int) < k) (hc : c ≠ 0) : x.interval.contains c k = false := by
  by_contra hcontains
  obtain ⟨e, rfl⟩ := Int.eq_ofNat_of_zero_le (show 0 ≤ k by omega)
  rw [Bool.not_eq_false, Interval.contains_natCast_iff] at hcontains
  have hupper := hcontains.2.le
  rw [upper_mul, ← units_mul, stepAt, Nat.mul_one, Nat.one_mul, hx] at hupper
  have hstep : 2 ^ x.scale ≤ n * unitsPerOne := by
    rw [← hx, units, two_pow_eq]
    exact Nat.le_mul_of_pos_left _ (Nat.pos_of_ne_zero (significand_ne_zero hx hn))
  have hpoint : 4 * unitsPerOne * (c * 10 ^ e) = 4 * (c * 10 ^ e) * unitsPerOne :=
    Nat.mul_right_comm _ _ _
  have hsmall : 4 * (c * 10 ^ e) ≤ 6 * n := by
    refine Nat.le_of_mul_le_mul_right ?_ unitsPerOne_pos
    rw [Nat.mul_assoc 6]
    omega
  have hpow : 10 * n < 10 ^ e :=
    calc 10 * n < 10 * 10 ^ ceilingOf n :=
          (Nat.mul_lt_mul_left (by decide)).2 (lt_ten_pow_ceilingOf n)
      _ = 10 ^ (ceilingOf n + 1) := (Nat.pow_succ').symm
      _ ≤ 10 ^ e := Nat.pow_le_pow_right (by decide) (by omega)
  have hmul : 10 ^ e ≤ c * 10 ^ e := Nat.le_mul_of_pos_left _ (Nat.pos_of_ne_zero hc)
  omega

/-- The search starts above the double and finds something at the units at the latest. -/
theorem coarsest_whole (hx : x.units = n * unitsPerOne) (hn : 0 < n) :
    x.interval.nearest? x.shortest.2 = some x.shortest.1 ∧ 0 ≤ x.shortest.2 ∧
      x.shortest.2 ≤ ceilingOf n ∧
      ∀ e, x.shortest.2 < e → e ≤ ceilingOf n → x.interval.nearest? e = none := by
  have hhit : x.interval.nearest? 0 ≠ none := by
    rw [nearest?_whole hx hn]
    exact Option.some_ne_none n
  rw [shortest, ceilingExponent_whole hx hn]
  exact Interval.coarsest_spec (by omega) (by omega) hhit

/-- The shortest decimal of a whole double is a whole number. -/
theorem exists_shortest (hx : x.units = n * unitsPerOne) (hn : 0 < n) :
    ∃ c k : Nat, x.shortest = (c, (k : Int)) := by
  obtain ⟨-, hleast, -⟩ := coarsest_whole hx hn
  obtain ⟨k, hk⟩ := Int.eq_ofNat_of_zero_le hleast
  exact ⟨x.shortest.1, k, Prod.ext rfl hk⟩

/-- It is the nearest one at its power of ten, and no coarser decimal is in the interval. -/
theorem shortest_spec {c k : Nat} (hx : x.units = n * unitsPerOne) (hn : 0 < n)
    (h : x.shortest = (c, (k : Int))) :
    x.interval.nearest? k = some c ∧ k ≤ exponentBound ∧
      ∀ d e, (k : Int) < e → d ≠ 0 → x.interval.contains d e = false := by
  have hspec := coarsest_whole hx hn
  rw [h] at hspec
  obtain ⟨hfound, -, hmost, hpassed⟩ := hspec
  have hbound := ceilingOf_le hx hn
  refine ⟨hfound, by omega, fun d e he hd => ?_⟩
  rcases Int.lt_or_le (ceilingOf n) e with habove | hwithin
  · exact contains_above hx hn habove hd
  · have hvalue := hasValue_interval (significand_ne_zero hx hn)
    exact Interval.contains_eq_false hvalue (hpassed e he hwithin) hd

end

/-! ## Reading decimals back -/

section
variable {x : Binary64}

/-- What lies in the interval is read as the double. -/
theorem ofDecimal?_of_contains {c k : Nat} (h : x.interval.contains c k = true) (hc : c ≠ 0)
    (hk : k ≤ exponentBound) : ofDecimal? x.negative c k = some x := by
  rw [Interval.contains_natCast_iff] at h
  rw [ofDecimal?, if_neg hc, if_neg (by omega), if_neg (by omega), if_pos (by omega),
    Int.toNat_natCast, Nat.pow_eq]
  exact (ofRatio?_eq_some_iff Nat.one_pos).2 ⟨rfl, h⟩

/-- What is read as a nonzero double lies in its interval. -/
theorem contains_of_ofDecimal? {negative : Bool} {c : Nat} {k : Int}
    (h : ofDecimal? negative c k = some x) (hx : x.significand ≠ 0) :
    c ≠ 0 ∧ x.interval.contains c k = true := by
  have hzero : some (zero negative) ≠ some x := fun heq =>
    hx (Option.some.inj heq ▸ rfl)
  rw [ofDecimal?] at h
  split at h
  · exact absurd h hzero
  next hc =>
  refine ⟨hc, Interval.contains_iff.2 ?_⟩
  split at h
  · cases h
  split at h
  · exact absurd h hzero
  split at h
  · next hk =>
    have hneg : (-k).toNat = 0 := by omega
    rw [Nat.pow_eq] at h
    rw [hneg, Nat.pow_zero]
    exact ((ofRatio?_eq_some_iff Nat.one_pos).1 h).2
  · next hk =>
    have hpos : k.toNat = 0 := by omega
    rw [Nat.pow_eq] at h
    rw [hpos, Nat.pow_zero, Nat.mul_one]
    exact ((ofRatio?_eq_some_iff (Nat.pow_pos (by decide))).1 h).2

end

/-! ## Fewest digits -/

section
variable {x : Binary64} {c k : Nat}
  (hcontains : x.interval.contains c k = true)
  (hcoarser : ∀ d e, (k : Int) < e → d ≠ 0 → x.interval.contains d e = false)
include hcontains hcoarser

/-- A multiple of the coarsest power does not end in a zero. -/
theorem mod_ten_ne_zero (hc : c ≠ 0) : c % 10 ≠ 0 := by
  intro hmod
  obtain ⟨d, rfl⟩ := Nat.dvd_of_mod_eq_zero hmod
  have hnext := hcoarser d (k + 1 : Nat) (by omega) (by omega)
  rw [Bool.eq_false_iff] at hnext
  refine hnext (Interval.contains_natCast_iff.2 ?_)
  have hsame : 10 * d * 10 ^ k = d * 10 ^ (k + 1) := by
    rw [Nat.pow_succ', Nat.mul_comm 10 d, Nat.mul_assoc]
  rwa [Interval.contains_natCast_iff, hsame] at hcontains

/-- Between a decimal with fewer digits and this one there would be a multiple of a coarser power. -/
theorem length_digits_le {d : Nat} {e : Int} (hd : d ≠ 0) (h : x.interval.contains d e = true) :
    (digitsOf c).length ≤ (digitsOf d).length := by
  by_contra hlt
  have he : e ≤ k := by
    by_contra hgt
    exact Bool.noConfusion (h.symm.trans (hcoarser d e (by omega) hd))
  obtain ⟨length, hlength⟩ : ∃ length, (digitsOf d).length = length + 1 :=
    Nat.exists_eq_succ_of_ne_zero (Nat.ne_of_gt Nat.length_toDigits_pos)
  have hshort : d < 10 ^ (length + 1) :=
    (Nat.length_toDigits_le_iff (by decide) (Nat.succ_pos _)).1 (Nat.le_of_eq hlength)
  have hlong : 10 ^ (length + 1) ≤ c := by
    rw [hlength] at hlt
    exact Nat.not_lt.1 fun hc =>
      hlt ((Nat.length_toDigits_le_iff (by decide) (Nat.succ_pos _)).2 hc)
  have hpower := hcoarser (10 ^ length) (k + 1 : Nat) (by omega) (Nat.pow_pos (by decide)).ne'
  rw [Bool.eq_false_iff] at hpower
  refine hpower (Interval.contains_natCast_iff.2 ?_)
  rw [Interval.contains_iff] at h
  rw [Interval.contains_natCast_iff] at hcontains
  have hsame : 10 ^ length * 10 ^ (k + 1) = 10 ^ (length + 1) * 10 ^ k := by
    rw [← Nat.pow_add, ← Nat.pow_add, Nat.add_right_comm, Nat.add_assoc]
  rw [hsame]
  refine h.between hcontains (Nat.pow_pos (by decide)) Nat.one_pos Nat.one_pos ?_ ?_
  · rw [Nat.mul_one]
    calc d * 10 ^ e.toNat ≤ 10 ^ (length + 1) * 10 ^ k :=
          Nat.mul_le_mul (Nat.le_of_lt hshort) (Nat.pow_le_pow_right (by decide) (by omega))
      _ ≤ 10 ^ (length + 1) * 10 ^ k * 10 ^ (-e).toNat :=
          Nat.le_mul_of_pos_right _ (Nat.pow_pos (by decide))
  · rw [Nat.mul_one, Nat.mul_one]
    exact Nat.mul_le_mul_right _ hlong

end

/-- The shortest decimal of a whole double is read as the double, and nothing shorter is. -/
theorem isShortest_of_whole {x : Binary64} {n c k : Nat} (hx : x.units = n * unitsPerOne)
    (hn : 0 < n) (h : x.shortest = (c, (k : Int))) : x.IsShortest c k := by
  obtain ⟨hnearest, hbound, hcoarser⟩ := shortest_spec hx hn h
  obtain ⟨hcontains, hc⟩ := Interval.contains_of_nearest? hnearest
  refine ⟨ofDecimal?_of_contains hcontains hc hbound, fun d e hread => ?_⟩
  obtain ⟨hd, hcontained⟩ := contains_of_ofDecimal? hread (significand_ne_zero hx hn)
  exact length_digits_le hcontains hcoarser hd hcontained

/-- Its digits do not end in a zero. -/
theorem mod_ten_shortest {x : Binary64} {n c k : Nat} (hx : x.units = n * unitsPerOne)
    (hn : 0 < n) (h : x.shortest = (c, (k : Int))) : c % 10 ≠ 0 := by
  obtain ⟨hnearest, -, hcoarser⟩ := shortest_spec hx hn h
  obtain ⟨hcontains, hc⟩ := Interval.contains_of_nearest? hnearest
  exact mod_ten_ne_zero hcontains hcoarser hc

/-! ## Where the shortest decimal is exact -/

section
variable {x : Binary64} {n : Nat} (hx : x.units = n * unitsPerOne) (hn : 0 < n)
include hx

/-- A whole number in the interval is half a step away at most. -/
theorem near_of_contains {t j : Nat} (h : x.interval.Holds t 1) (hscale : x.scale ≤ 1074 + j) :
    2 * n ≤ 2 * t + 2 ^ j ∧ 2 * t ≤ 2 * n + 2 ^ j := by
  have hstep : x.stepAt 1 ≤ 2 ^ j * unitsPerOne := by
    rw [stepAt, Nat.one_mul, ← two_pow_add_eq]
    exact Nat.pow_le_pow_right Nat.two_pos (by omega)
  have hvalue : x.significand * x.stepAt 1 = n * unitsPerOne := by
    rw [← units_mul, Nat.mul_one, hx]
  obtain ⟨hbelow, habove⟩ := holds_iff.1 h
  rw [hvalue] at hbelow habove
  have habove := habove.le
  constructor
  · refine Nat.le_of_mul_le_mul_right ?_ unitsPerOne_pos
    rw [Nat.add_mul, Nat.mul_assoc, Nat.mul_assoc]
    split at hbelow
    · omega
    · have hbelow := hbelow.le
      omega
  · refine Nat.le_of_mul_le_mul_right ?_ unitsPerOne_pos
    rw [Nat.add_mul, Nat.mul_assoc, Nat.mul_assoc]
    omega

include hn

/-- The place of the last bit, in a whole double of at most 55 bits. -/
theorem scale_le {j : Nat} (hj : n.log2 ≤ 52 + j) : x.scale ≤ 1074 + j := by
  have hlog := log2_significand_add hx hn
  rcases x.normal.2.2 with hbits | hscale
  · have hleast : 52 ≤ x.significand.log2 :=
      (Nat.le_log2 (significand_ne_zero hx hn)).2 (two_pow_eq 52 ▸ hbits)
    omega
  · omega

/-- Whole doubles of more than 53 bits are even. -/
theorem even_of_le (hlarge : 2 ^ 53 ≤ n) : 2 ∣ n := by
  have hlog := log2_significand_add hx hn
  have hbits := log2_significand_lt hx hn
  have hwhole := log2_ge hlarge
  obtain ⟨j, hj⟩ : ∃ j, x.scale = j + 1 + 1074 := ⟨x.scale - 1075, by omega⟩
  rw [units, two_pow_eq, hj, two_pow_add_eq, ← Nat.mul_assoc] at hx
  rw [← Nat.eq_of_mul_eq_mul_right unitsPerOne_pos hx, Nat.pow_succ, ← Nat.mul_assoc]
  exact Nat.dvd_mul_left 2 _

/-- Up to `2 ^ 54` the double is its own shortest decimal: the step between doubles is too small
for a multiple of ten beside it. -/
theorem shortest_eq_of_le {c k : Nat} (hle : n ≤ 2 ^ 54) (h : x.shortest = (c, (k : Int))) :
    c * 10 ^ k = n := by
  obtain ⟨hnearest, -, -⟩ := shortest_spec hx hn h
  rcases Nat.eq_zero_or_pos k with rfl | hpos
  · rw [Int.ofNat_zero, nearest?_whole hx hn] at hnearest
    rw [Nat.pow_zero, Nat.mul_one, Option.some.inj hnearest]
  have hholds := Interval.contains_natCast_iff.1 (Interval.contains_of_nearest? hnearest).1
  have hten : 10 ∣ c * 10 ^ k := Nat.dvd_trans (Nat.pow_dvd_pow 10 hpos) (Nat.dvd_mul_left _ c)
  rcases Nat.lt_or_ge n (2 ^ 53) with hsmall | hlarge
  · have hlog : n.log2 < 53 := (Nat.log2_lt (Nat.ne_of_gt hn)).2 hsmall
    have hnear := near_of_contains hx hholds (scale_le hx hn (j := 0) (by omega))
    omega
  have heven := even_of_le hx hn hlarge
  rcases Nat.lt_or_eq_of_le hle with hless | rfl
  · have hlog : n.log2 < 54 := (Nat.log2_lt (Nat.ne_of_gt hn)).2 hless
    have hnear := near_of_contains hx hholds (scale_le hx hn (j := 1) (by omega))
    omega
  · have hnear := near_of_contains hx hholds (scale_le hx hn (j := 2) (by decide))
    omega

end

end PostSlots.Decimal.Binary64
