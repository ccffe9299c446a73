import PostSlots.Proofs.Decimal.Rounding
import PostSlots.Proofs.KeyPath.Spelling

/-!
# Decimal keys

The digits of a number name an item of an array by its position and a member of an object by its
key. Positions are words. Digits beyond the words are read once more, as a double: the doubles next
to `2 ^ 64` are `2 ^ 64 + 2 ^ 12` and above, so that all numbers up to `2 ^ 64 + 2 ^ 11` are rounded
to `2 ^ 64`. This double passes for a position, and the largest word stands for it. Digits of larger
numbers are names.

Results:
1. `Segment.ofToken_of_isDigit`: the step that digits denote.
2. `KeyPath.parse_decimal`: decimal texts are paths of this one step.
3. `KeyPath.decimal_steps`: digits of different numbers differ as steps, and an object is asked for
   the digits themselves, but for the numbers that are rounded to `2 ^ 64`.
4. `KeyPath.decimal_step_of_bound`: `2 ^ 64` is taken for the word below it.
-/

namespace PostSlots

open Decimal

/-- A text of decimal digits, one at least. -/
structure IsDecimal (text : String) : Prop where
  ne_empty : text ≠ ""
  isDigit : ∀ c ∈ text.toList, c.isDigit = true

/-- The number that the digits of a text denote. -/
def decimalValue (text : String) : Nat := Nat.ofDigitChars 10 text.toList 0

/-- The numbers beyond the words that are rounded to `2 ^ 64`. -/
def IsNearBound (n : Nat) : Prop := 2 ^ 64 ≤ n ∧ n ≤ 2 ^ 64 + 2 ^ 11

instance (n : Nat) : Decidable (IsNearBound n) := inferInstanceAs (Decidable (_ ∧ _))

/-! ## Decimal texts -/

theorem IsDecimal.of_all {text : String} (hne : text ≠ "")
    (h : text.toList.all Char.isDigit = true) : IsDecimal text :=
  ⟨hne, List.all_eq_true.1 h⟩

theorem IsDecimal.toList_ne_nil {text : String} (h : IsDecimal text) : text.toList ≠ [] :=
  fun hnil => h.ne_empty (String.toList_eq_nil_iff.1 hnil)

theorem ofDigits_toList (text : String) : ofDigits text.toList = decimalValue text :=
  Nat.ofDigitChars_eq_foldl.symm

theorem isDecimal_toString (n : Nat) : IsDecimal (toString n) := by
  rw [Nat.toString_eq_ofList_toDigits]
  refine ⟨fun h => ?_, fun c hc => ?_⟩
  · have hnil : Nat.toDigits 10 n = [] := by
      rw [← String.toList_ofList (l := Nat.toDigits 10 n), h]
      rfl
    exact Nat.toDigits_ne_nil hnil
  · rw [String.toList_ofList] at hc
    exact Nat.isDigit_of_mem_toDigits (by decide) (by decide) hc

theorem decimalValue_toString (n : Nat) : decimalValue (toString n) = n := by
  rw [decimalValue, Nat.toString_eq_ofList_toDigits, String.toList_ofList,
    Nat.ofDigitChars_ten_toDigits]

/-! ## Steps -/

namespace Segment

/-- The double of a large whole number is a position up to `2 ^ 64`. -/
theorem ofBinary64?_of_units {x : Binary64} {n : Nat} (hsign : x.negative = false)
    (hunits : x.units = n * Binary64.unitsPerOne) :
    ofBinary64? x = if n ≤ wordBound then some (.index (min n (wordBound - 1))) else none := by
  unfold ofBinary64?
  rw [Binary64.isWhole_of_units hunits, Binary64.floor_of_units hunits, hsign]
  simp

/-- The double of a whole number is its quotient by one. -/
theorem toBinary64?_whole {n : Nat} (hn : n ≠ 0) :
    Numeral.toBinary64? ⟨false, n, 0⟩ = Binary64.ofRatio? false n 1 := by
  have hrange : ¬(0 : Int) > Binary64.exponentBound := by decide
  have hsmall : ¬-(0 : Int) > Binary64.exponentBound + n.log2 + 1 := by omega
  rw [Numeral.toBinary64?, Binary64.ofDecimal?]
  dsimp only
  rw [if_neg hn, if_neg hrange, if_neg hsmall, if_pos (Int.le_refl 0)]
  congr 1
  exact Nat.mul_one n

/-- Digits beyond the words are a position as far as `2 ^ 64` is the nearest double. -/
theorem ofBinary64?_of_large {n : Nat} (hn : 2 ^ 64 ≤ n) :
    (Numeral.toBinary64? ⟨false, n, 0⟩).bind ofBinary64? =
      if n ≤ 2 ^ 64 + 2 ^ 11 then some (.index (2 ^ 64 - 1)) else none := by
  have hlarge : 2 ^ 53 ≤ n := by omega
  have hbound : wordBound = 2 ^ 64 := Binary64.two_pow_eq 64
  rw [toBinary64?_whole (by omega)]
  by_cases hnear : n ≤ 2 ^ 64 + 2 ^ 11
  · have hlog : n.log2 ≤ 1022 := by
      have : n.log2 < 65 := (Nat.log2_lt (by omega)).2 (by omega)
      omega
    obtain ⟨x, hx⟩ := Binary64.exists_ofRatio? hlarge hlog false
    obtain ⟨hsign, hunits⟩ := Binary64.units_of_ofRatio? hlarge hx
    have hround : Binary64.nearestWhole n = 2 ^ 64 :=
      Binary64.nearestWhole_eq_pow (by decide) hn hnear
    rw [hx, Option.bind_some, ofBinary64?_of_units hsign hunits, hround, hbound, if_pos hnear]
    rfl
  · rw [if_neg hnear]
    refine Option.bind_eq_none_iff.2 fun x hx => ?_
    obtain ⟨hsign, hunits⟩ := Binary64.units_of_ofRatio? hlarge hx
    have hround : 2 ^ 64 < Binary64.nearestWhole n :=
      Binary64.pow_lt_nearestWhole (by decide) (Nat.not_le.1 hnear)
    rw [ofBinary64?_of_units hsign hunits, hbound, if_neg (Nat.not_le.2 hround)]

/-- The step that digits denote. -/
theorem ofToken_of_isDigit {token : List Char} (hne : token ≠ [])
    (hdigit : ∀ c ∈ token, c.isDigit = true) :
    ofToken token =
      if ofDigits token < 2 ^ 64 then .index (ofDigits token)
      else if ofDigits token ≤ 2 ^ 64 + 2 ^ 11 then .index (2 ^ 64 - 1)
      else .field (String.ofList token) := by
  have hbound : wordBound = 2 ^ 64 := Binary64.two_pow_eq 64
  rw [ofToken, readWord?_of_isDigit hne hdigit, Numeral.read?_of_isDigit hne hdigit, hbound]
  by_cases hword : ofDigits token < 2 ^ 64
  · rw [if_pos hword, if_pos hword]
  · rw [if_neg hword, if_neg hword, Option.bind_some, ofBinary64?_of_large (Nat.not_lt.1 hword)]
    by_cases hnear : ofDigits token ≤ 2 ^ 64 + 2 ^ 11
    · rw [if_pos hnear, if_pos hnear]
    · rw [if_neg hnear, if_neg hnear]

end Segment

/-! ## Paths -/

namespace KeyPath

/-- The path that decimal digits spell. -/
theorem parse_decimal {d : String} (hd : IsDecimal d) :
    parse d =
      [if decimalValue d ≤ 2 ^ 64 - 1 then .index (decimalValue d)
        else if IsNearBound (decimalValue d) then .index (2 ^ 64 - 1)
        else .field d] := by
  have hne := hd.toList_ne_nil
  have hparse := parse_of_isTokenText (Segment.isTokenText_of_isDigit hne hd.isDigit)
  rw [String.ofList_toList] at hparse
  rw [hparse, Segment.ofToken_of_isDigit hne hd.isDigit, ofDigits_toList, String.ofList_toList]
  have hword : decimalValue d ≤ 2 ^ 64 - 1 ↔ decimalValue d < 2 ^ 64 := by omega
  by_cases hlow : decimalValue d < 2 ^ 64
  · rw [if_pos hlow, if_pos (hword.2 hlow)]
  · have hnear : IsNearBound (decimalValue d) ↔ decimalValue d ≤ 2 ^ 64 + 2 ^ 11 :=
      and_iff_right (Nat.not_lt.1 hlow)
    rw [if_neg hlow, if_neg fun h => hlow (hword.1 h)]
    simp only [hnear]

/-- Digits that denote the same step denote the same number, or numbers next to `2 ^ 64`. -/
theorem near_of_parse_eq {d e : String} (hd : IsDecimal d) (he : IsDecimal e)
    (hne : decimalValue d ≠ decimalValue e) (h : parse d = parse e) :
    2 ^ 64 - 1 ≤ decimalValue d ∧ decimalValue d ≤ 2 ^ 64 + 2 ^ 11 := by
  rw [parse_decimal hd, parse_decimal he] at h
  have hstep := (List.cons.inj h).1
  by_cases hlow : decimalValue d ≤ 2 ^ 64 - 1
  · rw [if_pos hlow] at hstep
    split at hstep
    · exact absurd (Segment.index.inj hstep) hne
    · split at hstep
      · have hvalue := Segment.index.inj hstep
        omega
      · cases hstep
  · rw [if_neg hlow] at hstep
    by_cases hnear : IsNearBound (decimalValue d)
    · exact ⟨by omega, hnear.2⟩
    · rw [if_neg hnear] at hstep
      -- a name is its digits
      split at hstep
      · cases hstep
      · split at hstep
        · cases hstep
        · cases hstep
          exact absurd rfl hne

theorem eq_or_isNearBound {n : Nat} (h : 2 ^ 64 - 1 ≤ n ∧ n ≤ 2 ^ 64 + 2 ^ 11) :
    n = 2 ^ 64 - 1 ∨ IsNearBound n := by
  rcases Nat.eq_or_lt_of_le h.1 with heq | hlt
  · exact .inl heq.symm
  · exact .inr ⟨by omega, h.2⟩

/-- What an object has under the digits of a number is found under these digits. -/
theorem resolve_decimal (v : Nat) (fields : List (String × Json)) :
    resolve (toString v) (.object fields) =
      fields.lookup (toString (if IsNearBound v then 2 ^ 64 - 1 else v)) := by
  have hone (segment : Segment) :
      apply (.object fields) [segment] = fields.lookup segment.member := by
    rw [apply_cons, step_object]
    exact Option.bind_fun_some _
  rw [resolve, parse_decimal (isDecimal_toString v), decimalValue_toString, hone]
  by_cases hnear : IsNearBound v
  · have hword : ¬v ≤ 2 ^ 64 - 1 := by
      have := hnear.1
      omega
    rw [if_neg hword, if_pos hnear, if_pos hnear]
    rfl
  · rw [if_neg hnear, if_neg hnear]
    split
    · rfl
    · rfl

/-- The digits of a number are the position that it is, or a name where it is no word; the digits of
another number are another step; and an object is asked for the digits themselves. The numbers that
are rounded to `2 ^ 64` are the exception, and none of them is spared: they all stand for the word
below it. -/
theorem decimal_steps (v : Nat) :
    (∀ d, IsDecimal d → decimalValue d = v →
      (parse d = [if v ≤ 2 ^ 64 - 1 then .index v else .field d] ↔ ¬IsNearBound v) ∧
        (IsNearBound v → parse d = [.index (2 ^ 64 - 1)])) ∧
    (∀ d e, IsDecimal d → IsDecimal e → decimalValue d = v → decimalValue e ≠ v →
      parse d = parse e → (v = 2 ^ 64 - 1 ∨ IsNearBound v) ∧
        (decimalValue e = 2 ^ 64 - 1 ∨ IsNearBound (decimalValue e))) ∧
    ∀ fields, resolve (toString v) (.object fields) =
      fields.lookup (toString (if IsNearBound v then 2 ^ 64 - 1 else v)) := by
  refine ⟨?_, ?_, resolve_decimal v⟩
  · rintro d hd rfl
    by_cases hnear : IsNearBound (decimalValue d)
    · have hword : ¬decimalValue d ≤ 2 ^ 64 - 1 := by
        have := hnear.1
        omega
      rw [parse_decimal hd, if_neg hword, if_pos hnear, if_neg hword]
      refine ⟨iff_of_false (fun h => ?_) (not_not.2 hnear), fun _ => rfl⟩
      -- a position is not a name
      cases (List.cons.inj h).1
    · rw [parse_decimal hd, if_neg hnear]
      exact ⟨iff_of_true rfl hnear, fun h => absurd h hnear⟩
  · rintro d e hd he rfl hne h
    exact ⟨eq_or_isNearBound (near_of_parse_eq hd he hne.symm h),
      eq_or_isNearBound (near_of_parse_eq he hd hne h.symm)⟩

/-- Just beyond the numbers that are rounded to `2 ^ 64`, with zeros in front, and at their end. -/
theorem decimal_steps_beyond :
    ∃ d e, IsDecimal d ∧ IsDecimal e ∧ decimalValue d = 2 ^ 64 + 2 ^ 11 + 1 ∧
      decimalValue e = 2 ^ 64 + 2 ^ 11 ∧ parse d = [.field "0018446744073709553665"] ∧
      parse e = [.index (2 ^ 64 - 1)] := by
  have hd : IsDecimal "0018446744073709553665" := .of_all (by decide) (by decide +kernel)
  have he : IsDecimal "18446744073709553664" := .of_all (by decide) (by decide +kernel)
  have hdvalue : decimalValue "0018446744073709553665" = 2 ^ 64 + 2 ^ 11 + 1 := by decide +kernel
  have hevalue : decimalValue "18446744073709553664" = 2 ^ 64 + 2 ^ 11 := by decide +kernel
  obtain ⟨hbeyond, -⟩ := decimal_steps (2 ^ 64 + 2 ^ 11 + 1)
  obtain ⟨hend, -⟩ := decimal_steps (2 ^ 64 + 2 ^ 11)
  refine ⟨_, _, hd, he, hdvalue, hevalue, ?_, ?_⟩
  · exact (hbeyond _ hd hdvalue).1.2 (by decide +kernel)
  · exact (hend _ he hevalue).2 (by decide +kernel)

/-- The digits of `2 ^ 64` are taken for those of the word below it, and the member that they name
is passed over for another one. -/
theorem decimal_step_of_bound :
    IsDecimal "18446744073709551616" ∧ decimalValue "18446744073709551616" = 2 ^ 64 ∧
      parse "18446744073709551616" = [.index (2 ^ 64 - 1)] ∧
      parse "18446744073709551616" = parse "18446744073709551615" ∧
      resolve "18446744073709551616" (.object [("18446744073709551615", .bool false),
        ("18446744073709551616", .bool true)]) = some (.bool false) := by
  refine ⟨.of_all (by decide) (by decide +kernel), ?_, ?_, ?_, ?_⟩
  · decide +kernel
  · decide +kernel
  · decide +kernel
  · decide +kernel

end KeyPath

end PostSlots
