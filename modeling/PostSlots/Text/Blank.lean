/-!
# Blank characters

The characters with the Unicode property White_Space, and trimming them off the ends of a text.
-/

namespace PostSlots.Text

/-- The characters with the property White_Space. -/
def isBlank (c : Char) : Bool :=
  let n := c.toNat
  (9 ≤ n && n ≤ 13) || n == 0x20 || n == 0x85 || n == 0xA0 || n == 0x1680 ||
    (0x2000 ≤ n && n ≤ 0x200A) || n == 0x2028 || n == 0x2029 || n == 0x202F || n == 0x205F ||
    n == 0x3000

/-- Drops the longest suffix whose members all satisfy `p`. -/
def dropEndWhile {α : Type} (p : α → Bool) (cs : List α) : List α :=
  (cs.reverse.dropWhile p).reverse

/-- Drops the characters that satisfy `p` from both ends. -/
def trimWhile {α : Type} (p : α → Bool) (cs : List α) : List α :=
  dropEndWhile p (cs.dropWhile p)

/-- Drops the blanks at both ends. -/
def trim (cs : List Char) : List Char :=
  trimWhile isBlank cs

/-! ## Texts between blanks -/

section
variable {α : Type} {p : α → Bool}

theorem dropWhile_of_head? {cs : List α} (h : ∀ c, cs.head? = some c → p c = false) :
    cs.dropWhile p = cs := by
  cases cs with
  | nil => rfl
  | cons c cs => rw [List.dropWhile_cons, h c rfl]; rfl

theorem dropEndWhile_append {cs after : List α} (hafter : ∀ c ∈ after, p c = true)
    (hlast : ∀ c, cs.getLast? = some c → p c = false) : dropEndWhile p (cs ++ after) = cs := by
  have hend : ∀ c ∈ after.reverse, p c = true := fun c hc => hafter c (List.mem_reverse.1 hc)
  have hkeep : ∀ c, cs.reverse.head? = some c → p c = false := by
    rwa [List.head?_reverse]
  rw [dropEndWhile, List.reverse_append, List.dropWhile_append_of_pos hend,
    dropWhile_of_head? hkeep, List.reverse_reverse]

theorem dropEndWhile_of_getLast? {cs : List α} (h : ∀ c, cs.getLast? = some c → p c = false) :
    dropEndWhile p cs = cs := by
  have hkeep := dropEndWhile_append (List.forall_mem_nil _) h
  rwa [List.append_nil] at hkeep

/-- Trimming finds a text again that neither starts nor ends with what is trimmed. -/
theorem trimWhile_append {before cs after : List α} (hbefore : ∀ c ∈ before, p c = true)
    (hafter : ∀ c ∈ after, p c = true) (hne : cs ≠ [])
    (hfirst : ∀ c, cs.head? = some c → p c = false)
    (hlast : ∀ c, cs.getLast? = some c → p c = false) :
    trimWhile p (before ++ cs ++ after) = cs := by
  have hfront : ∀ c, (cs ++ after).head? = some c → p c = false := by
    obtain ⟨d, ds, rfl⟩ := List.exists_cons_of_ne_nil hne
    exact hfirst
  rw [trimWhile, List.append_assoc, List.dropWhile_append_of_pos hbefore,
    dropWhile_of_head? hfront, dropEndWhile_append hafter hlast]

theorem trimWhile_eq_nil {cs : List α} (h : ∀ c ∈ cs, p c = true) : trimWhile p cs = [] := by
  have hnil : (cs ++ []).dropWhile p = [] := List.dropWhile_append_of_pos h
  rw [trimWhile, ← List.append_nil cs, hnil]
  rfl

end

example : trim " \u00a0a b\n".toList = ['a', ' ', 'b'] := by decide

end PostSlots.Text
