/-!
# Cutting a text at separators

`cut` returns the pieces between separators, the empty ones included, so that a text with `n`
separators has `n + 1` pieces.
-/

namespace PostSlots.Text

/-- The pieces of a text between the characters that satisfy `isSep`. -/
def cut {α : Type} (isSep : α → Bool) : List α → List (List α)
  | [] => [[]]
  | c :: cs =>
    if isSep c then [] :: cut isSep cs
    else match cut isSep cs with
      | [] => [[c]]
      | piece :: pieces => (c :: piece) :: pieces

/-- The nonempty pieces. -/
def tokens {α : Type} (isSep : α → Bool) (cs : List α) : List (List α) :=
  (cut isSep cs).filter fun piece => !piece.isEmpty

theorem cut_ne_nil {α : Type} (isSep : α → Bool) (cs : List α) : cut isSep cs ≠ [] := by
  cases cs with
  | nil => simp [cut]
  | cons c cs =>
    rw [cut]
    split
    · simp
    · split <;> simp

/-! ## Around a separator -/

variable {α : Type} {p : α → Bool} {c : α}

/-- What is taken off the front of a text ends in front of a character that stops it. -/
theorem takeWhile_append_stop (hc : p c = false) (cs ds : List α) :
    (cs ++ c :: ds).takeWhile p = cs.takeWhile p := by
  induction cs with
  | nil => simp [hc]
  | cons d cs ih => rw [List.cons_append, List.takeWhile_cons, List.takeWhile_cons, ih]

theorem dropWhile_append_stop (hc : p c = false) (cs ds : List α) :
    (cs ++ c :: ds).dropWhile p = cs.dropWhile p ++ c :: ds := by
  induction cs with
  | nil => simp [hc]
  | cons d cs ih =>
    rw [List.cons_append, List.dropWhile_cons, List.dropWhile_cons, ih]
    split
    · rfl
    · rfl

/-- A text without separators is its only piece. -/
theorem cut_of_notMem [DecidableEq α] {cs : List α} (hcs : c ∉ cs) : cut (· == c) cs = [cs] := by
  induction cs with
  | nil => rfl
  | cons d ds ih =>
    obtain ⟨hd, hds⟩ := List.ne_and_not_mem_of_not_mem_cons hcs
    rw [cut, if_neg (by simpa using Ne.symm hd), ih hds]

theorem tokens_of_notMem [DecidableEq α] {cs : List α} (hcs : c ∉ cs) (hne : cs ≠ []) :
    tokens (· == c) cs = [cs] := by
  rw [tokens, cut_of_notMem hcs, List.filter_cons_of_pos (by simpa using hne), List.filter_nil]

/-! ## Pieces of parts -/

theorem cut_eq_splitOnP (p : α → Bool) (cs : List α) : cut p cs = cs.splitOnP p := by
  induction cs with
  | nil => simp [cut]
  | cons c cs ih =>
    obtain ⟨piece, pieces, hcut⟩ := List.exists_cons_of_ne_nil (cut_ne_nil p cs)
    rw [List.splitOnP_cons_eq_if_modifyHead, ← ih, cut, hcut]
    rfl

/-- Cutting undoes joining, where no item holds the separator. -/
theorem cut_intercalate [DecidableEq α] {items : List (List α)} (hne : items ≠ [])
    (hitems : ∀ item ∈ items, c ∉ item) : cut (· == c) ([c].intercalate items) = items := by
  rw [cut_eq_splitOnP, ← List.splitOn_eq_splitOnP, List.splitOn_intercalate c hitems hne]

/-- No piece reaches over a separator. -/
theorem tokens_append_sep (hc : p c = true) (cs ds : List α) :
    tokens p (cs ++ c :: ds) = tokens p cs ++ tokens p ds := by
  rw [tokens, cut_eq_splitOnP, List.splitOnP_append_cons cs ds hc, List.filter_append,
    ← cut_eq_splitOnP, ← cut_eq_splitOnP, tokens, tokens]

theorem tokens_cons_sep (hc : p c = true) (cs : List α) : tokens p (c :: cs) = tokens p cs :=
  tokens_append_sep hc [] cs

/-- A piece ends where the text does or where a separator follows. -/
theorem tokens_append_piece {piece rest : List α} (hne : piece ≠ [])
    (hpiece : ∀ d ∈ piece, p d = false) (hrest : ∀ d, rest.head? = some d → p d = true) :
    tokens p (piece ++ rest) = piece :: tokens p rest := by
  have hone : tokens p piece = [piece] := by
    rw [tokens, cut_eq_splitOnP, List.splitOnP_eq_singleton hpiece,
      List.filter_cons_of_pos (by simpa using hne), List.filter_nil]
  cases rest with
  | nil => rw [List.append_nil, hone]; rfl
  | cons d ds =>
    have hd : p d = true := hrest d rfl
    rw [tokens_append_sep hd, tokens_cons_sep hd, hone]
    rfl

example : cut (· == ',') "a,,b".toList = [['a'], [], ['b']] := by decide

end PostSlots.Text
