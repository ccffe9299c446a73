import PostSlots.Text.Cut
import PostSlots.Text.Hex

/-!
# Tables of code point ranges

A table is an array of disjoint ranges in ascending order, looked up by halving.
-/

namespace PostSlots.Text

/-- A range of code points and what holds for it. -/
structure Range (α : Type) where
  first : Nat
  last : Nat
  value : α

abbrev RangeTable (α : Type) := Array (Range α)

/-- Looks for `n` among the ranges from `lo` on and below `hi`; each turn halves their number. -/
def RangeTable.search {α : Type} (t : RangeTable α) (n : Nat) : Nat → Nat → Nat → Option (Range α)
  | 0, _, _ => none
  | fuel + 1, lo, hi =>
    if hi ≤ lo then none
    else
      let mid := (lo + hi) / 2
      match t[mid]? with
      | none => none
      | some r =>
        if n < r.first then t.search n fuel lo mid
        else if r.last < n then t.search n fuel (mid + 1) hi
        else some r

/-- The range that holds `n`. -/
def RangeTable.find? {α : Type} (t : RangeTable α) (n : Nat) : Option (Range α) :=
  t.search n (t.size.log2 + 2) 0 t.size

/-- Splits a text into its leading hexadecimal digits and the rest. -/
def spanHex (cs : List Char) : List Char × List Char :=
  cs.span fun c => (hexDigit? c).isSome

/-- Reads `first` or `first-last`, and what follows it. -/
def readRange? (cs : List Char) : Option (Nat × Nat × List Char) :=
  let (first, rest) := spanHex cs
  if first.isEmpty then none
  else match rest with
    | '-' :: rest =>
      let (last, rest) := spanHex rest
      match hexValue? first, hexValue? last with
      | some a, some b => some (a, b, rest)
      | _, _ => none
    | rest => (hexValue? first).map fun a => (a, a, rest)

/-- The table of rows of entries, each read by `value?` behind its range. Entries that do not
read are left out. -/
def RangeTable.ofRows {α : Type} (value? : List Char → Option α) (rows : List String) :
    RangeTable α :=
  let entries := rows.flatMap fun row => tokens (· == ' ') row.toList
  (entries.filterMap fun entry => do
    let (first, last, rest) ← readRange? entry
    some ⟨first, last, ← value? rest⟩).toArray

end PostSlots.Text
