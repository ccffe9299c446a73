import PostSlots.Text.RangeTable
import PostSlots.Idna.Table.Mapping

/-!
# Mapping the characters of a domain name

Case, width and other variants of a character are folded, some characters vanish, and some are
not allowed.
-/

namespace PostSlots.Idna

/-- What becomes of the characters of a range. -/
inductive Mapping where
  | keep
  | vanish
  /-- Of each two characters, the first becomes the second. -/
  | pairs
  /-- The first character becomes `target`, the next one the successor of `target`. -/
  | shift (target : Nat)
  | become (cs : List Char)

/-- Reads a mapping behind its range. -/
def Mapping.read? : List Char → Option Mapping
  | [] => some .keep
  | ['~'] => some .vanish
  | ['/'] => some .pairs
  | '>' :: cs => (Text.hexValue? cs).map .shift
  | '=' :: cs =>
    ((Text.cut (· == '.') cs).mapM Text.hexValue?).map fun ns => .become (ns.map Char.ofNat)
  | _ => none

/-- The mapping of every character that has one. -/
def mappingTable : Text.RangeTable Mapping :=
  .ofRows Mapping.read? Table.mapping

/-- What becomes of a character, or `none` if it is not allowed. -/
def mapChar? (c : Char) : Option (List Char) :=
  match mappingTable.find? c.toNat with
  | none => none
  | some r =>
    match r.value with
    | .keep => some [c]
    | .vanish => some []
    | .pairs => some [Char.ofNat (c.toNat + (c.toNat - r.first + 1) % 2)]
    | .shift target => some [Char.ofNat (target + (c.toNat - r.first))]
    | .become cs => some cs

/-- Maps every character of a text. -/
def mapChars? (cs : List Char) : Option (List Char) :=
  (cs.mapM mapChar?).map List.flatten

/-- A character that stands for itself. -/
def isValid (c : Char) : Bool :=
  mapChar? c == some [c]

end PostSlots.Idna
