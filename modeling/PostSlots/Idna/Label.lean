import PostSlots.Idna.Composed
import PostSlots.Idna.Mapping
import PostSlots.Idna.Table.Direction
import PostSlots.Idna.Table.Joining
import PostSlots.Idna.Table.Mark

/-!
# Labels of a domain name

A label may not begin with a mark, joiners need fitting neighbours, and in a name with letters
from right to left every label must keep to one direction.
-/

namespace PostSlots.Idna

/-! ## Marks -/

def markTable : Text.RangeTable Unit :=
  .ofRows (fun _ => some ()) Table.mark

/-- A combining mark. -/
def isMark (c : Char) : Bool :=
  (markTable.find? c.toNat).isSome

/-! ## Joiners -/

/-- How a letter joins with its neighbours. -/
inductive Joining where
  | both
  | left
  | right
  | transparent
deriving DecidableEq

def Joining.read? : List Char → Option Joining
  | ['=', 'D'] => some both
  | ['=', 'L'] => some left
  | ['=', 'R'] => some right
  | ['=', 'T'] => some transparent
  | _ => none

def joiningTable : Text.RangeTable Joining :=
  .ofRows Joining.read? Table.joining

def joining? (c : Char) : Option Joining :=
  (joiningTable.find? c.toNat).map Text.Range.value

/-- The class of the marks that suppress a vowel. -/
def viramaClass : Nat := 9

/-- The first letter that is not transparent joins on one of the given sides. -/
def joinsFirst (sides : List Joining) (cs : List Char) : Bool :=
  match (cs.dropWhile fun c => joining? c == some .transparent).head? with
  | some c => ((joining? c).map sides.contains).getD false
  | none => false

/-- Joiners stand behind a mark that suppresses a vowel; a non-joiner may also stand between
letters that would join. `before` is what stands before, the last character first. -/
def joinersFit (before : List Char) : List Char → Bool
  | [] => true
  | c :: cs =>
    let afterVirama := (before.head?.map fun b => combiningClass b == viramaClass).getD false
    let fits :=
      if c.toNat = 0x200C then
        afterVirama || (joinsFirst [.left, .both] before && joinsFirst [.right, .both] cs)
      else if c.toNat = 0x200D then afterVirama
      else true
    fits && joinersFit (c :: before) cs

/-! ## Direction -/

/-- The bidirectional classes of the characters that domain names may hold. -/
inductive Direction where
  | leftToRight
  | rightToLeft
  | arabicLetter
  | arabicNumber
  | europeanNumber
  | separator
  | commonSeparator
  | terminator
  | neutral
  | boundary
  | mark
deriving DecidableEq

def Direction.read? : List Char → Option Direction
  | ['=', 'R'] => some rightToLeft
  | ['=', 'A'] => some arabicLetter
  | ['=', 'N'] => some arabicNumber
  | ['=', 'E'] => some europeanNumber
  | ['=', 'S'] => some separator
  | ['=', 'C'] => some commonSeparator
  | ['=', 'T'] => some terminator
  | ['=', 'O'] => some neutral
  | ['=', 'B'] => some boundary
  | ['=', 'M'] => some mark
  | _ => none

def directionTable : Text.RangeTable Direction :=
  .ofRows Direction.read? Table.direction

def direction (c : Char) : Direction :=
  ((directionTable.find? c.toNat).map Text.Range.value).getD .leftToRight

/-- The classes that occur in labels of both directions. -/
def Direction.isShared : Direction → Bool
  | europeanNumber | separator | commonSeparator | terminator | neutral | boundary | mark => true
  | _ => false

/-- The classes that make a name bidirectional. -/
def Direction.isFromRight : Direction → Bool
  | rightToLeft | arabicLetter | arabicNumber => true
  | _ => false

/-- A label that keeps to the direction of its first character. -/
def keepsDirection (label : List Char) : Bool :=
  let ds := label.map direction
  let last := (ds.reverse.dropWhile (· == .mark)).head?
  match ds.head? with
  | none => true
  | some .leftToRight =>
    ds.all (fun d => d == .leftToRight || d.isShared) &&
      (last == some .leftToRight || last == some .europeanNumber)
  | some first =>
    (first == .rightToLeft || first == .arabicLetter) &&
      ds.all (fun d => d.isFromRight || d.isShared) &&
      ((last.map fun d => d.isFromRight || d == .europeanNumber).getD false) &&
      !(ds.contains .europeanNumber && ds.contains .arabicNumber)

/-- A label whose first character and joiners are in place. -/
def wellFormed (label : List Char) : Bool :=
  !((label.head?.map isMark).getD false) && joinersFit [] label

end PostSlots.Idna
