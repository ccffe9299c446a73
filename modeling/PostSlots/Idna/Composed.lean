import PostSlots.Text.RangeTable
import PostSlots.Idna.Table.CombiningClass
import PostSlots.Idna.Table.Composition

/-!
# The composed form of a text

Characters are taken apart, marks are put in the order of their combining classes, and characters
are joined again with the marks that follow them (normalization form C).
-/

namespace PostSlots.Idna

/-- Combining classes other than zero. -/
def combiningClassTable : Text.RangeTable Nat :=
  .ofRows (fun
    | '=' :: cs => Text.hexValue? cs
    | _ => none) Table.combiningClass

/-- The combining class of a character, zero for one that starts anew. -/
def combiningClass (c : Char) : Nat :=
  ((combiningClassTable.find? c.toNat).map Text.Range.value).getD 0

/-- Two characters and the one that they are joined to. -/
structure Pair where
  base : Char
  mark : Char
  joined : Char

/-- Reads `a+b>c`. -/
def Pair.read? (entry : List Char) : Option Pair :=
  match (Text.cut (fun c => c == '+' || c == '>') entry).mapM Text.hexValue? with
  | some [a, b, c] => some ⟨Char.ofNat a, Char.ofNat b, Char.ofNat c⟩
  | _ => none

/-- The pairs other than the syllables of Hangul. -/
def pairTable : List Pair :=
  Table.composition.flatMap fun row => (Text.tokens (· == ' ') row.toList).filterMap Pair.read?

/-! ## Hangul

A syllable is a lead, a vowel and perhaps a tail, numbered in that order. -/

namespace Hangul

def firstSyllable : Nat := 0xAC00
def firstLead : Nat := 0x1100
def firstVowel : Nat := 0x1161
/-- One below the first tail: tail number zero is no tail. -/
def noTail : Nat := 0x11A7
def leads : Nat := 19
def vowels : Nat := 21
def tails : Nat := 28

/-- The parts of a syllable. -/
def split? (c : Char) : Option (List Char) :=
  let n := c.toNat - firstSyllable
  if firstSyllable ≤ c.toNat ∧ n < leads * vowels * tails then
    let body := [Char.ofNat (firstLead + n / (vowels * tails)),
      Char.ofNat (firstVowel + n % (vowels * tails) / tails)]
    some (if n % tails = 0 then body else body ++ [Char.ofNat (noTail + n % tails)])
  else none

/-- Joins a lead with a vowel, or a syllable without tail with a tail. -/
def join? (a b : Char) : Option Char :=
  let l := a.toNat - firstLead
  let v := b.toNat - firstVowel
  let s := a.toNat - firstSyllable
  let t := b.toNat - noTail
  if firstLead ≤ a.toNat ∧ l < leads ∧ firstVowel ≤ b.toNat ∧ v < vowels then
    some (Char.ofNat (firstSyllable + (l * vowels + v) * tails))
  else if firstSyllable ≤ a.toNat ∧ s < leads * vowels * tails ∧ s % tails = 0 ∧
      noTail < b.toNat ∧ t < tails then
    some (Char.ofNat (a.toNat + t))
  else none

end Hangul

/-- The character that two characters are joined to. -/
def join? (a b : Char) : Option Char :=
  match Hangul.join? a b with
  | some c => some c
  | none => (pairTable.find? fun p => p.base == a && p.mark == b).map Pair.joined

/-- The parts of a character. No character has more than a few layers of parts, which bounds the
fuel. -/
def takeApart : Nat → Char → List Char
  | 0, c => [c]
  | fuel + 1, c =>
    match Hangul.split? c with
    | some parts => parts
    | none =>
      match pairTable.find? fun p => p.joined == c with
      | some p => takeApart fuel p.base ++ [p.mark]
      | none => [c]

/-- Puts a mark behind those before it that have the same class or a lower one. The marks come
last one first. -/
def sortIn (c : Char) : List Char → List Char
  | [] => [c]
  | m :: ms =>
    if combiningClass c < combiningClass m then m :: sortIn c ms else c :: m :: ms

/-- Orders the marks between characters of class zero. `marks` holds those since the last such
character, the last one first. -/
def orderMarks (marks : List Char) : List Char → List Char
  | [] => marks.reverse
  | c :: cs =>
    if combiningClass c = 0 then marks.reverse ++ c :: orderMarks [] cs
    else orderMarks (sortIn c marks) cs

/-- Joins characters with marks. `starter` is the last character of class zero, and `marks` holds
what stands behind it, the last one first; a mark is out of reach behind one of its class or
above. -/
def joinMarks (starter : Option Char) (marks : List Char) : List Char → List Char
  | [] => starter.toList ++ marks.reverse
  | c :: cs =>
    let k := combiningClass c
    let inReach := match marks with
      | [] => true
      | m :: _ => combiningClass m < k
    match if inReach then starter.bind (join? · c) else none with
    | some joined => joinMarks (some joined) marks cs
    | none =>
      if k = 0 then starter.toList ++ marks.reverse ++ joinMarks (some c) [] cs
      else joinMarks starter (c :: marks) cs

/-- The composed form. -/
def composed (cs : List Char) : List Char :=
  joinMarks none [] (orderMarks [] (cs.flatMap (takeApart 8)))

end PostSlots.Idna
