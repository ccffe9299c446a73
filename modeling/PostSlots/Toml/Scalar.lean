import PostSlots.Decimal.Numeral
import PostSlots.Text.Hex
import PostSlots.Toml.Basic

/-!
# Numbers and dates of TOML

Digits may be grouped by underscores, each of which stands between two digits. Numbers with a
fraction or an exponent, dates and times are only checked.
-/

namespace PostSlots.Toml

namespace Scalar

/-- Whether a character is a digit in a base. -/
def isDigitIn (base : Nat) (c : Char) : Bool :=
  match Text.hexDigit? c with
  | some d => d < base
  | none => false

/-- Further digits of a base, in groups. -/
def takeGroups? (base : Nat) : List Char → Option (List Char × List Char)
  | [] => some ([], [])
  | c :: cs =>
    if isDigitIn base c then (takeGroups? base cs).map fun (ds, rest) => (c :: ds, rest)
    else if c = '_' then
      match cs with
      | [] => none
      | d :: cs =>
        if isDigitIn base d then (takeGroups? base cs).map fun (ds, rest) => (d :: ds, rest)
        else none
    else some ([], c :: cs)

/-- One or more digits of a base, in groups. -/
def takeDigits? (base : Nat) : List Char → Option (List Char × List Char)
  | [] => none
  | c :: cs =>
    if isDigitIn base c then (takeGroups? base cs).map fun (ds, rest) => (c :: ds, rest) else none

/-- Decimal digits that start with a zero only if it is the only one. -/
def takeWhole? : List Char → Option (List Char × List Char)
  | '0' :: cs => some (['0'], cs)
  | cs => takeDigits? 10 cs

/-- The value of digits of a base. -/
def valueIn (base : Nat) (ds : List Char) : Nat :=
  ds.foldl (fun n d => base * n + (Text.hexDigit? d).getD 0) 0

/-- Whole numbers are words of 64 bits with a sign. -/
def toInteger? (negative : Bool) (n : Nat) : Option Item :=
  let m : Int := if negative then -(n : Int) else n
  let bound : Int := Nat.pow 2 63
  if -bound ≤ m ∧ m < bound then some (.integer m) else none

/-- The base of a number behind its leading zero. -/
def baseOf? (c : Char) : Option Nat :=
  [('x', 16), ('o', 8), ('b', 2)].lookup c

/-- What follows the whole part of a number: its fraction digits and its exponent, if there are
such. -/
def takeTail? (cs : List Char) : Option (Option (List Char × Int) × List Char) :=
  let takeExponent? (cs : List Char) : Option (Int × List Char) := do
    let (negative, cs) := Decimal.takeSign cs
    let (ds, rest) ← takeDigits? 10 cs
    let n : Int := Decimal.ofDigits ds
    some (if negative then -n else n, rest)
  match cs with
  | '.' :: cs => do
    let (fraction, cs) ← takeDigits? 10 cs
    match cs with
    | 'e' :: cs | 'E' :: cs => do
      let (exponent, rest) ← takeExponent? cs
      some (some (fraction, exponent), rest)
    | cs => some (some (fraction, 0), cs)
  | 'e' :: cs | 'E' :: cs => do
    let (exponent, rest) ← takeExponent? cs
    some (some ([], exponent), rest)
  | cs => some (none, cs)

/-- Numbers above the largest double are refused. -/
def toFloat? (negative : Bool) (ds fraction : List Char) (exponent : Int) : Option Item :=
  let n : Decimal.Numeral :=
    ⟨false, Decimal.ofDigits (ds ++ fraction), exponent - fraction.length⟩
  if negative || n.toBinary64?.isSome then some .other else none

/-- Reads a decimal number behind its sign. -/
def readDecimal? (negative : Bool) (cs : List Char) : Option (Item × List Char) := do
  let (ds, cs) ← takeWhole? cs
  let (tail, rest) ← takeTail? cs
  match tail with
  | none => some (← toInteger? negative (Decimal.ofDigits ds), rest)
  | some (fraction, exponent) => some (← toFloat? negative ds fraction exponent, rest)

/-- Reads a number without a sign, in any base. -/
def readUnsigned? (cs : List Char) : Option (Item × List Char) :=
  match cs with
  | '0' :: c :: rest =>
    match baseOf? c with
    | some base => do
      let (ds, rest) ← takeDigits? base rest
      some (← toInteger? false (valueIn base ds), rest)
    | none => readDecimal? false cs
  | cs => readDecimal? false cs

/-- Drops a word from the front of a text. -/
def dropWord? (word : String) (cs : List Char) : Option (List Char) :=
  if word.toList.isPrefixOf cs then some (cs.drop word.length) else none

/-- Reads `inf` or `nan`. -/
def readSpecial? (cs : List Char) : Option (Item × List Char) :=
  ((dropWord? "inf" cs).or (dropWord? "nan" cs)).map (.other, ·)

/-! ## Dates and times -/

/-- Reads exactly `n` digits that make a number in a range. -/
def takeNumber? (n low high : Nat) (cs : List Char) : Option (Nat × List Char) :=
  let digits := cs.take n
  let value := Decimal.ofDigits digits
  if digits.length = n && digits.all Char.isDigit && low ≤ value && value ≤ high then
    some (value, cs.drop n)
  else none

/-- Drops one character. -/
def dropChar? (c : Char) : List Char → Option (List Char)
  | d :: cs => if c = d then some cs else none
  | [] => none

def daysIn (year month : Nat) : Nat :=
  let leap := year % 4 = 0 && (year % 100 ≠ 0 || year % 400 = 0)
  if month = 2 then (if leap then 29 else 28) else if [4, 6, 9, 11].contains month then 30 else 31

/-- Reads what follows the year of a date and its dash. -/
def readMonthDay? (year : Nat) (cs : List Char) : Option (List Char) := do
  let (month, cs) ← takeNumber? 2 1 12 cs
  let (_, cs) ← takeNumber? 2 1 (daysIn year month) (← dropChar? '-' cs)
  some cs

/-- Reads what follows the hours of a time and their colon. -/
def readMinutes? (cs : List Char) : Option (List Char) := do
  let (_, cs) ← takeNumber? 2 0 59 cs
  let (_, cs) ← takeNumber? 2 0 60 (← dropChar? ':' cs)
  match cs with
  | '.' :: c :: cs => if c.isDigit then some (cs.dropWhile Char.isDigit) else some ('.' :: c :: cs)
  | cs => some cs

/-- Reads an offset from universal time, if there is one. -/
def readOffset? (cs : List Char) : Option (List Char) :=
  match cs with
  | 'Z' :: rest | 'z' :: rest => some rest
  | c :: rest =>
    if c = '+' ∨ c = '-' then
      match takeNumber? 2 0 23 rest with
      | some (_, ':' :: rest) => (takeNumber? 2 0 59 rest).map Prod.snd
      | _ => some cs
    else some cs
  | [] => some []

/-- What follows the hours of a time of day, if one starts here. -/
def splitHour? (cs : List Char) : Option (List Char) := do
  let (_, cs) ← takeNumber? 2 0 23 cs
  dropChar? ':' cs

/-- Reads a time behind a date, if there is one. -/
def readDayTime? (cs : List Char) : Option (List Char) :=
  match cs with
  | c :: rest =>
    if c = 'T' ∨ c = 't' ∨ c = ' ' then
      match splitHour? rest with
      | some rest => (readMinutes? rest).bind readOffset?
      | none => some cs
    else some cs
  | [] => some []

/-- Reads a number, a date or a time. Four digits and a dash start a date, and two digits and a
colon a time. -/
def read? (cs : List Char) : Option (Item × List Char) :=
  let date := do
    let (year, cs) ← takeNumber? 4 0 9999 cs
    let cs ← dropChar? '-' cs
    some (year, cs)
  match date, splitHour? cs with
  | some (year, rest), _ => ((readMonthDay? year rest).bind readDayTime?).map (.other, ·)
  | none, some rest => (readMinutes? rest).map (.other, ·)
  | none, none =>
    match cs with
    | '-' :: rest => (readSpecial? rest).or (readDecimal? true rest)
    | '+' :: rest => (readSpecial? rest).or (readDecimal? false rest)
    | cs => (readSpecial? cs).or (readUnsigned? cs)

end Scalar

end PostSlots.Toml
