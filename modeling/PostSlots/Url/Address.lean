import PostSlots.Decimal.Layout
import PostSlots.Text.Cut
import PostSlots.Text.Hex

/-!
# Numeric addresses of hosts

IPv4 addresses may leave out parts and may be written in octal or hexadecimal; their text has four
decimal parts. IPv6 addresses may leave out one run of zeros; their text leaves out the longest.
-/

namespace PostSlots.Url

/-! ## IPv4 -/

namespace Ipv4

/-- What a part of an address denotes. -/
inductive Part where
  | number (n : Nat)
  | notNumber

/-- Whether a character is a digit in base 8, 10 or 16. -/
def isDigitIn (base : Nat) (c : Char) : Bool :=
  match Text.hexDigit? c with
  | some d => d < base
  | none => false

def valueIn (base : Nat) (cs : List Char) : Nat :=
  cs.foldl (fun n c => base * n + (Text.hexDigit? c).getD 0) 0

/-- Digits in a base; no digits behind a prefix make zero. -/
def numberIn (base : Nat) (cs : List Char) : Part :=
  if cs.all (isDigitIn base) then .number (valueIn base cs) else .notNumber

/-- Reads a part: `0x` starts hexadecimal digits, and `0` octal ones. -/
def readPart : List Char → Part
  | [] => .notNumber
  | '0' :: 'x' :: cs | '0' :: 'X' :: cs => numberIn 16 cs
  | '0' :: c :: cs => numberIn 8 (c :: cs)
  | cs => numberIn 10 cs

/-- The parts of a name without an empty last one. -/
def parts (cs : List Char) : List (List Char) :=
  let all := Text.cut (· == '.') cs
  if 1 < all.length && all.getLast?.any List.isEmpty then all.dropLast else all

/-- A name whose last part is a number can only be an address. -/
def endsInNumber (cs : List Char) : Bool :=
  match (parts cs).getLast? with
  | none => false
  | some last =>
    (!last.isEmpty && last.all Char.isDigit) ||
      match readPart last with
      | .number _ => true
      | .notNumber => false

/-- Reads an address of at most four parts, of which the last fills what the others leave. -/
def read? (cs : List Char) : Option Nat := do
  let parts := parts cs
  if 4 < parts.length then none
  else
    let numbers ← parts.mapM fun part =>
      match readPart part with
      | .number n => some n
      | .notNumber => none
    let last ← numbers.getLast?
    let before := numbers.dropLast
    if last < Nat.pow 256 (4 - before.length) && before.all (· < 256) then
      some (before.zipIdx.foldl (fun sum (n, i) => sum + n * Nat.pow 256 (3 - i)) last)
    else none

/-- Four decimal parts. -/
def text (address : Nat) : List Char :=
  let part (i : Nat) := Decimal.digitsOf (address / Nat.pow 256 i % 256)
  part 3 ++ '.' :: part 2 ++ '.' :: part 1 ++ '.' :: part 0

end Ipv4

/-! ## IPv6 -/

namespace Ipv6

/-- Reads a group of one to four hexadecimal digits. -/
def readGroup? (cs : List Char) : Option Nat :=
  if cs.isEmpty || 4 < cs.length then none else Text.hexValue? cs

/-- Reads a decimal part below 256 that does not start with a needless zero. -/
def readByte? (cs : List Char) : Option Nat :=
  if cs.isEmpty || !cs.all Char.isDigit || (1 < cs.length && cs.head? == some '0') ||
      3 < cs.length then none
  else
    let n := Ipv4.valueIn 10 cs
    if n < 256 then some n else none

/-- Reads four decimal parts as two groups. -/
def readEmbedded? (cs : List Char) : Option (List Nat) := do
  match ← (Text.cut (· == '.') cs).mapM readByte? with
  | [a, b, c, d] => some [256 * a + b, 256 * c + d]
  | _ => none

/-- Reads groups with colons between them; the last one may be an IPv4 address. -/
def readGroups? : List (List Char) → Option (List Nat)
  | [] => some []
  | [last] =>
    if last.contains '.' then readEmbedded? last else (readGroup? last).map ([·])
  | group :: groups => do
    let n ← readGroup? group
    let ns ← readGroups? groups
    some (n :: ns)

/-- Reads the groups on one side of the gap. -/
def readSide? (cs : List Char) : Option (List Nat) :=
  if cs.isEmpty then some [] else readGroups? (Text.cut (· == ':') cs)

/-- Splits a text at its first two colons in a row. -/
def splitGap? : List Char → Option (List Char × List Char)
  | [] => none
  | ':' :: ':' :: cs => some ([], cs)
  | c :: cs => (splitGap? cs).map fun (before, after) => (c :: before, after)

/-- Reads eight groups, or fewer around a gap. -/
def read? (cs : List Char) : Option (List Nat) :=
  match splitGap? cs with
  | none => do
    let groups ← readGroups? (Text.cut (· == ':') cs)
    if groups.length = 8 then some groups else none
  | some (before, after) => do
    let left ← if before.contains '.' then none else readSide? before
    let right ← readSide? after
    let known := left.length + right.length
    if known ≤ 7 then some (left ++ List.replicate (8 - known) 0 ++ right) else none

/-- The length of the run of zeros at the start. -/
def zeros (groups : List Nat) : Nat :=
  (groups.takeWhile (· == 0)).length

/-- Where the first of the longest runs of two or more zeros starts, and its length. -/
def longestGap (groups : List Nat) : Option (Nat × Nat) :=
  (List.range groups.length).foldl (fun best i =>
    let n := zeros (groups.drop i)
    match best with
    | none => if 2 ≤ n then some (i, n) else none
    | some (j, m) => if m < n then some (i, n) else some (j, m)) none

/-- Hexadecimal groups with colons between them. -/
def groupsText : List Nat → List Char
  | [] => []
  | [n] => Nat.toDigits 16 n
  | n :: ns => Nat.toDigits 16 n ++ ':' :: groupsText ns

def text (groups : List Nat) : List Char :=
  match longestGap groups with
  | none => groupsText groups
  | some (start, length) =>
    groupsText (groups.take start) ++ ':' :: ':' :: groupsText (groups.drop (start + length))

example : read? "::ffff:1.2.3.4".toList = some [0, 0, 0, 0, 0, 65535, 258, 772] := by decide

example : text [0, 0, 1, 0, 0, 0, 0, 1] = "0:0:1::1".toList := by decide +kernel

end Ipv6

end PostSlots.Url
