import PostSlots.Decimal.Numeral
import PostSlots.Decimal.Layout
import PostSlots.Json.Basic
import PostSlots.Text.Blank
import PostSlots.Text.Cut

/-!
# Key paths

A key path such as `record.text` or `posts[0].likeCount` names a place in a JSON value. Points and
brackets separate its tokens, empty tokens do not count, and a token that denotes a whole number
is an index. A step that finds nothing ends the walk with nothing.
-/

namespace PostSlots

open Decimal

/-- One step of a walk: an index is a 64-bit word. -/
inductive Segment where
  | field (name : String)
  | index (n : Nat)
deriving DecidableEq

/-- A whole, non-negative double up to `2 ^ 64` is an index, the largest word in place of `2 ^ 64`.
Minus zero counts as zero. -/
def Segment.ofBinary64? (x : Binary64) : Option Segment :=
  if (x.isZero || !x.negative) && x.isWhole && x.floor ≤ wordBound then
    some (.index (min x.floor (wordBound - 1)))
  else none

/-- A token is an index if it reads as a word, or as a number that is one; otherwise a field. -/
def Segment.ofToken (token : List Char) : Segment :=
  match readWord? token with
  | some n => .index n
  | none =>
    match ((Numeral.read? token).bind Numeral.toBinary64?).bind Segment.ofBinary64? with
    | some segment => segment
    | none => .field (String.ofList token)

/-- The steps of a walk, the first one first. -/
abbrev KeyPath := List Segment

namespace KeyPath

/-- Points and brackets stand between tokens. -/
def isDelimiter (c : Char) : Bool :=
  c == '.' || c == '[' || c == ']'

/-- The steps that an expression spells. -/
def parse (expression : String) : KeyPath :=
  (Text.tokens isDelimiter (Text.trim expression.toList)).map Segment.ofToken

/-- One step. Objects answer an index by its decimal key. -/
def step : Json → Segment → Option Json
  | .array items, .index n => items[n]?
  | .object fields, .index n => fields.lookup (String.ofList (digitsOf n))
  | .object fields, .field name => fields.lookup name
  | _, _ => none

/-- Walks from a value along the steps. -/
def apply (value : Json) (path : KeyPath) : Option Json :=
  path.foldlM step value

/-- The value at the place that an expression names. -/
def resolve (expression : String) (value : Json) : Option Json :=
  apply value (parse expression)

example : parse " a[0]..b " = [.field "a", .index 0, .field "b"] := by decide +kernel

end KeyPath

end PostSlots
