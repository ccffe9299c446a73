import PostSlots.Decimal.Layout
import PostSlots.Json.Basic

/-!
# The text of a JSON value

The compact form: no blanks, fields in the order in which the value holds them, and only quotes,
backslashes and control characters escaped.
-/

namespace PostSlots

open Decimal

/-- Doubles have a point from `1e-5` on and below `1e16`, and an exponent elsewhere. -/
def Json.doubleLayout : Layout := ⟨-5, 16⟩

/-- The text of a number. A double always shows that it is one, by a point or an exponent. -/
def Number.text : Number → List Char
  | .int n => intText n
  | .double x => Json.doubleLayout.writeDouble x

namespace Json

/-- A character of a string. -/
def escape (c : Char) : List Char :=
  match c with
  | '"' => ['\\', '"']
  | '\\' => ['\\', '\\']
  | '\x08' => ['\\', 'b']
  | '\t' => ['\\', 't']
  | '\n' => ['\\', 'n']
  | '\x0c' => ['\\', 'f']
  | '\r' => ['\\', 'r']
  | c =>
    if c.toNat < 0x20 then
      ['\\', 'u', '0', '0', Nat.digitChar (c.toNat / 16), Nat.digitChar (c.toNat % 16)]
    else [c]

/-- A string between its quotes. -/
def quote (s : String) : List Char :=
  '"' :: s.toList.flatMap escape ++ ['"']

mutual
def print : Json → List Char
  | null => "null".toList
  | bool b => (if b then "true" else "false").toList
  | number n => n.text
  | string s => quote s
  | array [] => ['[', ']']
  | array (item :: items) => '[' :: print item ++ printItems items
  | object [] => ['\x7b', '\x7d']
  | object ((key, value) :: fields) =>
    '\x7b' :: quote key ++ ':' :: print value ++ printFields fields

def printItems : List Json → List Char
  | [] => [']']
  | item :: items => ',' :: print item ++ printItems items

def printFields : List (String × Json) → List Char
  | [] => ['\x7d']
  | (key, value) :: fields => ',' :: quote key ++ ':' :: print value ++ printFields fields
end

/-- The compact text of a value. -/
def render (value : Json) : String :=
  String.ofList value.print

example : render (object [("a", array [null, string "b\n"])]) =
    "\x7b\"a\":[null,\"b\\n\"]\x7d" := by decide +kernel

end Json

end PostSlots
