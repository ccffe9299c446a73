import PostSlots.Json.Printer

/-!
# Values as a browser script shows them

Arrays are joined by commas, with nothing for a `null` item; an object hides its fields; a double
without a fraction shows no point while it is below `10 ^ 21`.
-/

namespace PostSlots

open Decimal

/-- Below this bound a whole double is shown in full. -/
def Number.fullBound : Nat := Nat.pow 10 21

/-- A number as it is shown. -/
def Number.display : Number → List Char
  | .int n => intText n
  | .double x =>
    if x.isZero then ['0']
    else if x.isWhole && x.floor < Number.fullBound then
      if x.negative then '-' :: digitsOf x.floor else digitsOf x.floor
    else Number.text (.double x)

namespace Json

/-- The pieces with a comma between each two. -/
def joinCommas : List (List Char) → List Char
  | [] => []
  | [piece] => piece
  | piece :: pieces => piece ++ ',' :: joinCommas pieces

mutual
def displayChars : Json → List Char
  | null => "null".toList
  | bool b => (if b then "true" else "false").toList
  | number n => n.display
  | string s => s.toList
  | array items => joinCommas (displayItems items)
  | object _ => "[object Object]".toList

/-- The items of an array, a `null` among them as nothing. -/
def displayItems : List Json → List (List Char)
  | [] => []
  | null :: items => [] :: displayItems items
  | item :: items => displayChars item :: displayItems items
end

/-- A value as it is shown. -/
def display (value : Json) : String :=
  String.ofList value.displayChars

@[simp] theorem display_string (s : String) : (string s).display = s :=
  String.ofList_toList

example : display (array [null, bool true, array [null]]) = ",true," := by decide +kernel

end Json

end PostSlots
