import PostSlots.Json.Basic

/-!
# Data without a format

What fragments are read from, whatever format it is written in: texts, small whole numbers, lists,
and fields whose names need not be texts nor differ. All else is only told to be something else.
-/

namespace PostSlots

inductive Datum where
  | text (s : String)
  | index (n : Nat)
  | other
  | list (items : List Datum)
  | fields (pairs : List (Datum × Datum))

namespace Datum

instance : Inhabited Datum := ⟨other⟩

mutual
/-- The data of a JSON value. -/
def ofJson : Json → Datum
  | .string s => text s
  | .number (.int n) => if n < 0 then other else index n.toNat
  | .null | .bool _ | .number (.double _) => other
  | .array items => list (ofItems items)
  | .object pairs => fields (ofFields pairs)

def ofItems : List Json → List Datum
  | [] => []
  | item :: items => ofJson item :: ofItems items

def ofFields : List (String × Json) → List (Datum × Datum)
  | [] => []
  | (name, value) :: pairs => (text name, ofJson value) :: ofFields pairs
end

end Datum

end PostSlots
