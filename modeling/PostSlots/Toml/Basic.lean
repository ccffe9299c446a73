import PostSlots.FieldMap

/-!
# Tables of TOML

A table is defined by its header, implied by the header of a table below it, or made by a dotted
key. No table is defined twice, and no key is given twice. Of values, only those that settings
can be made of are kept.
-/

namespace PostSlots.Toml

/-- What is wrong with a text. -/
inductive Fault where
  | malformed
  | duplicate
  | depth
deriving DecidableEq

def Fault.text : Fault → String
  | malformed => "malformed text"
  | duplicate => "a key given twice"
  | depth => "too much nesting"

/-- How a table came to be. -/
inductive Origin where
  | defined
  | implied
  | dotted
deriving DecidableEq

/-- What a key leads to. Of an array of tables the latest table comes first. -/
inductive Item where
  | string (s : String)
  | integer (n : Int)
  | other
  | table (origin : Origin) (fields : List (String × Item))
  | tables (items : List (List (String × Item)))

/-- The keys of a table and what they lead to. -/
abbrev Fields := List (String × Item)

namespace Fields

/-- A change of a table whose origin is known. -/
abbrev Edit := Origin → Fields → Except Fault Fields

/-- Changes the table at a path. What is missing on the way becomes a table of the given origin;
dotted keys do not enter tables that have a header. -/
def editAt (origin : Origin) (edit : Edit) : List String → Edit
  | [], here, fields => edit here fields
  | key :: path, _, fields =>
    match fields.lookup key with
    | none => do
      let inner ← editAt origin edit path origin []
      pure (fields ++ [(key, .table origin inner)])
    | some (.table own inner) =>
      if origin = .dotted ∧ own = .defined then .error .duplicate
      else do
        let inner ← editAt origin edit path own inner
        pure (fields.map fun field => if field.1 = key then (key, .table own inner) else field)
    | some (.tables (inner :: earlier)) => do
      let inner ← editAt origin edit path .defined inner
      let item := Item.tables (inner :: earlier)
      pure (fields.map fun field => if field.1 = key then (key, item) else field)
    | some _ => .error .duplicate

/-- Adds a key that is not there yet. -/
def add (key : String) (item : Item) (fields : Fields) : Except Fault Fields :=
  if (fields.lookup key).isSome then .error .duplicate else .ok (fields ++ [(key, item)])

/-- Adds what a dotted key leads to. Its last table must be one that dotted keys have made. -/
def addDotted (path : List String) (key : String) (item : Item) : Edit :=
  editAt .dotted (fun here fields =>
    if (here = .dotted) = (path = []) then .error .duplicate else add key item fields) path

/-- Defines a table that is at most implied. -/
def define (key : String) (fields : Fields) : Except Fault Fields :=
  match fields.lookup key with
  | none => .ok (fields ++ [(key, .table .defined [])])
  | some (.table .implied inner) =>
    .ok (fields.map fun field => if field.1 = key then (key, .table .defined inner) else field)
  | some _ => .error .duplicate

/-- Adds a table to an array of tables. -/
def extend (key : String) (fields : Fields) : Except Fault Fields :=
  match fields.lookup key with
  | none => .ok (fields ++ [(key, .tables [[]])])
  | some (.tables items) =>
    .ok (fields.map fun field => if field.1 = key then (key, .tables ([] :: items)) else field)
  | some _ => .error .duplicate

end Fields

end PostSlots.Toml
