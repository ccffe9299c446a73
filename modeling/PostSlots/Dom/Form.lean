import PostSlots.Datum
import PostSlots.Dom.Basic

/-!
# Fragments as data

Text is a string; an element is an object with `tag`, and with `attrs` and `children` where it has
some. The list `[tag, attrs, children]`, cut off after any of its items, is a second spelling of
an element. Raw markup is written as a string and is never read.
-/

namespace PostSlots

namespace Node

/-! ## Writing -/

/-- Attribute values as the fields of an object. -/
def encodeAttrs (attrs : Attributes) : Json :=
  .object (attrs.entries.map fun (name, value) => (name, .string value))

mutual
def encode : Node → Json
  | text content => .string content
  | element tag attrs children =>
    let named := if attrs.isEmpty then [] else [("attrs", encodeAttrs attrs)]
    let nested := match children with
      | [] => []
      | child :: children => [("children", .array (encode child :: encodeAll children))]
    .object (named ++ nested ++ [("tag", .string tag)])
  | raw markup => .string markup

def encodeAll : List Node → List Json
  | [] => []
  | node :: nodes => encode node :: encodeAll nodes
end

/-! ## Reading -/

/-- What a field of an element is about. -/
inductive Field where
  | tag
  | attrs
  | children
  | unknown
deriving DecidableEq

namespace Field

/-- The field that a text names. -/
def ofText (name : String) : Field :=
  match name with
  | "tag" => tag
  | "attrs" => attrs
  | "children" => children
  | _ => unknown

/-- The field at a place in the list form. -/
def ofIndex (n : Nat) : Field :=
  match n with
  | 0 => tag
  | 1 => attrs
  | 2 => children
  | _ => unknown

/-- The field that a key denotes: a text names one, and a number counts them. -/
def ofKey? : Datum → Option Field
  | .text name => some (ofText name)
  | .index n => some (ofIndex n)
  | .other | .list _ | .fields _ => none

end Field

/-- The values of a field. -/
def valuesOf (field : Field) (pairs : List (Datum × Datum)) : List Datum :=
  (pairs.filter fun pair => Field.ofKey? pair.1 == some field).map Prod.snd

/-- Every key denotes a field, and none of an element's fields is given twice. -/
def fieldsFit (pairs : List (Datum × Datum)) : Bool :=
  (pairs.all fun pair => (Field.ofKey? pair.1).isSome) &&
    [Field.tag, .attrs, .children].all fun field => (valuesOf field pairs).length ≤ 1

/-- A tag is a text. -/
def tagOf? : Datum → Option String
  | .text tag => some tag
  | _ => none

/-- Adds an attribute. Its name and its value are texts, and it replaces an earlier one. -/
def addAttr? (attrs : Attributes) : Datum × Datum → Option Attributes
  | (.text name, .text value) => some (attrs.insert name value)
  | _ => none

def attrsOf? : Datum → Option Attributes
  | .fields pairs => pairs.foldlM addAttr? .empty
  | _ => none

/-- The attributes in the fields of an element, which may be missing. -/
def attrsIn? (pairs : List (Datum × Datum)) : Option Attributes :=
  match valuesOf .attrs pairs with
  | [] => some .empty
  | value :: _ => attrsOf? value

mutual
def ofDatum? : Datum → Option Node
  | .text content => some (text content)
  | .fields pairs =>
    if fieldsFit pairs then do
      let tag ← (valuesOf .tag pairs).head?.bind tagOf?
      let attrs ← attrsIn? pairs
      let children ← childrenIn? pairs
      some (element tag attrs children)
    else none
  | .list [tag] => do some (element (← tagOf? tag) .empty [])
  | .list [tag, attrs] => do some (element (← tagOf? tag) (← attrsOf? attrs) [])
  | .list [tag, attrs, children] => do
    some (element (← tagOf? tag) (← attrsOf? attrs) (← ofList? children))
  | _ => none

/-- The children in the fields of an element, which may be missing. -/
def childrenIn? : List (Datum × Datum) → Option (List Node)
  | [] => some []
  | (key, value) :: pairs =>
    if Field.ofKey? key == some .children then ofList? value else childrenIn? pairs

def ofList? : Datum → Option (List Node)
  | .list items => ofItems? items
  | _ => none

def ofItems? : List Datum → Option (List Node)
  | [] => some []
  | item :: items => do
    let node ← ofDatum? item
    let nodes ← ofItems? items
    some (node :: nodes)
end

/-- Reads a node in any of its spellings. -/
def decode? (value : Json) : Option Node :=
  ofDatum? (.ofJson value)

end Node

/-- The nodes of a fragment as an array. -/
def Fragment.encode (f : Fragment) : Json :=
  .array (Node.encodeAll f)

/-- Reads an array of nodes in any of their spellings. -/
def Fragment.decode? (value : Json) : Option Fragment :=
  Node.ofList? (.ofJson value)

end PostSlots
