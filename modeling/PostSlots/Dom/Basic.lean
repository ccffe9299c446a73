import PostSlots.FieldMap

/-!
# HTML fragments

A fragment is a list of nodes: text, elements, and raw markup that is printed as it stands. The
text of a fragment is the text of its nodes in document order; of raw markup, what stands outside
tags.
-/

namespace PostSlots

/-- Attribute values by name. -/
abbrev Attributes := FieldMap String

/-- A node of a fragment. -/
inductive Node where
  | text (content : String)
  | element (tag : String) (attrs : Attributes) (children : List Node)
  | raw (markup : String)

namespace Node

instance : Inhabited Node := ⟨text ""⟩

mutual
/-- Equality of nodes is decidable. Text and raw markup are never equal. -/
def decEq : (a b : Node) → Decidable (a = b)
  | text a, text b => decidable_of_iff (a = b) (by simp)
  | raw a, raw b => decidable_of_iff (a = b) (by simp)
  | element t as cs, element u bs ds =>
    match instDecidableEqString t u, instDecidableEqFieldMap.decEq as bs, decEqAll cs ds with
    | isTrue h, isTrue i, isTrue j => isTrue (by rw [h, i, j])
    | isFalse h, _, _ => isFalse fun e => h (Node.element.inj e).1
    | _, isFalse i, _ => isFalse fun e => i (Node.element.inj e).2.1
    | _, _, isFalse j => isFalse fun e => j (Node.element.inj e).2.2
  | text _, element .. | text _, raw _ | element .., text _ | element .., raw _
  | raw _, text _ | raw _, element .. => isFalse (by simp)

def decEqAll : (a b : List Node) → Decidable (a = b)
  | [], [] => isTrue rfl
  | [], _ :: _ | _ :: _, [] => isFalse (by simp)
  | a :: as, b :: bs =>
    match decEq a b, decEqAll as bs with
    | isTrue h, isTrue t => isTrue (by rw [h, t])
    | isFalse h, _ => isFalse fun e => h (List.cons.inj e).1
    | _, isFalse t => isFalse fun e => t (List.cons.inj e).2
end

instance : DecidableEq Node := decEq

end Node

/-- A list of nodes in document order. -/
abbrev Fragment := List Node

/-- An element: a tag, attributes and children. -/
structure Element where
  tag : String
  attrs : Attributes
  children : List Node
deriving DecidableEq

namespace Element

/-- An element without attributes and children. -/
def ofTag (tag : String) : Element := ⟨tag, .empty, []⟩

def toNode (e : Element) : Node := .element e.tag e.attrs e.children

def attr? (e : Element) (name : String) : Option String := e.attrs.get? name

def setAttr (e : Element) (name value : String) : Element :=
  { e with attrs := e.attrs.insert name value }

/-- Appends a child. -/
def push (e : Element) (child : Node) : Element :=
  { e with children := e.children ++ [child] }

def setContent (e : Element) (nodes : List Node) : Element := { e with children := nodes }

/-- Puts one text in the place of the children. -/
def setText (e : Element) (text : String) : Element := e.setContent [.text text]

/-- Puts raw markup in the place of the children. -/
def setMarkup (e : Element) (markup : String) : Element := e.setContent [.raw markup]

end Element

namespace Node

/-- The element that a node is, if it is one. -/
def element? : Node → Option Element
  | element tag attrs children => some ⟨tag, attrs, children⟩
  | text _ | raw _ => none

/-- A `br` element. -/
def lineBreak : Node := (Element.ofTag "br").toNode

/-- What stands outside the tags of markup. A `>` ends a tag only where one is open. -/
def markupText : (inTag : Bool) → List Char → List Char
  | _, [] => []
  | inTag, c :: cs =>
    if c = '<' then markupText true cs
    else if inTag then markupText (c != '>') cs
    else c :: markupText false cs

mutual
def textChars : Node → List Char
  | text content => content.toList
  | element _ _ children => textCharsAll children
  | raw markup => markupText false markup.toList

def textCharsAll : List Node → List Char
  | [] => []
  | node :: nodes => textChars node ++ textCharsAll nodes
end

end Node

/-- The text of a fragment. -/
def Fragment.text (f : Fragment) : String :=
  String.ofList (Node.textCharsAll f)

/-- The text of an element. -/
def Element.text (e : Element) : String :=
  Fragment.text e.children

example : Node.markupText false "a > <b c='>'>d&lt;".toList = "a > '>d&lt;".toList := by decide

end PostSlots
