import PostSlots.Dom.Basic

/-!
# Fragments as HTML

Attributes come in the order of their names, void elements close themselves, and raw markup is
printed as it stands. Text escapes `&`, `<` and `>`; attribute values escape the quote as well.
-/

namespace PostSlots

namespace Html

/-- The tags of the elements that have no closing tag. Their children are not printed. -/
def voidTags : List String :=
  ["area", "base", "br", "col", "embed", "hr", "img", "input", "link", "meta", "source", "track",
    "wbr"]

def isVoid (tag : String) : Bool :=
  voidTags.contains tag

/-- A character of a text. -/
def escapeText (c : Char) : List Char :=
  match c with
  | '&' => "&amp;".toList
  | '<' => "&lt;".toList
  | '>' => "&gt;".toList
  | c => [c]

/-- A character of an attribute value. -/
def escapeValue (c : Char) : List Char :=
  match c with
  | '"' => "&quot;".toList
  | c => escapeText c

/-- An attribute and the blank before it. -/
def assignment (field : String × String) : List Char :=
  ' ' :: field.1.toList ++ '=' :: '"' :: field.2.toList.flatMap escapeValue ++ ['"']

/-- A tag from its opening bracket to its last attribute. -/
def openTag (tag : String) (attrs : Attributes) : List Char :=
  '<' :: tag.toList ++ attrs.entries.flatMap assignment

def closeTag (tag : String) : List Char :=
  '<' :: '/' :: tag.toList ++ ['>']

mutual
def node : Node → List Char
  | .text content => content.toList.flatMap escapeText
  | .element tag attrs children =>
    openTag tag attrs ++
      if isVoid tag then ['/', '>'] else '>' :: nodes children ++ closeTag tag
  | .raw markup => markup.toList

def nodes : List Node → List Char
  | [] => []
  | n :: ns => node n ++ nodes ns
end

end Html

/-- The HTML of a fragment. -/
def Fragment.html (f : Fragment) : String :=
  String.ofList (Html.nodes f)

/-- The HTML of an element. -/
def Element.html (e : Element) : String :=
  String.ofList (Html.node e.toNode)

/-- The HTML between the tags of an element. -/
def Element.innerHtml (e : Element) : String :=
  Fragment.html e.children

example : Fragment.html [(Element.ofTag "p").setAttr "a" "\"" |>.setText "<" |>.toNode] =
    "<p a=\"&quot;\">&lt;</p>" := by decide +kernel

end PostSlots
