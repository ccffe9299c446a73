import PostSlots.Dom.Basic
import PostSlots.Text.Blank
import PostSlots.Text.Cut

/-!
# Slots

A marked element is a slot: its marker lists the keys of the values to write, and a second
attribute declares its role, which decides where addresses go.
-/

namespace PostSlots

/-- Where a slot puts an address: an image into `src`, a link into `href`, and text nowhere else
than into its content. -/
inductive Role where
  | image
  | link
  | text
deriving DecidableEq

/-- A word that names no role. -/
structure UnknownRole where
  word : String
deriving DecidableEq

def UnknownRole.message (e : UnknownRole) : String :=
  "unknown slot role '" ++ e.word ++ "'"

namespace Role

/-- The attribute that receives addresses. -/
def urlAttribute? : Role → Option String
  | image => some "src"
  | link => some "href"
  | text => none

/-- Reads the name of a role between blanks. -/
def parse (word : String) : Except UnknownRole Role :=
  match String.ofList (Text.trim word.toList) with
  | "image" => .ok image
  | "link" => .ok link
  | "text" => .ok text
  | other => .error ⟨other⟩

/-- The role that an attribute declares; no declaration and an unknown one mean text. -/
def ofAttr : Option String → Role
  | none => text
  | some word =>
    match parse word with
    | .ok role => role
    | .error _ => text

end Role

/-- What a marked element asks for: keys in the order of their writing, and a role. -/
structure Slot where
  keys : List String
  role : Role
deriving DecidableEq

namespace Slot

/-- The attribute that marks slots unless another one is chosen. -/
def defaultMarker : String := "data-key"

/-- The attribute that declares a role. -/
def roleAttribute : String := "data-role"

/-- The keys of a marker: between commas, without blanks around them and without empty ones. -/
def parseKeys (marker : String) : List String :=
  (((Text.cut (· == ',') marker.toList).map Text.trim).filter fun key => !key.isEmpty).map
    String.ofList

/-- The slot that an element is, if it has the marker. -/
def ofElement? (e : Element) (marker : String) : Option Slot :=
  (e.attr? marker).map fun keys => ⟨parseKeys keys, Role.ofAttr (e.attr? roleAttribute)⟩

example : parseKeys "url, author.avatar ,," = ["url", "author.avatar"] := by decide +kernel

end Slot

end PostSlots
