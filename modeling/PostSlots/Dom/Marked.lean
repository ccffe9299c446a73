import PostSlots.Dom.Basic

/-!
# Marked elements

An element is marked when it has a given attribute. `Fragment.marked` lists the marked elements in
document order. `Fragment.editMarked` visits them in that order and changes them on the way: an
element is visited before its children, and a visit may replace the children that the walk is
about to enter.
-/

namespace PostSlots

mutual
def Node.marked (marker : String) : Node → List Element
  | .element tag attrs children =>
    let below := Node.markedAll marker children
    if attrs.contains marker then ⟨tag, attrs, children⟩ :: below else below
  | .text _ | .raw _ => []

def Node.markedAll (marker : String) : List Node → List Element
  | [] => []
  | node :: nodes => Node.marked marker node ++ Node.markedAll marker nodes
end

/-- The elements with the attribute `marker`, in document order. -/
def Fragment.marked (f : Fragment) (marker : String) : List Element :=
  Node.markedAll marker f

/-- The first element whose attribute `marker` has a given value. -/
def Fragment.findMarked? (f : Fragment) (marker value : String) : Option Element :=
  (f.marked marker).find? fun e => e.attr? marker == some value

/-- What a visit makes of an element: its attributes, and new children or none. -/
structure Change where
  attrs : Attributes
  content : Option (List Node)

namespace Change

/-- Leaves an element as it is. -/
def keep (e : Element) : Change := ⟨e.attrs, none⟩

def setAttr (c : Change) (name value : String) : Change :=
  { c with attrs := c.attrs.insert name value }

def setContent (c : Change) (nodes : List Node) : Change := { c with content := some nodes }

/-- The element with its change. -/
def applyTo (c : Change) (e : Element) : Element :=
  ⟨e.tag, c.attrs, c.content.getD e.children⟩

end Change

/-- A visit sees an element and a state, and leaves a change and a state. -/
abbrev Visit (σ : Type) := Element → σ → Change × σ

/-- A walk over nodes that carries a state along. -/
abbrev Walk (σ : Type) := List Node → σ → List Node × σ

mutual
/-- Visits a node and what is below it. New children are handed to the walk `entered`. -/
def Node.editMarked {σ : Type} (marker : String) (visit : Visit σ) (entered : Walk σ) :
    Node → σ → Node × σ
  | .element tag attrs children, s =>
    if attrs.contains marker then
      let (change, s) := visit ⟨tag, attrs, children⟩ s
      match change.content with
      | none =>
        let (children, s) := Node.editMarkedAll marker visit entered children s
        (.element tag change.attrs children, s)
      | some nodes =>
        let (nodes, s) := entered nodes s
        (.element tag change.attrs nodes, s)
    else
      let (children, s) := Node.editMarkedAll marker visit entered children s
      (.element tag attrs children, s)
  | .text content, s => (.text content, s)
  | .raw markup, s => (.raw markup, s)

def Node.editMarkedAll {σ : Type} (marker : String) (visit : Visit σ) (entered : Walk σ) :
    List Node → σ → List Node × σ
  | [], s => ([], s)
  | node :: nodes, s =>
    let (node, s) := Node.editMarked marker visit entered node s
    let (nodes, s) := Node.editMarkedAll marker visit entered nodes s
    (node :: nodes, s)
end

/-- Visits the marked elements in document order. The children that a visit puts in are visited in
their turn; children put in during those visits are left alone, so that every walk ends. -/
def Fragment.editMarked {σ : Type} (f : Fragment) (marker : String) (visit : Visit σ) (s : σ) :
    Fragment × σ :=
  let leave : Walk σ := fun nodes s => (nodes, s)
  Node.editMarkedAll marker visit (Node.editMarkedAll marker visit leave) f s

end PostSlots
