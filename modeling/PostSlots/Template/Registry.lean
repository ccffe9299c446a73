import PostSlots.Dom.Basic
import PostSlots.Template.Name

/-!
# Registries of templates

A registry holds one template for each id. The first template that is registered under an id
stays, and later ones are ignored.
-/

namespace PostSlots

/-- A fragment to be copied, and its id. -/
structure Template where
  id : String
  content : Fragment
deriving DecidableEq

/-- Templates by id. -/
structure Registry where
  templates : FieldMap Template
deriving DecidableEq

namespace Registry

def empty : Registry := ⟨.empty⟩

def get? (r : Registry) (id : String) : Option Template := r.templates.get? id

def contains (r : Registry) (id : String) : Bool := r.templates.contains id

/-- The ids, ascending. -/
def ids (r : Registry) : List String := r.templates.keys

def size (r : Registry) : Nat := r.templates.size

def isEmpty (r : Registry) : Bool := r.templates.isEmpty

/-- Registers a template unless its id is taken; the answer tells whether it was. -/
def register (r : Registry) (t : Template) : Except Error (Bool × Registry) := do
  TemplateName.checkId t.id
  if r.contains t.id then pure (false, r)
  else pure (true, ⟨r.templates.insert t.id t⟩)

/-- Registers templates in turn up to the first bad id. The answer lists the ids that are new; the
templates before a bad id stay registered. -/
def registerAll (r : Registry) : List Template → Except Error (List String) × Registry
  | [] => (.ok [], r)
  | t :: ts =>
    match r.register t with
    | .error e => (.error e, r)
    | .ok (isNew, r) =>
      let (ids, r) := r.registerAll ts
      (ids.map fun ids => if isNew then t.id :: ids else ids, r)

/-- A copy of the template with the given id, or of the one that belongs to the tag. -/
def instantiate (r : Registry) (id : Option String) (tag : String) : Except Error Fragment :=
  let id := id.getD (TemplateName.ofTag tag)
  match r.get? id with
  | some t => .ok t.content
  | none => .error (.templateNotFound id)

end Registry

end PostSlots
