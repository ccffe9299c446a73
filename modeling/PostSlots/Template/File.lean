import PostSlots.Dom.Form
import PostSlots.Files
import PostSlots.Template.Registry
import PostSlots.Yaml.Document

/-!
# Template files

A template file is a document with a list `templates`, which may be missing. A template has an
`id`, which any scalar can be, and a list of nodes as its `content`. Other fields do not count.
-/

namespace PostSlots.Template

open Yaml (Document Extract)

/-- A node of a document. -/
abbrev Place := Yaml.Node Nat

/-- The text of a scalar, whatever it denotes. -/
def readText (d : Document) (place : Place) : Extract String := do
  match ← d.follow place with
  | .scalar _ _ text => pure text
  | _ => throw .shape

/-- The pairs of a mapping by the texts of their keys. Nothing counts as an empty mapping. -/
def readFields (d : Document) (place : Place) : Extract (List (String × Place)) := do
  match ← d.follow place with
  | .mapping _ pairs => pairs.mapM fun (key, value) => do pure (← readText d key, value)
  | .scalar _ true "" => pure []
  | _ => throw .shape

/-- The items of a sequence. Nothing counts as an empty one. -/
def readItems (d : Document) (place : Place) : Extract (List Place) := do
  match ← d.follow place with
  | .sequence _ items => pure items
  | .scalar _ true "" => pure []
  | _ => throw .shape

/-- A field that is given at most once. -/
def field? (name : String) (fields : List (String × Place)) : Extract (Option Place) :=
  match fields.filter fun field => field.1 == name with
  | [] => pure none
  | [field] => pure (some field.2)
  | _ => throw .shape

def requiredField (name : String) (fields : List (String × Place)) : Extract Place := do
  match ← field? name fields with
  | some place => pure place
  | none => throw .shape

/-- How deep a node of a template is nested by what surrounds it: the document, the list of
templates, the template and its content. -/
def nodeDepth : Nat := 4

def readNode (d : Document) (place : Place) : Extract Node := do
  match Node.ofDatum? (← d.datum (Document.depthLimit - nodeDepth) place) with
  | some node => pure node
  | none => throw .shape

def readTemplate (d : Document) (place : Place) : Extract Template := do
  let fields ← readFields d place
  let id ← readText d (← requiredField "id" fields)
  let nodes ← (← readItems d (← requiredField "content" fields)).mapM (readNode d)
  pure ⟨id, nodes⟩

def readTemplates (d : Document) : Extract (List Template) := do
  match ← field? "templates" (← readFields d d.root) with
  | none => pure []
  | some place => (← readItems d place).mapM (readTemplate d)

/-- The templates that a text declares. Their ids are not checked. -/
def parseAll (text : String) : Except Yaml.Fault (List Template) := do
  match ← Yaml.parse text with
  | none => pure []
  | some d => do
    let (templates, _) ← (readTemplates d).run d.aliasLimit
    pure templates

/-- The templates of a text that comes from a named place. -/
def parseFrom (origin text : String) : Except Error (List Template) :=
  (parseAll text).mapError fun fault => .templateParse origin fault.text

end PostSlots.Template

namespace PostSlots.Registry

/-- Registers the templates of a file. The answer lists the ids that are new. -/
def loadFile (r : Registry) (disk : Disk) (path : String) : Except Error (List String) × Registry :=
  match disk path with
  | .error fault => (.error (.io fault.text), r)
  | .ok text =>
    match Template.parseFrom path text with
    | .error e => (.error e, r)
    | .ok templates => r.registerAll templates

end PostSlots.Registry
