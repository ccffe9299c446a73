import PostSlots.KeyPath
import PostSlots.Post.Link

/-!
# Records

The record that slots read from: the fields of a post with those of its link. The link decides
alone over the fields that it has a name for.
-/

namespace PostSlots

/-- The fields that the keys of slots are resolved in. -/
structure Record where
  fields : FieldMap Json
deriving DecidableEq

namespace Record

def toJson (r : Record) : Json :=
  .object r.fields.entries

/-- The record of an object's fields. -/
def ofFields (fields : List (String × Json)) : Record :=
  ⟨.ofList fields⟩

/-- The value at the place that an expression names. -/
def resolve (r : Record) (expression : String) : Option Json :=
  KeyPath.resolve expression r.toJson

/-- Sets a field to a string, or removes it. -/
def put (fields : FieldMap Json) (name : String) : Option String → FieldMap Json
  | some value => fields.insert name (.string value)
  | none => fields.erase name

/-- The fields of a post. What is not an object has none. -/
def postFields : Option Json → FieldMap Json
  | some (.object fields) => .ofList fields
  | _ => .empty

/-- A post with the fields of its link. A field that the link has no value for is missing, even if
the post has one. -/
def merge (post : Option Json) (link : LinkFields) : Record :=
  let fields := put (postFields post) "url" (some link.url)
  let fields := put fields "hostname" link.hostname
  let fields := put fields "username" link.username
  ⟨put fields "postId" link.postId⟩

end Record

end PostSlots
