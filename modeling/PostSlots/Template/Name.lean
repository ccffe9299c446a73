import PostSlots.Error

/-!
# Names of templates and tags

Names are in kebab case: a lowercase letter, then lowercase letters, digits and dashes. They are
checked byte by byte in their UTF-8 form. The tag of a host element also needs a dash, so that it is
no tag of HTML.
-/

namespace PostSlots.TemplateName

def isHead (b : UInt8) : Bool := 'a'.toUInt8 ≤ b && b ≤ 'z'.toUInt8

def isTail (b : UInt8) : Bool :=
  isHead b || ('0'.toUInt8 ≤ b && b ≤ '9'.toUInt8) || b == '-'.toUInt8

/-- Why a name is refused. -/
inductive Fault where
  | empty
  | notKebab
  | noDash
deriving DecidableEq

def Fault.reason : Fault → String
  | empty => "cannot be empty"
  | notKebab =>
    "must start with lowercase letter (a-z), then lowercase letters, digits, or dashes"
  | noDash => "must contain a dash"

/-- Checks for kebab case. -/
def checkKebab (name : String) : Except Fault Unit :=
  match name.toUTF8.data.toList with
  | [] => .error .empty
  | b :: bs => if isHead b && bs.all isTail then .ok () else .error .notKebab

/-- Checks the tag of a host element. -/
def checkTagForm (tag : String) : Except Fault Unit := do
  checkKebab tag
  if tag.toList.contains '-' then pure () else throw .noDash

/-- The template of a host that names none. -/
def ofTag (tag : String) : String :=
  tag ++ "-template"

/-- Refuses names that are not the id of a template. -/
def checkId (id : String) : Except Error Unit :=
  (checkKebab id).mapError fun fault => .invalidTemplateId id fault.reason

/-- Refuses names that are not the tag of a host element. -/
def checkTag (tag : String) : Except Error Unit :=
  (checkTagForm tag).mapError fun fault =>
    .invalidTemplateId (ofTag tag) ("tag name " ++ fault.reason)

example : (checkKebab "card2-template").isOk ∧ ¬(checkKebab "2-post").isOk := by
  decide +kernel

end PostSlots.TemplateName
