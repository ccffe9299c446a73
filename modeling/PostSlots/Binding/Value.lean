import PostSlots.Json.Display
import PostSlots.Url.Reader

/-!
# Values for slots

A slot distinguishes three classes of values: nothing, a string that is the address of a web page,
and every other value. Only addresses can become the value of an attribute.
-/

namespace PostSlots

/-- What a key names, sorted by how it can be written. -/
inductive SlotValue where
  | absent
  | url (text : String)
  | scalar (value : Json)
deriving DecidableEq

/-- A text that is the absolute URL of a web page. -/
def isWebUrl (text : String) : Bool :=
  match Url.parse text with
  | .ok url => url.isWeb
  | .error _ => false

namespace SlotValue

/-- The text that stands for a missing value. -/
def missing : String := "undefined"

/-- The class of what a key names. -/
def classify : Option Json → SlotValue
  | none => absent
  | some (.string text) => if isWebUrl text then url text else scalar (.string text)
  | some value => scalar value

def isAbsent : SlotValue → Bool
  | absent => true
  | url _ | scalar _ => false

/-- The text that a slot shows. -/
def display : SlotValue → String
  | absent => missing
  | url text => text
  | scalar value => value.display

end SlotValue

end PostSlots
