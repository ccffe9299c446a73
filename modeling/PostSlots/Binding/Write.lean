import PostSlots.Binding.Slot
import PostSlots.Binding.Value
import PostSlots.Dom.Marked

/-!
# Writes

Each key of a slot leads to one write. The body of a post becomes markup whose line breaks are
kept, addresses go to the attribute of the slot's role, and everything else becomes text.
-/

namespace PostSlots

/-- A write into an element. Markup and text take the place of its children. -/
inductive Write where
  | markup (html : String)
  | attr (name value : String)
  | text (content : String)
deriving DecidableEq

namespace Write

/-- The key of a post's body, in the one spelling that counts. -/
def bodyKey : String := "record.text"

/-- Line feeds become `br` elements. -/
def breakLines (text : String) : String :=
  String.ofList (text.toList.flatMap fun c => if c = '\n' then "<br/>".toList else [c])

/-- The write of what a key names into a slot of a role. -/
def plan (key : String) (value : SlotValue) (role : Role) : Write :=
  if key = bodyKey then markup (breakLines value.display)
  else match value, role.urlAttribute? with
    | .url address, some name => attr name address
    | value, _ => text value.display

/-- Adds a write to a change. -/
def addTo (w : Write) (c : Change) : Change :=
  match w with
  | markup html => c.setContent [.raw html]
  | attr name value => c.setAttr name value
  | text content => c.setContent [.text content]

/-- The element after a write. -/
def applyTo (w : Write) (e : Element) : Element :=
  (w.addTo (.keep e)).applyTo e

end Write

end PostSlots
