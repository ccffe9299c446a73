import PostSlots.Binding.Write
import PostSlots.Post.Record

/-!
# Binding

Binding a record to a fragment writes into each of its slots, in document order, what the keys of
the slot name, one after the other, so that the last write to a place stays. The keys and the role
of a slot are read before its writes.
-/

namespace PostSlots

/-- What a binding did: how many slots it visited, how many writes it made, and how many keys named
nothing. -/
structure BindReport where
  slots : Nat
  writes : Nat
  misses : Nat
deriving DecidableEq

namespace BindReport

def empty : BindReport := ⟨0, 0, 0⟩

/-- Counts a slot. -/
def addSlot (r : BindReport) : BindReport := { r with slots := r.slots + 1 }

/-- Counts a write of a value. -/
def addWrite (r : BindReport) (value : SlotValue) : BindReport :=
  { r with writes := r.writes + 1, misses := r.misses + if value.isAbsent then 1 else 0 }

end BindReport

namespace Slot

/-- Adds the write of one key to a change. -/
def writeKey (record : Record) (role : Role) (state : Change × BindReport) (key : String) :
    Change × BindReport :=
  let value := SlotValue.classify (record.resolve key)
  ((Write.plan key value role).addTo state.1, state.2.addWrite value)

/-- Binds one element. -/
def visit (record : Record) (marker : String) : Visit BindReport := fun e report =>
  match ofElement? e marker with
  | none => (.keep e, report)
  | some slot => slot.keys.foldl (writeKey record slot.role) (.keep e, report.addSlot)

end Slot

/-- Writes a record into the slots of a fragment. -/
def Fragment.bind (f : Fragment) (marker : String) (record : Record) : Fragment × BindReport :=
  f.editMarked marker (Slot.visit record marker) .empty

end PostSlots
