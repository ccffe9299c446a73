/-!
# Environments

The variables that a program is started with. Variables can be added, but not changed.
-/

namespace PostSlots

/-- Variables and their values. The first value of a variable counts. -/
structure Environment where
  bindings : List (String × String)
deriving DecidableEq

namespace Environment

def get? (env : Environment) (name : String) : Option String := env.bindings.lookup name

/-- The value of a variable that is set to something. -/
def nonempty? (env : Environment) (name : String) : Option String :=
  (env.get? name).filter fun value => !value.isEmpty

/-- Sets a variable that is not set. -/
def add (env : Environment) (name value : String) : Environment :=
  ⟨env.bindings ++ [(name, value)]⟩

theorem get?_add (env : Environment) (name value name' : String) :
    (env.add name value).get? name' =
      (env.get? name').or (if name' = name then some value else none) := by
  simp only [get?, add, List.lookup_append]
  by_cases h : name' = name
  · simp [h]
  · have hb : (name' == name) = false := by simpa using h
    simp [h, hb, List.lookup_cons]

end Environment

end PostSlots
