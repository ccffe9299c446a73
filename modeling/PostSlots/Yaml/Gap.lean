import PostSlots.Yaml.Basic

/-!
# Gaps in scalars

Blanks and breaks inside a quoted or plain scalar. Blanks within a line stay; a single break
becomes a blank, and of several breaks all but the first stay.
-/

namespace PostSlots.Yaml

/-- Blanks and breaks in a row: the blanks before the first break, that break, the further ones,
and the number of blanks behind the last break. -/
structure Gap where
  blanks : List Char
  broken : Bool
  first : Option Char
  more : List Char
  column : Nat

namespace Gap

def empty : Gap := ⟨[], false, none, [], 0⟩

/-- The gap behind an escaped break. -/
def escaped : Gap := ⟨[], true, none, [], 0⟩

def addBreak (g : Gap) (c : Char) : Gap :=
  if g.broken then { g with more := g.more ++ [c], column := 0 }
  else { g with broken := true, first := some c, column := 0 }

/-- What a gap is in the text of its scalar. -/
def text (g : Gap) : List Char :=
  if g.broken then
    match g.first with
    | none => g.more
    | some c => if c == '\n' then (if g.more.isEmpty then [' '] else g.more) else c :: g.more
  else g.blanks

/-- Whether what follows a gap starts its line. -/
def endsLine (g : Gap) : Bool := g.broken && g.column == 0

/-- Extends a gap by what follows. Tabs are refused where a line has to be indented further. -/
def extend (indent : Nat) : Gap → List Char → Except Fault (Gap × List Char)
  | g, [] => .ok (g, [])
  | g, '\r' :: '\n' :: cs => extend indent (g.addBreak '\n') cs
  | g, c :: cs =>
    if isBreak c then extend indent (g.addBreak (normalBreak c)) cs
    else if !isBlank c then .ok (g, c :: cs)
    else if !g.broken then extend indent { g with blanks := g.blanks ++ [c] } cs
    else if c == '\t' && g.column < indent then .error .indentation
    else extend indent { g with column := g.column + 1 } cs

end Gap

end PostSlots.Yaml
