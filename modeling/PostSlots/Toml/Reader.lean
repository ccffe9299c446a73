import PostSlots.Toml.Scalar
import PostSlots.Toml.Text

/-!
# Reading TOML

A text is a sequence of lines that hold a pair, the header of a table, or nothing.
-/

namespace PostSlots.Toml

/-- How deep arrays and inline tables may be nested, and how many parts a key may have. -/
def depthLimit : Nat := 80

/-- The result of a step that can only fail by the form of the text. -/
def formed {α : Type} : Option α → Except Fault α
  | some a => .ok a
  | none => .error .malformed

/-- Reads a key of a limited number of parts: the parts before the last one, and the last one. -/
def readPath (cs : List Char) : Except Fault ((List String × String) × List Char) := do
  let (parts, rest) ← formed (Chars.readKey? (cs.length + 1) cs)
  if depthLimit ≤ parts.length then throw .depth
  pure ((parts.dropLast, parts.getLast?.getD ""), rest)

/-- Drops a character that has to stand here. -/
def expect (c : Char) (cs : List Char) : Except Fault (List Char) :=
  formed (Scalar.dropChar? c cs)

/-- Drops a gap that may go over lines. -/
def dropGap (cs : List Char) : Except Fault (List Char) :=
  formed (Chars.dropGap? (cs.length + 1) cs)

mutual
/-- Reads a value inside of `depth` arrays and inline tables. -/
def readValue (depth : Nat) : (fuel : Nat) → List Char → Except Fault (Item × List Char)
  | 0, _ => .error .malformed
  | fuel + 1, cs =>
    match cs with
    | '"' :: _ | '\'' :: _ => do
      let (text, rest) ← formed (Chars.readString? cs)
      pure (.string text, rest)
    | '[' :: cs =>
      if depthLimit ≤ depth + 1 then .error .depth else readItems (depth + 1) fuel cs
    | '\x7b' :: cs =>
      if depthLimit ≤ depth + 1 then .error .depth
      else match Chars.skipBlanks cs with
        | '\x7d' :: rest => .ok (.other, rest)
        | cs => readPairs (depth + 1) fuel [] cs
    | 't' :: _ => (formed (Scalar.dropWord? "true" cs)).map (.other, ·)
    | 'f' :: _ => (formed (Scalar.dropWord? "false" cs)).map (.other, ·)
    | cs => formed (Scalar.read? cs)

/-- Reads the values of an array behind its bracket or a comma. -/
def readItems (depth : Nat) : (fuel : Nat) → List Char → Except Fault (Item × List Char)
  | 0, _ => .error .malformed
  | fuel + 1, cs => do
    match ← dropGap cs with
    | ']' :: rest => pure (.other, rest)
    | cs =>
      let (_, cs) ← readValue depth fuel cs
      match ← dropGap cs with
      | ',' :: cs => readItems depth fuel cs
      | cs => do pure (.other, ← expect ']' cs)

/-- Reads the pairs of an inline table. -/
def readPairs (depth : Nat) : (fuel : Nat) → Fields → List Char → Except Fault (Item × List Char)
  | 0, _, _ => .error .malformed
  | fuel + 1, fields, cs => do
    let ((path, key), cs) ← readPath cs
    let (value, cs) ← readValue depth fuel (Chars.skipBlanks (← expect '=' cs))
    let fields ← Fields.addDotted path key value .defined fields
    match Chars.skipBlanks cs with
    | ',' :: cs => readPairs depth fuel fields cs
    | cs => do pure (.other, ← expect '\x7d' cs)
end

/-- The table that pairs are added to: the path of its header, and all tables. -/
structure Draft where
  path : List String
  root : Fields

/-- Reads the header of a table behind its first bracket. -/
def readHeader (d : Draft) (cs : List Char) : Except Fault (Draft × List Char) :=
  match cs with
  | '[' :: cs => do
    let ((path, key), cs) ← readPath cs
    let rest ← formed (Chars.dropLine? (← expect ']' (← expect ']' cs)))
    let root ← Fields.editAt .implied (fun _ => Fields.extend key) path .defined d.root
    pure (⟨path ++ [key], root⟩, rest)
  | cs => do
    let ((path, key), cs) ← readPath cs
    let rest ← formed (Chars.dropLine? (← expect ']' cs))
    let root ← Fields.editAt .implied (fun _ => Fields.define key) path .defined d.root
    pure (⟨path ++ [key], root⟩, rest)

/-- Reads a pair and the rest of its line. -/
def readPair (d : Draft) (cs : List Char) : Except Fault (Draft × List Char) := do
  let ((path, key), cs) ← readPath cs
  let (value, cs) ← readValue 0 (2 * cs.length + 2) (Chars.skipBlanks (← expect '=' cs))
  let rest ← formed (Chars.dropLine? cs)
  let root ← Fields.editAt .implied (Fields.addDotted path key value) d.path .defined d.root
  pure ({ d with root := root }, rest)

/-- Reads line after line. -/
def readLines : (fuel : Nat) → Draft → List Char → Except Fault Fields
  | 0, _, _ => .error .malformed
  | fuel + 1, d, cs =>
    match Chars.skipBlanks cs with
    | [] => .ok d.root
    | '[' :: cs => do
      let (d, rest) ← readHeader d cs
      readLines fuel d rest
    | c :: cs =>
      if c = '#' ∨ c = '\n' ∨ c = '\r' then do
        readLines fuel d (← formed (Chars.dropLine? (c :: cs)))
      else do
        let (d, rest) ← readPair d (c :: cs)
        readLines fuel d rest

/-- The tables of a text, which may start with a byte order mark. -/
def parse (text : String) : Except Fault Fields :=
  let cs := match text.toList with
    | '\ufeff' :: cs => cs
    | cs => cs
  readLines (cs.length + 1) ⟨[], []⟩ cs

end PostSlots.Toml
