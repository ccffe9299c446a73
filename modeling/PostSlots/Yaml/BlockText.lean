import PostSlots.Yaml.Basic

/-!
# Block scalars

A scalar of indented lines behind `|`, which keeps its breaks, or `>`, which folds them. A sign
tells what becomes of the breaks at its end, and a digit how far the lines are indented.
-/

namespace PostSlots.Yaml.BlockText

/-- What becomes of the breaks at the end: one stays, none, or all. -/
inductive Chomp where
  | clip
  | strip
  | keep
deriving DecidableEq

def chompSign? (c : Char) : Option Chomp :=
  if c == '+' then some .keep else if c == '-' then some .strip else none

/-- Reads the digit of the indentation, which is not zero. -/
def readDigit : List Char → Except Fault (Option Nat × List Char)
  | [] => .ok (none, [])
  | c :: cs =>
    if c == '0' then .error .indentation
    else if c.isDigit then .ok (some (c.toNat - '0'.toNat), cs)
    else .ok (none, c :: cs)

/-- Reads the sign and the digit, which come in any order. -/
def readHeader (cs : List Char) : Except Fault (Chomp × Option Nat × List Char) :=
  match cs.head?.bind chompSign? with
  | some chomp => do
    let (digit, cs) ← readDigit (cs.drop 1)
    pure (chomp, digit, cs)
  | none => do
    let (digit, cs) ← readDigit cs
    match digit, cs.head?.bind chompSign? with
    | some _, some chomp => pure (chomp, digit, cs.drop 1)
    | _, _ => pure (.clip, digit, cs)

/-- Empty lines and the indentation of the line that follows: the breaks, the widest indentation,
the present one, and what follows. -/
structure Margin where
  breaks : List Char
  widest : Nat
  column : Nat
  rest : List Char

/-- Reads empty lines and indentation, at most as far as a limit. -/
def readMargin (limit : Option Nat) (breaks : List Char) (widest column : Nat) :
    List Char → Except Fault Margin
  | [] => .ok ⟨breaks, max widest column, column, []⟩
  | '\r' :: '\n' :: cs => readMargin limit (breaks ++ ['\n']) (max widest column) 0 cs
  | c :: cs =>
    let within := limit.all (column < ·)
    if within && c == ' ' then readMargin limit breaks widest (column + 1) cs
    else if within && c == '\t' then .error .indentation
    else if isBreak c then
      readMargin limit (breaks ++ [normalBreak c]) (max widest column) 0 cs
    else .ok ⟨breaks, max widest column, column, c :: cs⟩

/-- What stands between the lines of a text: a break and empty lines behind it. -/
structure Seam where
  first : Option Char
  breaks : List Char

/-- The seam before a line. Folding makes a blank of a single break between two lines that do not
start with a blank. -/
def Seam.text (s : Seam) (fold : Bool) : List Char :=
  if fold && s.first == some '\n' then if s.breaks.isEmpty then [' '] else s.breaks
  else s.first.toList ++ s.breaks

/-- Reads the lines of a text: its characters, the seam behind them, and what follows. -/
def readLines (literal : Bool) (indent : Nat) : (fuel : Nat) → Seam → (afterBlank : Bool) →
    (column : Nat) → List Char → Except Fault (List Char × Seam × List Char)
  | 0, seam, _, _, cs => .ok ([], seam, cs)
  | fuel + 1, seam, afterBlank, column, cs =>
    if column ≠ indent || cs.isEmpty then .ok ([], seam, cs)
    else do
      let startsBlank := (cs.head?.map isBlank).getD false
      let line := cs.takeWhile fun c => !isBreak c
      let (first, rest) := match takeBreak? (dropLine cs) with
        | some (c, rest) => (some c, rest)
        | none => (none, [])
      let margin ← readMargin (some indent) [] 0 0 rest
      let next : Seam := ⟨first, margin.breaks⟩
      let (text, seam', rest) ←
        readLines literal indent fuel next startsBlank margin.column margin.rest
      let fold := !literal && !afterBlank && !startsBlank
      pure (seam.text fold ++ line ++ text, seam', rest)

/-- What the end of a text keeps of its last seam. -/
def Chomp.text (chomp : Chomp) (s : Seam) : List Char :=
  match chomp with
  | strip => []
  | clip => s.first.toList
  | keep => s.first.toList ++ s.breaks

/-- Reads a block scalar behind its indicator. Its lines are indented at least as far as `base`,
which is one more than the indentation of what surrounds it, and zero if there is none. -/
def read (literal : Bool) (base : Nat) (cs : List Char) :
    Except Fault (List Char × List Char) := do
  let (chomp, digit, cs) ← readHeader cs
  match dropComment? cs with
  | none => throw .scalar
  | some cs =>
    let cs := match takeBreak? cs with
      | some (_, cs) => cs
      | none => cs
    let fixed := digit.map fun n => base - 1 + n
    let margin ← readMargin fixed [] 0 0 cs
    let indent := fixed.getD (max (max margin.widest base) 1)
    let (text, seam, rest) ← readLines literal indent (cs.length + 1) ⟨none, margin.breaks⟩ false
      margin.column margin.rest
    pure (text ++ chomp.text seam, rest)

end PostSlots.Yaml.BlockText
