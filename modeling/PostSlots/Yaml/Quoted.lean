import PostSlots.Text.Hex
import PostSlots.Yaml.Gap

/-!
# Quoted scalars

Between single quotes, two quotes stand for one; between double quotes, a backslash starts an
escape sequence or hides a break.
-/

namespace PostSlots.Yaml.Quoted

/-- Escapes of a single character. -/
def shortEscape? (c : Char) : Option Char :=
  [('0', '\x00'), ('a', '\x07'), ('b', '\x08'), ('t', '\t'), ('\t', '\t'), ('n', '\n'),
    ('v', '\x0b'), ('f', '\x0c'), ('r', '\r'), ('e', '\x1b'), (' ', ' '), ('"', '"'), ('/', '/'),
    ('\\', '\\'), ('N', '\u0085'), ('_', '\u00a0'), ('L', '\u2028'), ('P', '\u2029')].lookup c

/-- How many digits follow an escape that gives a code point. -/
def codeLength? (c : Char) : Option Nat :=
  [('x', 2), ('u', 4), ('U', 8)].lookup c

/-- The character of a code point in hexadecimal digits. -/
def readCode (length : Nat) (cs : List Char) : Except Fault (Char × List Char) :=
  let digits := cs.take length
  match Text.hexValue? digits with
  | some n =>
    if digits.length = length then
      if h : n.isValidChar then .ok (Char.ofNatAux n h, cs.drop length) else .error .escape
    else .error .escape
  | none => .error .escape

/-- Reads what follows a backslash. -/
def readEscape : List Char → Except Fault (Char × List Char)
  | [] => .error .escape
  | c :: cs =>
    match shortEscape? c, codeLength? c with
    | some d, _ => .ok (d, cs)
    | none, some length => readCode length cs
    | none, none => .error .escape

/-- What a scalar holds next. -/
inductive Piece where
  | close
  | chars (text : List Char)
  | gap (start : Gap)

/-- Reads the next piece between single quotes. -/
def readSingle : List Char → Except Fault (Piece × List Char)
  | [] => .error .scalar
  | '\'' :: '\'' :: cs => .ok (.chars ['\''], cs)
  | '\'' :: cs => .ok (.close, cs)
  | c :: cs =>
    if atGap (c :: cs) then .ok (.gap .empty, c :: cs) else .ok (.chars [c], cs)

/-- Reads the next piece between double quotes. -/
def readDouble : List Char → Except Fault (Piece × List Char)
  | [] => .error .scalar
  | '"' :: cs => .ok (.close, cs)
  | '\\' :: cs =>
    match takeBreak? cs with
    | some (_, cs) => .ok (.gap .escaped, cs)
    | none => do
      let (c, cs) ← readEscape cs
      pure (.chars [c], cs)
  | c :: cs =>
    if atGap (c :: cs) then .ok (.gap .empty, c :: cs) else .ok (.chars [c], cs)

/-- Reads pieces up to the closing quote. A marker of a document ends no scalar. -/
def readPieces (next : List Char → Except Fault (Piece × List Char)) :
    (fuel : Nat) → (lineStart : Bool) → List Char → Except Fault (List Char × List Char)
  | 0, _, _ => .error .scalar
  | fuel + 1, lineStart, cs =>
    if lineStart && isDocumentMark cs then .error .scalar
    else do
      match ← next cs with
      | (.close, cs) => pure ([], cs)
      | (.chars text, cs) =>
        let (texts, cs) ← readPieces next fuel false cs
        pure (text ++ texts, cs)
      | (.gap start, cs) =>
        let (gap, cs) ← start.extend 0 cs
        let (texts, cs) ← readPieces next fuel gap.endsLine cs
        pure (gap.text ++ texts, cs)

/-- Reads a scalar behind its opening quote. -/
def read (double : Bool) (cs : List Char) : Except Fault (List Char × List Char) :=
  readPieces (if double then readDouble else readSingle) (cs.length + 1) false cs

end PostSlots.Yaml.Quoted
