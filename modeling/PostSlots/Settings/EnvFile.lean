import PostSlots.Settings.Environment
import PostSlots.Text.Alphanumeric
import PostSlots.Text.Blank
import PostSlots.Text.Cut

/-!
# Environment files

A file of lines `NAME=value` adds variables to an environment. A value may be quoted, in which case
it may go over lines, and may refer to variables. The first line that is malformed ends the file;
the lines before it count.
-/

namespace PostSlots.EnvFile

/-! ## Lines -/

/-- What is open at some place of a line. -/
inductive LineState where
  | closed
  | blank
  | escape
  | single (escape : Bool)
  | double (escape : Bool)
deriving DecidableEq

/-- What is open behind a character. -/
def LineState.next (state : LineState) (c : Char) : LineState :=
  let opened : LineState :=
    if c = '\\' then escape else if c = '"' then double false
    else if c = '\'' then single false else closed
  match state with
  | closed => if Text.isBlank c ∧ c ≠ '\n' ∧ c ≠ '\r' then blank else opened
  | blank => opened
  | escape => closed
  | single true => single false
  | single false => if c = '\\' then single true else if c = '\'' then closed else single false
  | double true => double false
  | double false => if c = '\\' then double true else if c = '"' then closed else double false

/-- What is open at the end of a line, or the line in front of the comment that ends it. -/
def scan (state : LineState) : List Char → LineState ⊕ List Char
  | [] => .inl state
  | c :: cs =>
    if state = .blank ∧ c = '#' then .inr []
    else match scan (state.next c) cs with
      | .inl last => .inl last
      | .inr kept => .inr (c :: kept)

/-- The lines of a text with the breaks that end them. -/
def splitLines (text : List Char) : List (List Char) :=
  let pieces := Text.cut (· == '\n') text
  let last := pieces.getLast?.getD []
  pieces.dropLast.map (· ++ ['\n']) ++ if last.isEmpty then [] else [last]

/-- Joins lines at whose ends something is open to one. A last line that stays open is dropped, and
of lines that are comments nothing is left. -/
def joinLines (state : LineState) (before : List Char) : List (List Char) → List (List Char)
  | [] => []
  | line :: rest =>
    let text := before ++ line
    if (text.dropWhile Text.isBlank).head? = some '#' then [] :: joinLines .closed [] rest
    else match scan state line with
      | .inr kept => (before ++ kept) :: joinLines .closed [] rest
      | .inl .closed => text :: joinLines .closed [] rest
      | .inl state => joinLines state text rest

/-! ## Values -/

/-- What the next character of a value belongs to. -/
inductive Part where
  | text
  | single
  | escape
  | name (soFar : List Char)
  | braced (soFar : List Char)
  | ending

/-- A character that a backslash stands in front of. -/
def unescape? (c : Char) : Option Char :=
  if c = 'n' then some '\n' else if ['\\', '\'', '"', '$', ' '].contains c then some c else none

/-- Reads a value, in which names are replaced by `get`. Behind a blank only a comment may
follow. -/
def readValue? (get : List Char → List Char) : (quoted : Bool) → Part → List Char →
    Option (List Char)
  | quoted, part, [] =>
    match part with
    | .single | .braced _ => none
    | .name soFar => if quoted then none else some (get soFar)
    | .text | .escape | .ending => if quoted then none else some []
  | quoted, part, c :: cs =>
    let put (d : Char) (part : Part) : Option (List Char) :=
      (readValue? get quoted part cs).map (d :: ·)
    match part with
    | .ending =>
      if c = ' ' ∨ c = '\t' then readValue? get quoted .ending cs
      else if c = '#' then some [] else none
    | .escape => (unescape? c).bind (put · .text)
    | .single => if c = '\'' then readValue? get quoted .text cs else put c .single
    | .name soFar =>
      if Text.isAlphanumeric c then readValue? get quoted (.name (soFar ++ [c])) cs
      else if c = '\x7b' ∧ soFar = [] then readValue? get quoted (.braced []) cs
      else if c = '$' then (readValue? get quoted (.name []) cs).map (get soFar ++ ·)
      else (put c .text).map (get soFar ++ ·)
    | .braced soFar =>
      if c = '\x7d' then (readValue? get quoted .text cs).map (get soFar ++ ·)
      else readValue? get quoted (.braced (soFar ++ [c])) cs
    | .text =>
      if c = '$' then readValue? get quoted (.name []) cs
      else if c = '\\' then readValue? get quoted .escape cs
      else if c = '"' then readValue? get (!quoted) .text cs
      else if quoted then put c .text
      else if c = '\'' then readValue? get quoted .single cs
      else if c = ' ' ∨ c = '\t' then readValue? get quoted .ending cs
      else put c .text

/-! ## Pairs -/

/-- Takes a name off the front of a line. -/
def takeName? (cs : List Char) : Option (List Char × List Char) :=
  match cs with
  | c :: _ =>
    if c.isAlpha ∨ c = '_' then
      let isNameChar (c : Char) : Bool := c.isAlphanum || c == '_' || c == '.'
      some (cs.takeWhile isNameChar, cs.dropWhile isNameChar)
    else none
  | [] => none

/-- Takes a name and an equals sign off the front of a line. The word `export` may stand in front
of the name. -/
def takeTarget? (cs : List Char) : Option (List Char × List Char) := do
  let (name, cs) ← takeName? cs
  match cs.dropWhile Text.isBlank with
  | '=' :: cs => some (name, cs)
  | cs =>
    if name = "export".toList then
      let (name, cs) ← takeName? cs
      match cs.dropWhile Text.isBlank with
      | '=' :: cs => some (name, cs)
      | _ => none
    else none

/-- What a line says. -/
inductive Line where
  | nothing
  | pair (name value : String)
  | malformed
deriving DecidableEq

def isComment (cs : List Char) : Bool := cs.isEmpty || cs.head? == some '#'

/-- Reads a line in an environment that its value may refer to. -/
def readLine (env : Environment) (line : List Char) : Line :=
  let get (name : List Char) : List Char := ((env.get? (String.ofList name)).getD "").toList
  let cs := Text.trim line
  if isComment cs then .nothing
  else match takeTarget? cs with
    | none => .malformed
    | some (name, cs) =>
      let cs := cs.dropWhile Text.isBlank
      if isComment cs then .pair (String.ofList name) ""
      else match readValue? get false .text cs with
        | some value => .pair (String.ofList name) (String.ofList value)
        | none => .malformed

/-- Adds the pairs of lines to an environment, up to the first malformed line. -/
def addLines (env : Environment) : List (List Char) → Environment
  | [] => env
  | line :: rest =>
    match readLine env line with
    | .nothing => addLines env rest
    | .pair name value => addLines (env.add name value) rest
    | .malformed => env

/-- Adds the pairs of a text, which may start with a byte order mark. -/
def addText (env : Environment) (text : String) : Environment :=
  let cs := match text.toList with
    | '\ufeff' :: cs => cs
    | cs => cs
  addLines env (joinLines .closed [] (splitLines cs))

/-- The names of variables that a text can refer to. -/
def namesIn (text : String) : List String :=
  let isNameChar (c : Char) : Bool := c.isAlphanum || c == '_'
  let isLetter (c : Char) : Bool := c.isAlphanum
  let runs (p : Char → Bool) : List String :=
    (Text.tokens (fun c => !p c) text.toList).map String.ofList
  runs isNameChar ++ runs isLetter

/-- The lines in front of the first one that is not text. -/
def textOf (bytes : ByteArray) : String :=
  let lines := (Text.cut (· == 10) bytes.toList).map fun line => String.fromUTF8? ⟨line.toArray⟩
  match String.fromUTF8? bytes with
  | some text => text
  | none => String.join ((lines.takeWhile Option.isSome).map fun line => line.getD "" ++ "\n")

example : (addText ⟨[]⟩ "A=1\n# c\nB='x y' # d\nC=a b\nD=1\n").bindings =
    [("A", "1"), ("B", "x y")] := by decide +kernel

end PostSlots.EnvFile
