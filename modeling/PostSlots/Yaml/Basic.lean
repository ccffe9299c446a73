/-!
# Characters and faults of YAML

The classes of characters that the syntax distinguishes, and what can be wrong with a document.
-/

namespace PostSlots.Yaml

/-- What is wrong with a document. -/
inductive Fault where
  | character
  | token
  | scalar
  | escape
  | indentation
  | key
  | tag
  | directive
  | structural
  | unknownAlias
  | documents
  | depth
  | shape
deriving DecidableEq

/-- The wording of a fault. -/
def Fault.text : Fault → String
  | character => "a character that no document holds"
  | token => "a character that starts no token"
  | scalar => "a scalar without an end"
  | escape => "an unknown escape sequence"
  | indentation => "a wrong indentation"
  | key => "a key out of place"
  | tag => "a malformed tag"
  | directive => "a malformed directive"
  | structural => "a token out of place"
  | unknownAlias => "an alias without an anchor"
  | documents => "more than one document"
  | depth => "too much nesting or repetition"
  | shape => "not the data that is asked for"

def isBlank (c : Char) : Bool := c == ' ' || c == '\t'

def isBreak (c : Char) : Bool :=
  c == '\n' || c == '\r' || c == '\u0085' || c == '\u2028' || c == '\u2029'

/-- The line feed that a break stands for. Line and paragraph separators stay. -/
def normalBreak (c : Char) : Char :=
  if c == '\u2028' || c == '\u2029' then c else '\n'

/-- Blanks, breaks, and the end of the text. -/
def atGap : List Char → Bool
  | [] => true
  | c :: _ => isBlank c || isBreak c

/-- The characters of names of anchors, tags and directives. -/
def isWord (c : Char) : Bool := c.isAlphanum || c == '_' || c == '-'

/-- The byte order mark, which may stand at the start of a line. -/
def byteOrderMark : Char := '\ufeff'

/-- The characters that a document may hold. -/
def isAllowed (c : Char) : Bool :=
  let n := c.toNat
  c == '\t' || c == '\n' || c == '\r' || (0x20 ≤ n && n ≤ 0x7E) || n == 0x85 ||
    (0xA0 ≤ n && n ≤ 0xFFFD) || 0x10000 ≤ n

/-- Reads a break, a carriage return with its line feed as one. -/
def takeBreak? : List Char → Option (Char × List Char)
  | '\r' :: '\n' :: cs => some ('\n', cs)
  | c :: cs => if isBreak c then some (normalBreak c, cs) else none
  | [] => none

/-- Whether a line starts with the marker of a document's start or end. -/
def isDocumentMark : List Char → Bool
  | '-' :: '-' :: '-' :: cs | '.' :: '.' :: '.' :: cs => atGap cs
  | _ => false

/-- A line without what stands before its break. -/
def dropLine (cs : List Char) : List Char :=
  cs.dropWhile fun c => !isBreak c

/-- What follows blanks and a comment, which must be a break or the end. -/
def dropComment? (cs : List Char) : Option (List Char) :=
  match cs.dropWhile isBlank with
  | '#' :: cs => some (dropLine cs)
  | cs => if (takeBreak? cs).isSome || cs.isEmpty then some cs else none

/-- A place in a document. -/
structure Position where
  line : Nat
  column : Nat
  index : Nat
deriving DecidableEq

namespace Position

def start : Position := ⟨0, 0, 0⟩

/-- The place after some characters. -/
def after (p : Position) : List Char → Position
  | [] => p
  | '\r' :: '\n' :: cs => after ⟨p.line + 1, 0, p.index + 2⟩ cs
  | c :: cs =>
    if isBreak c then after ⟨p.line + 1, 0, p.index + 1⟩ cs
    else after ⟨p.line, p.column + 1, p.index + 1⟩ cs

end Position

end PostSlots.Yaml
