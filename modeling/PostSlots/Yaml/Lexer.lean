import PostSlots.Yaml.BlockText
import PostSlots.Yaml.Plain
import PostSlots.Yaml.Quoted
import PostSlots.Yaml.Token

/-!
# Reading tokens

A scalar turns out to be a key only when its colon is read. The lexer therefore remembers, for
each level of brackets, where the last possible key started, and puts the tokens that announce a
key in front of it afterwards. A possible key has to be on one line and of limited length; one
that starts its line in a block has to be a key.
-/

namespace PostSlots.Yaml

/-- A possible key: how many tokens come before it, where it starts, and whether it must be one. -/
structure PossibleKey where
  before : Nat
  position : Position
  required : Bool

/-- The state of reading: the text to read, the tokens so far with the latest first, the columns of
the open blocks with the innermost first, whether a key may start here, and the possible keys of
this level of brackets and of the outer ones. -/
structure Lexer where
  rest : List Char
  position : Position
  tokens : List Token
  indents : List Nat
  keyAllowed : Bool
  possible : Option PossibleKey
  outer : List (Option PossibleKey)

namespace Lexer

def start (text : List Char) : Lexer := ⟨text, .start, [], [], true, none, []⟩

/-- Whether brackets are open. -/
def inFlow (s : Lexer) : Bool := !s.outer.isEmpty

/-- The least column of what belongs to the innermost block. -/
def base (s : Lexer) : Nat :=
  match s.indents with
  | [] => 0
  | column :: _ => column + 1

/-- Goes on to a later part of the text. -/
def moveTo (s : Lexer) (rest : List Char) : Lexer :=
  let consumed := s.rest.take (s.rest.length - rest.length)
  { s with rest := rest, position := s.position.after consumed }

def emit (s : Lexer) (t : Token) : Lexer := { s with tokens := t :: s.tokens }

/-- Puts a token behind the first `n` tokens. -/
def emitAt (s : Lexer) (n : Nat) (t : Token) : Lexer :=
  let later := s.tokens.take (s.tokens.length - n)
  { s with tokens := later ++ t :: s.tokens.drop (s.tokens.length - n) }

/-! ## Blocks -/

/-- Opens a block at a column unless one is open there; its token stands behind `n` others. -/
def openBlock (s : Lexer) (column n : Nat) (t : Token) : Lexer :=
  if s.inFlow || column < s.base then s
  else { s.emitAt n t with indents := column :: s.indents }

/-- Closes the blocks whose content has to start behind a column. -/
def closeBlocks (s : Lexer) (column : Nat) : Lexer :=
  if s.inFlow then s
  else
    let closed := s.indents.takeWhile (column < · + 1)
    { s with
      tokens := closed.map (fun _ => Token.blockEnd) ++ s.tokens
      indents := s.indents.drop closed.length }

/-! ## Possible keys -/

/-- A key that must be one may not be given up. -/
def giveUp : Option PossibleKey → Except Fault (Option PossibleKey)
  | some k => if k.required then .error .key else .ok none
  | none => .ok none

def dropKey (s : Lexer) : Except Fault Lexer := do
  pure { s with possible := ← giveUp s.possible }

/-- Notes that the next token may be a key. -/
def noteKey (s : Lexer) : Except Fault Lexer :=
  if s.keyAllowed then do
    let s ← s.dropKey
    let required := !s.inFlow && s.base == s.position.column + 1
    pure { s with possible := some ⟨s.tokens.length, s.position, required⟩ }
  else .ok s

/-- How long a key may be. -/
def keyLimit : Nat := 1024

/-- Gives up a key that is on an earlier line or too long. -/
def refresh (now : Position) (k : Option PossibleKey) : Except Fault (Option PossibleKey) :=
  match k with
  | some p =>
    if p.position.line < now.line || p.position.index + keyLimit < now.index then giveUp k
    else .ok k
  | none => .ok none

def refreshKeys (s : Lexer) : Except Fault Lexer := do
  let possible ← refresh s.position s.possible
  let outer ← s.outer.mapM (refresh s.position)
  pure { s with possible := possible, outer := outer }

/-! ## Gaps between tokens -/

/-- Skips blanks, comments and breaks; behind a break in a block a key may start. Tabs count as
blanks only where no key may start. -/
def skipGap (flow : Bool) : (keyAllowed lineStart inComment : Bool) → List Char → List Char × Bool
  | keyAllowed, _, _, [] => ([], keyAllowed)
  | keyAllowed, _, _, '\r' :: '\n' :: cs => skipGap flow (keyAllowed || !flow) true false cs
  | keyAllowed, lineStart, inComment, c :: cs =>
    if isBreak c then skipGap flow (keyAllowed || !flow) true false cs
    else if inComment then skipGap flow keyAllowed false true cs
    else if c == ' ' || (c == '\t' && (flow || !keyAllowed)) || (c == byteOrderMark && lineStart)
    then skipGap flow keyAllowed false false cs
    else if c == '#' then skipGap flow keyAllowed false true cs
    else (c :: cs, keyAllowed)

def skip (s : Lexer) : Lexer :=
  let (rest, keyAllowed) := skipGap s.inFlow s.keyAllowed (s.position.column == 0) false s.rest
  { s.moveTo rest with keyAllowed := keyAllowed }

/-! ## Tokens -/

/-- Reads a token of a fixed number of characters. -/
def take (s : Lexer) (n : Nat) (t : Token) : Lexer :=
  (s.moveTo (s.rest.drop n)).emit t

def readDirective (s : Lexer) : Except Fault Lexer := do
  let s ← (s.closeBlocks 0).dropKey
  let (d, rest) ← Directive.read (s.rest.drop 1)
  pure (({ s with keyAllowed := false }.moveTo rest).emit (.directive d))

def readDocumentMark (s : Lexer) (t : Token) : Except Fault Lexer := do
  let s ← (s.closeBlocks 0).dropKey
  pure ({ s with keyAllowed := false }.take 3 t)

/-- Reads an opening bracket, which may start a key. -/
def openFlow (s : Lexer) (t : Token) : Except Fault Lexer := do
  let s ← s.noteKey
  pure ({ s with keyAllowed := true, possible := none, outer := s.possible :: s.outer }.take 1 t)

def closeFlow (s : Lexer) (t : Token) : Except Fault Lexer := do
  let s ← s.dropKey
  let s := match s.outer with
    | [] => s
    | k :: outer => { s with possible := k, outer := outer }
  pure ({ s with keyAllowed := false }.take 1 t)

def readFlowEntry (s : Lexer) : Except Fault Lexer := do
  let s ← s.dropKey
  pure ({ s with keyAllowed := true }.take 1 .flowEntry)

/-- Opens a block for an indicator that stands in front of its content. -/
def startBlock (s : Lexer) (t : Token) : Except Fault Lexer :=
  if s.inFlow then .ok s
  else if s.keyAllowed then .ok (s.openBlock s.position.column s.tokens.length t)
  else .error .key

def readBlockEntry (s : Lexer) : Except Fault Lexer := do
  let s ← (← s.startBlock .blockSequenceStart).dropKey
  pure ({ s with keyAllowed := true }.take 1 .blockEntry)

def readKeyMark (s : Lexer) : Except Fault Lexer := do
  let s ← (← s.startBlock .blockMappingStart).dropKey
  pure ({ s with keyAllowed := !s.inFlow }.take 1 .key)

/-- Reads the colon behind a key. The tokens of a possible key are put in front of it now. -/
def readValueMark (s : Lexer) : Except Fault Lexer := do
  match s.possible with
  | some k =>
    let s := s.emitAt k.before .key
    let s := s.openBlock k.position.column k.before .blockMappingStart
    pure ({ s with keyAllowed := false, possible := none }.take 1 .value)
  | none =>
    let s ← s.startBlock .blockMappingStart
    pure ({ s with keyAllowed := !s.inFlow }.take 1 .value)

/-- The signs that may follow the name of an anchor or alias. -/
def endsName (cs : List Char) : Bool :=
  atGap cs || (cs.head?.map fun c => "?:,]\x7d%@\x60".toList.contains c).getD false

def readName (s : Lexer) (t : String → Token) : Except Fault Lexer := do
  let s ← s.noteKey
  let name := (s.rest.drop 1).takeWhile isWord
  let rest := (s.rest.drop 1).dropWhile isWord
  if name.isEmpty || !endsName rest then throw .token
  else pure (({ s with keyAllowed := false }.moveTo rest).emit (t (String.ofList name)))

def readTag (s : Lexer) : Except Fault Lexer := do
  let s ← s.noteKey
  let (t, rest) ← RawTag.read s.inFlow (s.rest.drop 1)
  pure (({ s with keyAllowed := false }.moveTo rest).emit (.tag t))

def readBlockText (s : Lexer) (literal : Bool) : Except Fault Lexer := do
  let s ← s.dropKey
  let (text, rest) ← BlockText.read literal s.base (s.rest.drop 1)
  pure (({ s with keyAllowed := true }.moveTo rest).emit (.scalar false (String.ofList text)))

def readQuoted (s : Lexer) (double : Bool) : Except Fault Lexer := do
  let s ← s.noteKey
  let (text, rest) ← Quoted.read double (s.rest.drop 1)
  pure (({ s with keyAllowed := false }.moveTo rest).emit (.scalar false (String.ofList text)))

def readPlain (s : Lexer) : Except Fault Lexer := do
  let s ← s.noteKey
  let r ← Plain.read s.inFlow s.base s.rest
  pure (({ s with keyAllowed := r.broken }.moveTo r.rest).emit
    (.scalar true (String.ofList r.text)))

/-- The signs that start no plain scalar. -/
def isIndicator (c : Char) : Bool :=
  "-?:,[]\x7b\x7d#&*!|>'\"%@\x60".toList.contains c

/-- Whether a plain scalar starts here. A dash starts one unless a gap follows, in a block also a
question mark and a colon. -/
def startsPlain (flow : Bool) (c : Char) (cs : List Char) : Bool :=
  !(atGap (c :: cs) || isIndicator c) || (c == '-' && !(cs.head?.map isBlank).getD false) ||
    (!flow && (c == '?' || c == ':') && !atGap cs)

/-- Reads the token that starts here. -/
def readToken (s : Lexer) (c : Char) (cs : List Char) : Except Fault Lexer :=
  let lineStart := s.position.column == 0
  let stands := s.inFlow || atGap cs
  if lineStart && c == '%' then s.readDirective
  else if lineStart && isDocumentMark (c :: cs) then
    s.readDocumentMark (if c == '-' then .documentStart else .documentEnd)
  else match c with
    | '[' => s.openFlow .flowSequenceStart
    | '\x7b' => s.openFlow .flowMappingStart
    | ']' => s.closeFlow .flowSequenceEnd
    | '\x7d' => s.closeFlow .flowMappingEnd
    | ',' => s.readFlowEntry
    | '*' => s.readName .aliasTo
    | '&' => s.readName .anchor
    | '!' => s.readTag
    | '\'' => s.readQuoted false
    | '"' => s.readQuoted true
    | c =>
      if c == '-' && atGap cs then s.readBlockEntry
      else if c == '?' && stands then s.readKeyMark
      else if c == ':' && stands then s.readValueMark
      else if c == '|' && !s.inFlow then s.readBlockText true
      else if c == '>' && !s.inFlow then s.readBlockText false
      else if startsPlain s.inFlow c cs then s.readPlain
      else .error .token

/-- Reads up to the end. -/
def readAll : (fuel : Nat) → Lexer → Except Fault Lexer
  | 0, s => .ok s
  | fuel + 1, s => do
    let s ← s.skip.refreshKeys
    let s := s.closeBlocks (s.position.column + 1)
    match s.rest with
    | [] => (s.closeBlocks 0).dropKey
    | c :: cs => readAll fuel (← s.readToken c cs)

end Lexer

/-- The tokens of a text. -/
def tokens (text : List Char) : Except Fault (List Token) := do
  if !text.all isAllowed then throw .character
  let s ← Lexer.readAll (text.length + 1) (.start text)
  pure s.tokens.reverse

end PostSlots.Yaml
