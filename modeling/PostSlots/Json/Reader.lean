import PostSlots.Decimal.Numeral
import PostSlots.Decimal.Stepwise
import PostSlots.Json.Basic
import PostSlots.Text.Hex

/-!
# Reading JSON text

`Json.parse` reads one value and says at which line and column a text stops being one. Columns
count bytes since the last line break. A complaint about the character that comes next points
behind its first byte. Numbers that are not whole 64-bit words are doubles, which are computed from
the digits that fit into a word, in steps that round.
-/

namespace PostSlots

open Decimal

/-- Why a text is not a JSON value. -/
inductive Json.Fault where
  | endInList
  | endInObject
  | endInString
  | endInValue
  | expectedColon
  | expectedCommaOrBracket
  | expectedCommaOrBrace
  | expectedIdent
  | expectedValue
  | invalidEscape
  | invalidNumber
  | numberOutOfRange
  | controlCharacter
  | keyNotString
  | loneSurrogate
  | trailingComma
  | trailingCharacters
  | unexpectedEndOfEscape
  | tooDeep
deriving DecidableEq

/-- The wording of a fault. -/
def Json.Fault.text : Json.Fault → String
  | endInList => "EOF while parsing a list"
  | endInObject => "EOF while parsing an object"
  | endInString => "EOF while parsing a string"
  | endInValue => "EOF while parsing a value"
  | expectedColon => "expected `:`"
  | expectedCommaOrBracket => "expected `,` or `]`"
  | expectedCommaOrBrace => "expected `,` or `\x7d`"
  | expectedIdent => "expected ident"
  | expectedValue => "expected value"
  | invalidEscape => "invalid escape"
  | invalidNumber => "invalid number"
  | numberOutOfRange => "number out of range"
  | controlCharacter => "control character (\\u0000-\\u001F) found while parsing a string"
  | keyNotString => "key must be a string"
  | loneSurrogate => "lone leading surrogate in hex escape"
  | trailingComma => "trailing comma"
  | trailingCharacters => "trailing characters"
  | unexpectedEndOfEscape => "unexpected end of hex escape"
  | tooDeep => "recursion limit exceeded"

/-- A fault and the place where it shows. -/
structure Json.ReadError where
  fault : Json.Fault
  line : Nat
  column : Nat
deriving DecidableEq

def Json.ReadError.message (e : Json.ReadError) : String :=
  s!"{e.fault.text} at line {e.line} column {e.column}"

namespace Json.Reader

/-- What is left to read, and where it starts. -/
structure Cursor where
  rest : List Char
  line : Nat
  column : Nat

/-- A reading step: its result and the cursor behind it. -/
abbrev Result (α : Type) := Except ReadError (α × Cursor)

/-- The cursor after `c`, with `cs` left. -/
def Cursor.past (cur : Cursor) (c : Char) (cs : List Char) : Cursor :=
  if c = '\n' then ⟨cs, cur.line + 1, 0⟩ else ⟨cs, cur.line, cur.column + c.utf8Size⟩

/-- Fails at the cursor. -/
def Cursor.fail {α : Type} (cur : Cursor) (fault : Fault) : Except ReadError α :=
  .error ⟨fault, cur.line, cur.column⟩

/-- The place `n` bytes further on, if there are so many. -/
def Cursor.afterBytes (line column : Nat) : Nat → List Char → Nat × Nat
  | 0, _ | _, [] => (line, column)
  | n, c :: cs =>
    if c = '\n' then afterBytes (line + 1) 0 (n - 1) cs
    else if c.utf8Size < n then afterBytes line (column + c.utf8Size) (n - c.utf8Size) cs
    else (line, column + n)

/-- Fails behind the next `n` bytes. -/
def Cursor.failAfter {α : Type} (cur : Cursor) (n : Nat) (fault : Fault) : Except ReadError α :=
  let (line, column) := Cursor.afterBytes cur.line cur.column n cur.rest
  .error ⟨fault, line, column⟩

/-- Fails at the character that comes next. -/
def Cursor.failNext {α : Type} (cur : Cursor) (fault : Fault) : Except ReadError α :=
  cur.failAfter 1 fault

/-- Moves over the characters that satisfy `p`. -/
def Cursor.skipWhile (p : Char → Bool) (line column : Nat) : List Char → Cursor
  | [] => ⟨[], line, column⟩
  | c :: cs =>
    if p c then
      if c = '\n' then skipWhile p (line + 1) 0 cs
      else skipWhile p line (column + c.utf8Size) cs
    else ⟨c :: cs, line, column⟩

/-- The four blanks of JSON. -/
def isSpace (c : Char) : Bool :=
  c == ' ' || c == '\n' || c == '\t' || c == '\r'

def Cursor.skipSpace (cur : Cursor) : Cursor :=
  Cursor.skipWhile isSpace cur.line cur.column cur.rest

/-- The last cursor of a text. -/
def Cursor.toEnd (cur : Cursor) : Cursor :=
  Cursor.skipWhile (fun _ => true) cur.line cur.column cur.rest

/-- Reads the letters of a literal. -/
def readLiteral (value : Json) : List Char → Cursor → Result Json
  | [], cur => .ok (value, cur)
  | want :: wants, cur =>
    match cur.rest with
    | [] => cur.fail .endInValue
    | c :: cs =>
      if c = want then readLiteral value wants (cur.past c cs) else cur.failNext .expectedIdent

/-- Reads the four hexadecimal digits of an escape. -/
def readHex4 (cur : Cursor) : Result Nat :=
  let four := cur.rest.take 4
  if (String.ofList four).utf8ByteSize < 4 then cur.toEnd.fail .endInString
  else match Text.hexValue? four with
    | some n => .ok (n, ⟨cur.rest.drop 4, cur.line, cur.column + 4⟩)
    | none => cur.failAfter 4 .invalidEscape

/-- Reads one given character of a surrogate pair's second half. -/
def readPairChar (want : Char) (cur : Cursor) : Result Unit :=
  match cur.rest with
  | [] => cur.fail .endInString
  | c :: cs => if c = want then .ok ((), cur.past c cs) else cur.failNext .unexpectedEndOfEscape

/-- Reads the digits of a hexadecimal escape, and of a second one after a leading surrogate. -/
def readUnicodeEscape (cur : Cursor) : Except ReadError (Char × Cursor) := do
  let (n, cur) ← readHex4 cur
  if 0xDC00 ≤ n ∧ n ≤ 0xDFFF then cur.fail .loneSurrogate
  else if 0xD800 ≤ n ∧ n ≤ 0xDBFF then
    let (_, cur) ← readPairChar '\\' cur
    let (_, cur) ← readPairChar 'u' cur
    let (m, cur) ← readHex4 cur
    if 0xDC00 ≤ m ∧ m ≤ 0xDFFF then
      pure (Char.ofNat (0x10000 + (n - 0xD800) * 0x400 + (m - 0xDC00)), cur)
    else cur.fail .loneSurrogate
  else pure (Char.ofNat n, cur)

/-- The character of a one-letter escape. -/
def shortEscape? : Char → Option Char
  | '"' => some '"'
  | '\\' => some '\\'
  | '/' => some '/'
  | 'b' => some '\x08'
  | 'f' => some '\x0c'
  | 'n' => some '\n'
  | 'r' => some '\r'
  | 't' => some '\t'
  | _ => none

/-- Reads what follows a backslash. -/
def readEscape (cur : Cursor) : Result Char :=
  match cur.rest with
  | [] => cur.fail .endInString
  | 'u' :: cs => readUnicodeEscape (cur.past 'u' cs)
  | c :: cs =>
    match shortEscape? c with
    | some d => .ok (d, cur.past c cs)
    | none => cur.failNext .invalidEscape

/-- Reads a string up to its closing quote. Each turn takes a character, so the length of the
text is fuel enough. -/
def readStringBody : Nat → List Char → Cursor → Result String
  | 0, _, cur => cur.fail .endInString
  | fuel + 1, acc, cur =>
    match cur.rest with
    | [] => cur.fail .endInString
    | '"' :: cs => .ok (String.ofList acc.reverse, cur.past '"' cs)
    | '\\' :: cs =>
      match readEscape (cur.past '\\' cs) with
      | .ok (c, cur) => readStringBody fuel (c :: acc) cur
      | .error e => .error e
    | c :: cs =>
      if c.toNat < 0x20 then cur.failNext .controlCharacter
      else readStringBody fuel (c :: acc) (cur.past c cs)

/-- Reads a string whose opening quote is behind the cursor. -/
def readString (cur : Cursor) : Result String :=
  readStringBody (cur.rest.length + 1) [] cur

/-- The decimal digits at the cursor and the cursor behind them. -/
def takeDigits (cur : Cursor) : List Char × Cursor :=
  let ds := cur.rest.takeWhile Char.isDigit
  (ds, ⟨cur.rest.dropWhile Char.isDigit, cur.line, cur.column + ds.length⟩)

/-- Appends digits to a number as long as it stays a 64-bit word, and leaves the other digits. -/
def takeWord (n : Nat) : List Char → Nat × List Char
  | [] => (n, [])
  | d :: ds =>
    let longer := 10 * n + (d.toNat - '0'.toNat)
    if longer < wordBound then takeWord longer ds else (n, d :: ds)

/-- Exponents are 32-bit words. -/
def exponentLimit : Nat := Nat.pow 2 31 - 1

/-- The number of digits up to the one that takes a number beyond the exponent limit. -/
def digitsToLimit (acc count : Nat) : List Char → Option Nat
  | [] => none
  | d :: ds =>
    let acc := 10 * acc + (d.toNat - '0'.toNat)
    if acc > exponentLimit then some (count + 1) else digitsToLimit acc (count + 1) ds

/-- The double of the digits read so far. -/
def finishDouble (negative : Bool) (digits : Nat) (exponent : Int) (cur : Cursor) :
    Result Number :=
  (Binary64.stepwise? negative digits exponent).elim (cur.fail .numberOutOfRange) fun x =>
    .ok (.double x, cur)

/-- Reads an exponent behind its letter. An exponent beyond its limit makes zero of a zero or of
a negative exponent, and is out of range otherwise. -/
def readExponent (negative : Bool) (digits : Nat) (base : Int) (cur : Cursor) : Result Number :=
  let (below, cur) := match cur.rest with
    | '-' :: cs => (true, cur.past '-' cs)
    | '+' :: cs => (false, cur.past '+' cs)
    | _ => (false, cur)
  let (ds, past) := takeDigits cur
  if ds.isEmpty then
    if cur.rest.isEmpty then cur.fail .endInValue else cur.failNext .invalidNumber
  else match digitsToLimit 0 0 ds with
    | none =>
      let e : Int := ofDigits ds
      finishDouble negative digits (if below then base - e else base + e) past
    | some count =>
      if digits = 0 ∨ below then .ok (.double (.zero negative), past)
      else cur.failAfter count .numberOutOfRange

/-- Reads a number behind its sign. -/
def readNumber (negative : Bool) (cur : Cursor) : Result Number :=
  let (whole, past) := takeDigits cur
  match whole with
  | [] => if cur.rest.isEmpty then cur.fail .endInValue else cur.failNext .invalidNumber
  | '0' :: _ :: _ => cur.failAfter 2 .invalidNumber
  | _ =>
    -- a digit that does not fit is as good as a zero in front of the point, and as none behind it
    let (digits, dropped) := takeWord 0 whole
    match past.rest with
    | '.' :: cs =>
      let point := past.past '.' cs
      let (fraction, behind) := takeDigits point
      if fraction.isEmpty then
        if point.rest.isEmpty then point.fail .endInValue else point.failNext .invalidNumber
      else
        let (digits, unread) := takeWord digits fraction
        let exponent : Int := dropped.length - (fraction.length - unread.length)
        match behind.rest with
        | e :: cs =>
          if e = 'e' ∨ e = 'E' then readExponent negative digits exponent (behind.past e cs)
          else finishDouble negative digits exponent behind
        | [] => finishDouble negative digits exponent behind
    | e :: cs =>
      if e = 'e' ∨ e = 'E' then readExponent negative digits dropped.length (past.past e cs)
      else finishWhole negative digits dropped.length past
    | [] => finishWhole negative digits dropped.length past
where
  /-- A whole number within 64 bits stays whole; minus zero and all others are doubles. -/
  finishWhole (negative : Bool) (n dropped : Nat) (cur : Cursor) : Result Number :=
    if dropped = 0 ∧ !negative then .ok (.int n, cur)
    else if dropped = 0 ∧ 0 < n ∧ n ≤ Nat.pow 2 63 then .ok (.int (-(n : Int)), cur)
    else finishDouble negative n dropped cur

/-- At most this many arrays and objects may be open at a time. -/
def depthLimit : Nat := 127

mutual
/-- Reads a value. `depth` arrays and objects may still be opened. Of three calls in a row one takes
a character, so three times the length of the text is fuel enough. -/
def readValue : Nat → Nat → Cursor → Result Json
  | 0, _, cur => cur.fail .endInValue
  | fuel + 1, depth, cur =>
    let cur := cur.skipSpace
    match cur.rest with
    | [] => cur.fail .endInValue
    | 'n' :: cs => readLiteral null "ull".toList (cur.past 'n' cs)
    | 't' :: cs => readLiteral (bool true) "rue".toList (cur.past 't' cs)
    | 'f' :: cs => readLiteral (bool false) "alse".toList (cur.past 'f' cs)
    | '"' :: cs => (readString (cur.past '"' cs)).map fun (s, cur) => (string s, cur)
    | '-' :: cs => (readNumber true (cur.past '-' cs)).map fun (n, cur) => (number n, cur)
    | '[' :: cs =>
      if depth = 0 then cur.failNext .tooDeep
      else readItems fuel (depth - 1) [] (cur.past '[' cs)
    | '\x7b' :: cs =>
      if depth = 0 then cur.failNext .tooDeep
      else readFields fuel (depth - 1) [] (cur.past '\x7b' cs)
    | c :: _ =>
      if c.isDigit then (readNumber false cur).map fun (n, cur) => (number n, cur)
      else cur.failNext .expectedValue

/-- Reads the items of an array after those in `acc`, the last one first. -/
def readItems : Nat → Nat → List Json → Cursor → Result Json
  | 0, _, _, cur => cur.fail .endInList
  | fuel + 1, depth, acc, cur =>
    let cur := cur.skipSpace
    match cur.rest with
    | [] => cur.fail .endInList
    | ']' :: cs => .ok (array acc.reverse, cur.past ']' cs)
    | c :: cs =>
      if acc.isEmpty then readItem fuel depth acc cur
      else if c = ',' then
        let cur := (cur.past ',' cs).skipSpace
        match cur.rest with
        | [] => cur.fail .endInValue
        | ']' :: _ => cur.failNext .trailingComma
        | _ => readItem fuel depth acc cur
      else cur.failNext .expectedCommaOrBracket

def readItem : Nat → Nat → List Json → Cursor → Result Json
  | 0, _, _, cur => cur.fail .endInList
  | fuel + 1, depth, acc, cur =>
    match readValue fuel depth cur with
    | .ok (value, cur) => readItems fuel depth (value :: acc) cur
    | .error e => .error e

/-- Reads the fields of an object after those in `acc`; a later field wins over an earlier one
with its key. -/
def readFields : Nat → Nat → List (String × Json) → Cursor → Result Json
  | 0, _, _, cur => cur.fail .endInObject
  | fuel + 1, depth, acc, cur =>
    let cur := cur.skipSpace
    match cur.rest with
    | [] => cur.fail .endInObject
    | '\x7d' :: cs => .ok (object acc, cur.past '\x7d' cs)
    | '"' :: cs =>
      if acc.isEmpty then readField fuel depth acc (cur.past '"' cs)
      else cur.failNext .expectedCommaOrBrace
    | c :: cs =>
      if acc.isEmpty then cur.failNext .keyNotString
      else if c = ',' then
        let cur := (cur.past ',' cs).skipSpace
        match cur.rest with
        | [] => cur.fail .endInValue
        | '"' :: cs => readField fuel depth acc (cur.past '"' cs)
        | '\x7d' :: _ => cur.failNext .trailingComma
        | _ => cur.failNext .keyNotString
      else cur.failNext .expectedCommaOrBrace

/-- Reads a field whose key's opening quote is behind the cursor. -/
def readField : Nat → Nat → List (String × Json) → Cursor → Result Json
  | 0, _, _, cur => cur.fail .endInObject
  | fuel + 1, depth, acc, cur =>
    match readString cur with
    | .error e => .error e
    | .ok (key, cur) =>
      let cur := cur.skipSpace
      match cur.rest with
      | [] => cur.fail .endInObject
      | ':' :: cs =>
        match readValue fuel depth (cur.past ':' cs) with
        | .ok (value, cur) => readFields fuel depth (insertField key value acc) cur
        | .error e => .error e
      | _ => cur.failNext .expectedColon
end

end Json.Reader

/-- Reads a text that holds one value and blanks around it. -/
def Json.parse (text : String) : Except Json.ReadError Json :=
  let cs := text.toList
  match Reader.readValue (3 * cs.length + 3) Reader.depthLimit ⟨cs, 1, 0⟩ with
  | .error e => .error e
  | .ok (value, cur) =>
    let cur := cur.skipSpace
    if cur.rest.isEmpty then .ok value else cur.failNext .trailingCharacters

-- The decimal has a nearest double, but the steps for it leave the range.
example : (match Json.parse "1.7976931348623158e308" with
    | .ok _ => ""
    | .error e => e.message) = "number out of range at line 1 column 22" := by
  decide +kernel

end PostSlots
