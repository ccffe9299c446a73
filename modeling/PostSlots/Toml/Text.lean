import PostSlots.Text.Hex
import PostSlots.Toml.Basic

/-!
# Strings, keys and comments of TOML

Strings stand between single quotes, which keep everything, or double quotes, in which a backslash
starts an escape sequence; three quotes in a row allow breaks.
-/

namespace PostSlots.Toml.Chars

def isBlank (c : Char) : Bool := c == ' ' || c == '\t'

/-- The characters that a line may hold. -/
def isPrintable (c : Char) : Bool :=
  c == '\t' || (0x20 ≤ c.toNat && c.toNat ≠ 0x7F)

def isBareKey (c : Char) : Bool := c.isAlphanum || c == '_' || c == '-'

def skipBlanks (cs : List Char) : List Char := cs.dropWhile isBlank

/-- Drops a break, with or without a carriage return. -/
def dropBreak? : List Char → Option (List Char)
  | '\n' :: cs | '\r' :: '\n' :: cs => some cs
  | _ => none

/-- Drops a comment, if there is one. -/
def dropComment : List Char → List Char
  | '#' :: cs => cs.dropWhile isPrintable
  | cs => cs

/-- Drops the rest of a line, which holds at most a comment. -/
def dropLine? (cs : List Char) : Option (List Char) :=
  match dropComment (skipBlanks cs) with
  | [] => some []
  | cs => dropBreak? cs

/-- Drops blanks, breaks and comments. -/
def dropGap? : (fuel : Nat) → List Char → Option (List Char)
  | 0, _ => none
  | fuel + 1, cs =>
    match skipBlanks cs with
    | '#' :: cs =>
      match cs.dropWhile isPrintable with
      | [] => some []
      | cs => (dropBreak? cs).bind (dropGap? fuel)
    | cs =>
      match dropBreak? cs with
      | some cs => dropGap? fuel cs
      | none => some cs

/-! ## Escapes -/

/-- Escapes of a single character. -/
def shortEscape? (c : Char) : Option Char :=
  [('b', '\x08'), ('f', '\x0c'), ('n', '\n'), ('r', '\r'), ('t', '\t'), ('\\', '\\'),
    ('"', '"')].lookup c

/-- Reads a code point in exactly `n` hexadecimal digits. -/
def readCode? (n : Nat) (cs : List Char) : Option (Char × List Char) := do
  let digits := cs.take n
  let value ← if digits.length = n then Text.hexValue? digits else none
  if h : value.isValidChar then some (Char.ofNatAux value h, cs.drop n) else none

/-- Reads what follows a backslash. -/
def readEscape? : List Char → Option (Char × List Char)
  | 'u' :: cs => readCode? 4 cs
  | 'U' :: cs => readCode? 8 cs
  | c :: cs => (shortEscape? c).map (·, cs)
  | [] => none

/-- Drops the break that a backslash hides, and the blanks and breaks behind it. -/
def dropHidden? (cs : List Char) : Option (List Char) :=
  (dropBreak? (skipBlanks cs)).map fun cs =>
    cs.dropWhile fun c => isBlank c || c == '\n' || c == '\r'

/-! ## Strings -/

/-- Reads a string of one line behind its opening quote. -/
def readLine? (escapes : Bool) (quote : Char) : (fuel : Nat) → List Char →
    Option (List Char × List Char)
  | 0, _ | _, [] => none
  | fuel + 1, c :: cs =>
    if c = quote then some ([], cs)
    else if escapes && c = '\\' then do
      let (d, cs) ← readEscape? cs
      let (text, rest) ← readLine? escapes quote fuel cs
      some (d :: text, rest)
    else if isPrintable c then do
      let (text, rest) ← readLine? escapes quote fuel cs
      some (c :: text, rest)
    else none

/-- Reads a string of several lines behind its opening quotes. It ends at three quotes, in front of
which two more may stand. -/
def readLines? (escapes : Bool) (quote : Char) : (fuel : Nat) → List Char →
    Option (List Char × List Char)
  | 0, _ | _, [] => none
  | fuel + 1, c :: cs =>
    if c = quote then
      let run := 1 + (cs.takeWhile (· == quote)).length
      let rest := cs.dropWhile (· == quote)
      if run < 3 then do
        let (text, rest) ← readLines? escapes quote fuel rest
        some (List.replicate run quote ++ text, rest)
      else if run ≤ 5 then some (List.replicate (run - 3) quote, rest)
      else none
    else if escapes && c = '\\' then
      match dropHidden? cs with
      | some cs => readLines? escapes quote fuel cs
      | none => do
        let (d, cs) ← readEscape? cs
        let (text, rest) ← readLines? escapes quote fuel cs
        some (d :: text, rest)
    else
      match dropBreak? (c :: cs) with
      | some cs => do
        let (text, rest) ← readLines? escapes quote fuel cs
        some ('\n' :: text, rest)
      | none => do
        let (text, rest) ← if isPrintable c then readLines? escapes quote fuel cs else none
        some (c :: text, rest)

/-- Drops the break right behind the opening quotes. -/
def dropFirstBreak (cs : List Char) : List Char :=
  (dropBreak? cs).getD cs

/-- Reads a string of any kind. -/
def readString? (cs : List Char) : Option (String × List Char) :=
  let result := match cs with
    | '"' :: '"' :: '"' :: cs => readLines? true '"' (cs.length + 1) (dropFirstBreak cs)
    | '\'' :: '\'' :: '\'' :: cs => readLines? false '\'' (cs.length + 1) (dropFirstBreak cs)
    | '"' :: cs => readLine? true '"' (cs.length + 1) cs
    | '\'' :: cs => readLine? false '\'' (cs.length + 1) cs
    | _ => none
  result.map fun (text, rest) => (String.ofList text, rest)

/-! ## Keys -/

/-- Reads a key without points. -/
def readSimpleKey? (cs : List Char) : Option (String × List Char) :=
  let result := match cs with
    | '"' :: cs => readLine? true '"' (cs.length + 1) cs
    | '\'' :: cs => readLine? false '\'' (cs.length + 1) cs
    | cs =>
      let word := cs.takeWhile isBareKey
      if word.isEmpty then none else some (word, cs.dropWhile isBareKey)
  result.map fun (text, rest) => (String.ofList text, rest)

/-- Reads a key with points between its parts, and the blanks around it. -/
def readKey? : (fuel : Nat) → List Char → Option (List String × List Char)
  | 0, _ => none
  | fuel + 1, cs => do
    let (part, cs) ← readSimpleKey? (skipBlanks cs)
    match skipBlanks cs with
    | '.' :: cs =>
      let (parts, rest) ← readKey? fuel cs
      some (part :: parts, rest)
    | rest => some ([part], rest)

end PostSlots.Toml.Chars
