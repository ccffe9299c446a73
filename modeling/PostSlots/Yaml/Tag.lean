import PostSlots.Decimal.Numeral
import PostSlots.Url.Percent
import PostSlots.Yaml.Basic

/-!
# Tags and directives

A tag is written in full between `<` and `>`, or as a handle and a suffix; directives give a
handle its meaning and name the version of the syntax.
-/

namespace PostSlots.Yaml

/-- A tag as it is written: the handle is empty where the suffix is the whole tag. -/
structure RawTag where
  handle : String
  suffix : String
deriving DecidableEq

/-- What a line that starts with `%` declares. -/
inductive Directive where
  | version (major minor : Nat)
  | tag (handle expansion : String)
deriving DecidableEq

namespace RawTag

/-- The characters of a tag; brackets and commas only where the tag is written in full. -/
def isTagChar (full : Bool) (c : Char) : Bool :=
  isWord c || ";/?:@&=+$.%!~*'()".toList.contains c || (full && ",[]".toList.contains c)

/-- A character that starts UTF-8 bytes in percent encoding is followed by as many as it needs. -/
def escapesComplete : List Char → Bool
  | [] => true
  | '%' :: cs =>
    match cs with
    | a :: b :: cs => (Text.hexDigit? a).isSome && (Text.hexDigit? b).isSome && escapesComplete cs
    | _ => false
  | _ :: cs => escapesComplete cs

/-- Reads the characters of a tag and decodes their escapes. -/
def readChars (full : Bool) (cs : List Char) : Except Fault (List Char × List Char) :=
  let raw := cs.takeWhile (isTagChar full)
  match if escapesComplete raw then Url.utf8Text? (Url.percentDecode raw) else none with
  | some text => .ok (text, cs.dropWhile (isTagChar full))
  | none => .error .tag

/-- Reads characters, of which there must be some. -/
def readSome (full : Bool) (cs : List Char) : Except Fault (List Char × List Char) := do
  let (text, rest) ← readChars full cs
  if text.isEmpty then throw .tag else pure (text, rest)

/-- Splits off a handle: exclamation marks around a word, or only in front of it. -/
def takeHandle (cs : List Char) : List Char × List Char :=
  let word := cs.takeWhile isWord
  match cs.dropWhile isWord with
  | '!' :: rest => ('!' :: word ++ ['!'], rest)
  | rest => ('!' :: word, rest)

/-- Reads a tag behind its exclamation mark. -/
def readBody : List Char → Except Fault (RawTag × List Char)
  | '<' :: cs => do
    match ← readSome true cs with
    | (text, '>' :: rest) => pure (⟨"", String.ofList text⟩, rest)
    | _ => throw .tag
  | cs => do
    let (handle, rest) := takeHandle cs
    if 1 < handle.length && handle.getLast? == some '!' then
      let (suffix, rest) ← readSome false rest
      pure (⟨String.ofList handle, String.ofList suffix⟩, rest)
    else
      let (text, rest) ← readChars false cs
      if text.isEmpty then pure (⟨"", "!"⟩, rest) else pure (⟨"!", String.ofList text⟩, rest)

/-- Reads a tag behind its exclamation mark. It ends at a gap, inside brackets also at a comma. -/
def read (flow : Bool) (cs : List Char) : Except Fault (RawTag × List Char) := do
  let (tag, rest) ← readBody cs
  if atGap rest || (flow && rest.head? == some ',') then pure (tag, rest) else throw .tag

end RawTag

namespace Directive

/-- Reads one to nine digits. -/
def readNumber (cs : List Char) : Except Fault (Nat × List Char) :=
  let digits := cs.takeWhile Char.isDigit
  if digits.isEmpty || 9 < digits.length then .error .directive
  else .ok (Decimal.ofDigits digits, cs.dropWhile Char.isDigit)

def readVersion (cs : List Char) : Except Fault (Directive × List Char) := do
  match ← readNumber (cs.dropWhile isBlank) with
  | (major, '.' :: cs) =>
    let (minor, cs) ← readNumber cs
    pure (.version major minor, cs)
  | _ => throw .directive

/-- Reads a handle and what it stands for. -/
def readTag (cs : List Char) : Except Fault (Directive × List Char) :=
  match cs.dropWhile isBlank with
  | '!' :: cs => do
    let (handle, rest) := RawTag.takeHandle cs
    if handle.getLast? != some '!' || !(rest.head?.map isBlank).getD false then throw .directive
    let (expansion, rest) ← RawTag.readSome true (rest.dropWhile isBlank)
    if atGap rest then pure (.tag (String.ofList handle) (String.ofList expansion), rest)
    else throw .directive
  | _ => .error .directive

/-- Reads a directive behind its percent sign, and its line. -/
def read (cs : List Char) : Except Fault (Directive × List Char) := do
  let rest := cs.dropWhile isWord
  if !atGap rest then throw .directive
  let (directive, rest) ← match String.ofList (cs.takeWhile isWord) with
    | "YAML" => readVersion rest
    | "TAG" => readTag rest
    | _ => throw .directive
  match dropComment? rest with
  | none => throw .directive
  | some rest =>
    match takeBreak? rest with
    | some (_, rest) => pure (directive, rest)
    | none => pure (directive, rest)

end Directive

end PostSlots.Yaml
