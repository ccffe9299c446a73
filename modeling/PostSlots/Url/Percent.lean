import PostSlots.Text.Hex

/-!
# Percent encoding

Each part of a URL has a set of characters that it cannot hold as they stand. They are written as
their UTF-8 bytes, each as a percent sign and two hexadecimal digits. No set leaves a control
character or a character beyond ASCII alone.
-/

namespace PostSlots.Url

/-- Characters that no part of a URL holds as they stand. -/
def inControlSet (c : Char) : Bool :=
  c.toNat < 0x20 || 0x7F ≤ c.toNat

def inFragmentSet (c : Char) : Bool :=
  inControlSet c || c == ' ' || c == '"' || c == '<' || c == '>' || c == '\x60'

def inQuerySet (c : Char) : Bool :=
  inControlSet c || c == ' ' || c == '"' || c == '#' || c == '<' || c == '>'

/-- Queries of special schemes encode the apostrophe as well. -/
def inSpecialQuerySet (c : Char) : Bool :=
  inQuerySet c || c == '\''

def inPathSet (c : Char) : Bool :=
  inFragmentSet c || c == '#' || c == '?' || c == '\x7b' || c == '\x7d'

def inUserSet (c : Char) : Bool :=
  inPathSet c || c == '/' || c == ':' || c == ';' || c == '=' || c == '@' || c == '[' ||
    c == '\\' || c == ']' || c == '^' || c == '|'

/-- A byte as a percent sign and two digits. -/
def percentByte (b : UInt8) : List Char :=
  '%' :: Text.hexByte b

/-- Encodes the characters of a set. -/
def percentEncode (inSet : Char → Bool) (cs : List Char) : List Char :=
  cs.flatMap fun c => if inSet c then (String.utf8EncodeChar c).flatMap percentByte else [c]

/-- The bytes of a text whose percent signs are decoded where two digits follow. -/
def percentDecode : List Char → List UInt8
  | [] => []
  | '%' :: a :: b :: cs =>
    match Text.hexDigit? a, Text.hexDigit? b with
    | some x, some y => UInt8.ofNat (16 * x + y) :: percentDecode cs
    | _, _ => String.utf8EncodeChar '%' ++ percentDecode (a :: b :: cs)
  | c :: cs => String.utf8EncodeChar c ++ percentDecode cs

/-- The text of UTF-8 bytes. -/
def utf8Text? (bytes : List UInt8) : Option (List Char) :=
  (String.fromUTF8? ⟨bytes.toArray⟩).map String.toList

example : percentEncode inPathSet "a é".toList = "a%20%C3%A9".toList := by decide +kernel

end PostSlots.Url
