import PostSlots.Url.Basic
import PostSlots.Url.Percent

/-!
# Query pairs

A query may hold pairs of a name and a value, in the encoding of HTML forms: a plus sign for a
blank, and every other character but letters, digits and `*-._` in percent encoding.
-/

namespace PostSlots.Url.Query

/-- Characters that stand for themselves. -/
def isFree (c : Char) : Bool :=
  c.isAlphanum || c == '*' || c == '-' || c == '.' || c == '_'

/-- A character in form encoding. -/
def encodeChar (c : Char) : List Char :=
  if isFree c then [c]
  else if c = ' ' then ['+']
  else (String.utf8EncodeChar c).flatMap percentByte

def encode (text : String) : List Char :=
  text.toList.flatMap encodeChar

/-- A name and its value. -/
def encodePair (pair : String × String) : List Char :=
  encode pair.1 ++ '=' :: encode pair.2

/-- The text that a form encoding stands for; bytes that are no UTF-8 stand for nothing. -/
def decode? (cs : List Char) : Option String :=
  (utf8Text? (percentDecode (cs.map fun c => if c = '+' then ' ' else c))).map String.ofList

/-- Reads a name and its value; the value may be missing. -/
def decodePair? (cs : List Char) : Option (String × String) := do
  let name ← decode? (cs.takeWhile (· != '='))
  let value ← decode? ((cs.dropWhile (· != '=')).drop 1)
  some (name, value)

/-- The pairs of a query. -/
def decodePairs? (query : String) : Option (List (String × String)) :=
  (Text.tokens (· == '&') query.toList).mapM decodePair?

end PostSlots.Url.Query

namespace PostSlots.Url

/-- Appends a pair to the query. -/
def withPair (url : Url) (pair : String × String) : Url :=
  let before := match url.query with
    | none | some "" => []
    | some query => query.toList ++ ['&']
  { url with query := some (String.ofList (before ++ Query.encodePair pair)) }

end PostSlots.Url
