import PostSlots.Idna.Label
import PostSlots.Idna.Punycode

/-!
# Domain names in ASCII

`toAscii?` maps the characters of a name, brings it to composed form, and encodes each label that
holds characters beyond ASCII. A label that is already encoded must decode to one that mapping
leaves as it is. Hyphens and lengths are not checked.
-/

namespace PostSlots.Idna

def isAscii (c : Char) : Bool :=
  c.toNat < 128

/-- How encoded labels begin. -/
def encodedMark : List Char := ['x', 'n', '-', '-']

/-- The characters that a label stands for, or `none` for an encoded label that does not decode
to a label in need of encoding. -/
def labelChars? (label : List Char) : Option (List Char) :=
  if encodedMark.isPrefixOf label then do
    let chars ← Punycode.decode? (label.drop encodedMark.length)
    if chars.all isAscii || !chars.all isValid || composed chars != chars then none
    else some chars
  else some label

/-- A label in ASCII. -/
def labelAscii (label : List Char) : List Char :=
  if label.all isAscii then label else encodedMark ++ Punycode.encode label

/-- A name that needs neither mapping nor decoding once its capitals are lowered. -/
def isPlain (cs : List Char) : Bool :=
  cs.all isAscii && !(Text.cut (· == '.') (cs.map Char.toLower)).any encodedMark.isPrefixOf

/-- Labels with points between them. -/
def joinLabels : List (List Char) → List Char
  | [] => []
  | [label] => label
  | label :: labels => label ++ '.' :: joinLabels labels

/-- A domain name in ASCII, or `none` if it is not a domain name. -/
def toAscii? (cs : List Char) : Option (List Char) :=
  if isPlain cs then some (cs.map Char.toLower)
  else do
    let mapped ← mapChars? cs
    let labels ← (Text.cut (· == '.') (composed mapped)).mapM labelChars?
    let bidirectional := labels.any fun label => label.any fun c => (direction c).isFromRight
    if labels.all wellFormed && (!bidirectional || labels.all keepsDirection) then
      some (joinLabels (labels.map labelAscii))
    else none

end PostSlots.Idna
