import PostSlots.Datum
import PostSlots.Decimal.Numeral
import PostSlots.Text.Hex
import PostSlots.Yaml.Basic

/-!
# What scalars denote

A scalar without quotes may denote nothing, a truth value or a number; the tags of the core schema
make it denote what they say. Digits behind a leading zero are no number.
-/

namespace PostSlots.Yaml.Scalar

def isNull (text : String) : Bool := ["null", "Null", "NULL", "~"].contains text

def isBool (text : String) : Bool :=
  ["true", "True", "TRUE", "false", "False", "FALSE"].contains text

/-- The value of one or more digits in a base. -/
def digitsIn? (base : Nat) (cs : List Char) : Option Nat :=
  if cs.isEmpty then none
  else cs.foldlM (fun n c => (Text.hexDigit? c).bind fun d =>
    if d < base then some (base * n + d) else none) 0

/-- The base that a mark such as `0x` announces. -/
def markedBase? : List Char → Option (Nat × List Char)
  | '0' :: 'x' :: cs => some (16, cs)
  | '0' :: 'o' :: cs => some (8, cs)
  | '0' :: 'b' :: cs => some (2, cs)
  | _ => none

/-- A scalar behind its sign that has more digits than its leading zero. -/
def isPadded (cs : List Char) : Bool :=
  match (Decimal.takeSign cs).2 with
  | '0' :: c :: cs => (c :: cs).all Char.isDigit
  | _ => false

/-- A whole number in digits of any base. -/
def magnitude? (cs : List Char) : Option Nat :=
  match markedBase? cs with
  | some (base, digits) => digitsIn? base digits
  | none => digitsIn? 10 cs

/-- The sign and the magnitude of a whole number. -/
def whole? (cs : List Char) : Option (Bool × Nat) :=
  if isPadded cs then none
  else match cs with
    | '-' :: cs => (magnitude? cs).map (true, ·)
    | '+' :: cs => (magnitude? cs).map (false, ·)
    | cs => (magnitude? cs).map (false, ·)

/-- Names of the numbers that are not finite. -/
def isSpecialFloat (text : String) : Bool :=
  [".inf", ".Inf", ".INF", "+.inf", "+.Inf", "+.INF", "-.inf", "-.Inf", "-.INF", ".nan", ".NaN",
    ".NAN"].contains text

/-- Whether a scalar is a finite number or one of the special ones. -/
def isFloat (text : String) : Bool :=
  isSpecialFloat text || ((Decimal.Numeral.read? text.toList).bind fun n => n.toBinary64?).isSome

/-- What a whole number is as data: up to 64 bits it is taken, and up to 128 bits refused. -/
def ofWhole (negative : Bool) (n : Nat) : Option (Except Fault Datum) :=
  if negative then
    if n ≤ Nat.pow 2 63 then some (.ok .other)
    else if n ≤ Nat.pow 2 127 then some (.error .shape) else none
  else
    if n < Nat.pow 2 64 then some (.ok (.index n))
    else if n < Nat.pow 2 128 then some (.error .shape) else none

def ofInteger? (text : String) : Option (Except Fault Datum) :=
  (whole? text.toList).bind fun (negative, n) => ofWhole negative n

/-- What a scalar without quotes and tag denotes. -/
def ofPlain (text : String) : Except Fault Datum :=
  if text.isEmpty || isNull text || isBool text then .ok .other
  else match ofInteger? text with
    | some result => result
    | none => .ok (if !isPadded text.toList && isFloat text then .other else .text text)

/-- Refuses what a tag does not allow. -/
def orShape (allowed : Bool) : Except Fault Datum :=
  if allowed then .ok .other else .error .shape

/-- What a scalar with a tag denotes. -/
def ofTagged (tag text : String) : Except Fault Datum :=
  match tag with
  | "tag:yaml.org,2002:null" => orShape (isNull text)
  | "tag:yaml.org,2002:bool" => orShape (isBool text)
  | "tag:yaml.org,2002:float" => orShape (isFloat text)
  | "tag:yaml.org,2002:int" => (ofInteger? text).getD (.error .shape)
  | _ => .ok (.text text)

/-- A tag that has a meaning only to some program. -/
def isLocal (tag : Option String) : Bool :=
  (tag.bind fun t => t.toList.head?) == some '!'

/-- What a scalar denotes. -/
def datum (tag : Option String) (plain : Bool) (text : String) : Except Fault Datum :=
  if isLocal tag then .error .shape
  else match tag with
    | some tag => ofTagged tag text
    | none => if plain then ofPlain text else .ok (.text text)

end PostSlots.Yaml.Scalar
