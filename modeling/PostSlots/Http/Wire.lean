import PostSlots.Decimal.Numeral
import PostSlots.Http.Exchange
import PostSlots.Http.Status
import PostSlots.Text.Blank
import PostSlots.Text.Cut
import PostSlots.Text.Hex

/-!
# Messages on the wire

How requests are written, and how replies are read from the bytes that have arrived so far.
-/

namespace PostSlots.Http.Wire

/-! ## Requests -/

/-- The host and the port that a request in the clear is sent to. -/
def endpoint? (g : Get) : Option (String × Nat) := do
  let authority ← if g.place.scheme = some "http" then g.place.authority else none
  let (_, place) := Reference.splitUser authority.toList
  let (host, rest) := match place with
    | '[' :: cs => (cs.takeWhile (· != ']'), (cs.dropWhile (· != ']')).drop 1)
    | cs => (cs.takeWhile (· != ':'), cs.dropWhile (· != ':'))
  let port := (Decimal.readDigits? (rest.drop 1)).getD 80
  some (String.ofList host, port)

/-- The text of a request. The connection is not used again. -/
def requestText (g : Get) : String :=
  let host := (Reference.splitUser (g.place.authority.getD "").toList).2
  String.join (["GET " ++ g.place.target ++ " HTTP/1.1", "user-agent: " ++ g.userAgent,
    "accept: */*", "host: " ++ String.ofList host, "connection: close", ""].map (· ++ "\r\n"))

/-! ## Replies -/

abbrev Bytes := List UInt8

/-- What stands in front of the empty line of a message and behind it. -/
def splitHead? : Bytes → Option (Bytes × Bytes)
  | 13 :: 10 :: 13 :: 10 :: rest => some ([], rest)
  | b :: rest => (splitHead? rest).map fun (head, body) => (b :: head, body)
  | [] => none

/-- The status and the fields of a reply. Names of fields are in small letters. -/
structure Head where
  status : Nat
  fields : List (String × String)
deriving DecidableEq

/-- Reads the line of a field. -/
def readField? (line : List Char) : Option (String × String) :=
  match line.dropWhile (· != ':') with
  | ':' :: value =>
    let name := (line.takeWhile (· != ':')).map Char.toLower
    some (String.ofList name, String.ofList (Text.trim value))
  | _ => none

/-- Reads a head. Bytes that are no UTF-8 text hide the fields that hold them. -/
def readHead? (bytes : Bytes) : Option Head :=
  let lines := (Text.cut (· == 10) bytes).map fun line =>
    Text.trim ((String.fromUTF8? ⟨line.toArray⟩).getD "").toList
  match lines with
  | [] => none
  | first :: rest => do
    let code ← (Text.tokens (· == ' ') first)[1]?
    some ⟨← Decimal.readDigits? code, rest.filterMap readField?⟩

/-- Where a body ends. -/
inductive Extent where
  | length (n : Nat)
  | chunks
  | connection
deriving DecidableEq

def Head.extent (h : Head) : Extent :=
  if isBodiless h.status then .length 0
  else if (h.fields.lookup "transfer-encoding").isSome then .chunks
  else match (h.fields.lookup "content-length").bind (Decimal.readDigits? ·.toList) with
    | some n => .length n
    | none => .connection

/-- The size in the line that starts a chunk. -/
def chunkSize? (line : Bytes) : Option Nat :=
  let digits := (line.map fun b => Char.ofNat b.toNat).takeWhile fun c => (Text.hexDigit? c).isSome
  if digits.isEmpty then none else Text.hexValue? digits

/-- Puts chunks together, if the last one has arrived. -/
def joinChunks? : (fuel : Nat) → Bytes → Option Bytes
  | 0, _ => none
  | fuel + 1, bytes => do
    let size ← chunkSize? (bytes.takeWhile (· != 10))
    let rest := (bytes.dropWhile (· != 10)).drop 1
    if size = 0 then some []
    else if rest.length < size + 2 then none
    else (joinChunks? fuel (rest.drop (size + 2))).map (rest.take size ++ ·)

/-- The body, if all of it has arrived. -/
def body? (extent : Extent) (ended : Bool) (bytes : Bytes) : Option Bytes :=
  match extent with
  | .length n => if n ≤ bytes.length then some (bytes.take n) else none
  | .chunks => joinChunks? bytes.length bytes
  | .connection => if ended then some bytes else none

/-- The head that has arrived, and what has arrived behind it. -/
def arrived? (bytes : Bytes) : Option (Head × Bytes) := do
  let (head, rest) ← splitHead? bytes
  some (← readHead? head, rest)

/-- The reply of a head and a body. A body that is no text is left out. -/
def Head.reply (h : Head) (body : Option Bytes) : Reply :=
  .answer h.status (h.fields.lookup "location")
    (body.bind fun bytes => String.fromUTF8? ⟨bytes.toArray⟩)

/-- The reply in the bytes so far, if all of it has arrived; `ended` tells that no more will come. -/
def reply? (ended : Bool) (bytes : Bytes) : Option Reply := do
  let (head, rest) ← arrived? bytes
  some (head.reply (← body? head.extent ended rest))

/-- What the bytes so far come to if the rest is lost. -/
def brokenOff (bytes : Bytes) : Reply :=
  match arrived? bytes with
  | some (head, _) => head.reply none
  | none => .lost

end PostSlots.Http.Wire
