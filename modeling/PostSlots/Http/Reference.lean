import PostSlots.Text.Blank
import PostSlots.Text.Hex
import PostSlots.Url.Basic

/-!
# References to resources

What a server calls another place by: a scheme, an authority, a path and a query, of which the
leading ones may be missing and are then those of the place that the reference stands in. Other
than the addresses that people write, a reference is ASCII and holds no blanks.
-/

namespace PostSlots

/-- A reference. What a fragment names is not fetched, and so it is not kept. -/
structure Reference where
  scheme : Option String
  authority : Option String
  path : String
  query : Option String
deriving DecidableEq

namespace Reference

/-! ## Characters -/

def isUnreserved (c : Char) : Bool := c.isAlphanum || "-._~".toList.contains c

def isSubDelimiter (c : Char) : Bool := "!$&'()*+,;=".toList.contains c

/-- The characters of names. -/
def isNameChar (c : Char) : Bool := isUnreserved c || isSubDelimiter c

/-- The characters of segments. -/
def isSegmentChar (c : Char) : Bool := isNameChar c || c == ':' || c == '@'

/-- Whether a text consists of certain characters and of bytes behind percent signs. -/
def consistsOf (p : Char → Bool) : List Char → Bool
  | [] => true
  | '%' :: a :: b :: cs =>
    (Text.hexDigit? a).isSome && (Text.hexDigit? b).isSome && consistsOf p cs
  | c :: cs => p c && consistsOf p cs

/-! ## Reading -/

/-- Splits a text in front of the first character that satisfies `p`. -/
def splitBefore (p : Char → Bool) (cs : List Char) : List Char × List Char :=
  (cs.takeWhile fun c => !p c, cs.dropWhile fun c => !p c)

/-- What follows a mark, if the mark is there. -/
def behind? (mark : Char) : List Char → Option (List Char)
  | c :: cs => if c = mark then some cs else none
  | [] => none

def isScheme : List Char → Bool
  | c :: cs => c.isAlpha && cs.all fun c => c.isAlphanum || "+-.".toList.contains c
  | [] => false

/-- Splits an authority behind the sign that ends the name of a user. -/
def splitUser (cs : List Char) : List Char × List Char :=
  match splitBefore (· == '@') cs with
  | (user, '@' :: place) => (user, place)
  | _ => ([], cs)

/-- A port, or no port. -/
def isPortPart : List Char → Bool
  | [] => true
  | c :: cs => c == ':' && cs.all Char.isDigit

/-- A host with or without a port. -/
def isPlace : List Char → Bool
  | '[' :: cs =>
    match splitBefore (· == ']') cs with
    | (address, ']' :: rest) => (Url.Ipv6.read? address).isSome && isPortPart rest
    | _ => false
  | cs =>
    let (host, rest) := splitBefore (· == ':') cs
    consistsOf isNameChar host && isPortPart rest

def isAuthority (cs : List Char) : Bool :=
  let (user, place) := splitUser cs
  consistsOf (fun c => isNameChar c || c == ':') user && isPlace place

/-- Splits off a scheme. A colon that ends no scheme must not stand in the first segment. -/
def splitScheme? (cs : List Char) : Option (Option String × List Char) :=
  match splitBefore (fun c => c == ':' || c == '/') cs with
  | (scheme, ':' :: rest) =>
    if isScheme scheme then some (some (String.ofList scheme), rest) else none
  | _ => some (none, cs)

/-- Splits off an authority. -/
def splitAuthority? (cs : List Char) : Option (Option String × List Char) :=
  match cs with
  | '/' :: '/' :: cs =>
    let (authority, rest) := splitBefore (· == '/') cs
    if isAuthority authority then some (some (String.ofList authority), rest) else none
  | cs => some (none, cs)

/-- Reads a reference. -/
def parse? (text : String) : Option Reference := do
  let isTailChar (c : Char) : Bool := isSegmentChar c || c == '/' || c == '?'
  let (cs, fragment) := splitBefore (· == '#') text.toList
  let (cs, query) := splitBefore (· == '?') cs
  let (scheme, cs) ← splitScheme? cs
  let (authority, path) ← splitAuthority? cs
  let isPathChar (c : Char) : Bool := isSegmentChar c || c == '/'
  if consistsOf isPathChar path && [query, fragment].all (consistsOf isTailChar <| ·.drop 1) then
    some ⟨scheme, authority, String.ofList path, (behind? '?' query).map String.ofList⟩
  else none

/-! ## Resolving -/

/-- The segments of a path behind its first slash without `.`, which stays in place, and `..`, which
goes up. The segments kept so far come last first. -/
def goUp (kept : List String) : List String → List String
  | [] => kept.reverse
  | [last] =>
    if last = "." then ("" :: kept).reverse
    else if last = ".." then ("" :: kept.tail).reverse
    else (last :: kept).reverse
  | name :: names =>
    if name = "." then goUp kept names
    else if name = ".." then goUp kept.tail names
    else goUp (name :: kept) names

/-- A path without segments of dots. Only a path that starts with a slash can have such. -/
def withoutDots (path : String) : String :=
  match path.toList with
  | '/' :: cs =>
    String.join ((goUp [] ((Text.cut (· == '/') cs).map String.ofList)).map ("/" ++ ·))
  | _ => path

/-- A path in the place of the last segment of another one. -/
def mergePath (base path : String) : String :=
  let directory := Text.dropEndWhile (· != '/') base.toList
  (if directory.isEmpty then "/" else String.ofList directory) ++ path

/-- The place that a reference means where it stands in the place `base`. -/
def resolve (base r : Reference) : Reference :=
  if r.scheme.isSome then { r with path := withoutDots r.path }
  else if r.authority.isSome then
    { r with scheme := base.scheme, path := withoutDots r.path }
  else if r.path.isEmpty then { base with query := r.query.or base.query }
  else
    let path := if r.path.toList.head? = some '/' then r.path else mergePath base.path r.path
    { base with path := withoutDots path, query := r.query }

/-! ## Writing -/

/-- The path, which is never empty, and the query. -/
def target (r : Reference) : String :=
  (if r.path.isEmpty then "/" else r.path) ++ String.ofList (Url.suffix '?' r.query)

/-- The text of a reference that has a scheme. -/
def text (r : Reference) : String :=
  match r.authority with
  | some authority => r.scheme.getD "" ++ "://" ++ authority ++ r.target
  | none => r.scheme.getD "" ++ ":" ++ r.path ++ String.ofList (Url.suffix '?' r.query)

/-- The place of a URL, without user name and password. -/
def ofUrl (url : Url) : Reference :=
  ⟨some url.scheme, url.authority.map fun a => String.ofList a.place,
    String.ofList url.path.chars, url.query⟩

example : (do some ((← parse? "http://h/a/b?q").resolve (← parse? "../c/./d#f")).text) =
    some "http://h/c/d" := by decide +kernel

example : parse? "/a b" = none ∧ parse? "1:x" = none ∧
    (parse? "?x").map Reference.query = some (some "x") := by decide +kernel

end Reference

end PostSlots
