import PostSlots.Url.Address

/-!
# Web addresses

A URL is kept in its parts, each already in its encoded form, so that its text is put together
without further encoding.
-/

namespace PostSlots

/-- Why a text is not a URL. -/
inductive Url.Fault where
  | emptyHost
  | invalidDomain
  | invalidPort
  | invalidIpv4
  | invalidIpv6
  | invalidHostCharacter
  | relativeWithoutBase
deriving DecidableEq

/-- The wording of a fault. -/
def Url.Fault.text : Url.Fault → String
  | emptyHost => "empty host"
  | invalidDomain => "invalid international domain name"
  | invalidPort => "invalid port number"
  | invalidIpv4 => "invalid IPv4 address"
  | invalidIpv6 => "invalid IPv6 address"
  | invalidHostCharacter => "invalid domain character"
  | relativeWithoutBase => "relative URL without a base"

/-- The host of a URL. -/
inductive Url.Host where
  | name (text : String)
  | ipv4 (address : Nat)
  | ipv6 (groups : List Nat)
deriving DecidableEq

/-- The text of a host; an IPv6 address stands in brackets. -/
def Url.Host.chars : Url.Host → List Char
  | name text => text.toList
  | ipv4 address => Url.Ipv4.text address
  | ipv6 groups => '[' :: Url.Ipv6.text groups ++ [']']

/-- What stands behind the two slashes. -/
structure Url.Authority where
  username : String
  password : String
  host : Option Url.Host
  port : Option Nat
deriving DecidableEq

/-- A path is a text without structure, or a list of segments each of which follows a slash. -/
inductive Url.Path where
  | rootless (text : String)
  | segments (names : List String)
deriving DecidableEq

/-- A URL in its parts. -/
structure Url where
  scheme : String
  authority : Option Url.Authority
  path : Url.Path
  query : Option String
  fragment : Option String
deriving DecidableEq

namespace Url

/-- The port that a scheme uses where none is given. -/
def defaultPort? (scheme : String) : Option Nat :=
  [("http", 80), ("https", 443), ("ws", 80), ("wss", 443), ("ftp", 21)].lookup scheme

/-- Special schemes always have an authority, and take a backslash for a slash. -/
def isSpecial (scheme : String) : Bool :=
  scheme == "file" || (defaultPort? scheme).isSome

/-- Segments, each behind its slash. -/
def segmentsText (names : List String) : List Char :=
  names.flatMap fun name => '/' :: name.toList

def Path.chars : Path → List Char
  | rootless text => text.toList
  | segments names => segmentsText names

/-- User name and password, as far as they are given. -/
def Authority.credentials (a : Authority) : List Char :=
  let password := if a.password.isEmpty then [] else ':' :: a.password.toList
  if a.username.isEmpty && a.password.isEmpty then []
  else a.username.toList ++ password ++ ['@']

/-- Host and port. -/
def Authority.place (a : Authority) : List Char :=
  let port := match a.port with
    | none => []
    | some n => ':' :: Decimal.digitsOf n
  ((a.host.map Host.chars).getD []) ++ port

/-- What stands between the scheme and the path. A path that starts with an empty segment must
not look like an authority, hence the point. -/
def beforePath (url : Url) (credentials : Bool) : List Char :=
  match url.authority, url.path with
  | some a, _ => '/' :: '/' :: (if credentials then a.credentials else []) ++ a.place
  | none, .segments ("" :: _ :: _) => ['/', '.']
  | none, _ => []

/-- A mark and what follows it, if there is something. -/
def suffix (mark : Char) (part : Option String) : List Char :=
  match part with
  | none => []
  | some text => mark :: text.toList

/-- The path and the query. -/
def target (url : Url) : String :=
  String.ofList (url.path.chars ++ suffix '?' url.query)

def chars (url : Url) (credentials : Bool) : List Char :=
  url.scheme.toList ++ ':' :: url.beforePath credentials ++ url.path.chars ++
    suffix '?' url.query ++ suffix '#' url.fragment

/-- The text of a URL. -/
def text (url : Url) : String :=
  String.ofList (url.chars true)

/-- The text of a URL without user name and password. -/
def publicText (url : Url) : String :=
  String.ofList (url.chars false)

def host? (url : Url) : Option String :=
  (url.authority.bind Authority.host).map fun host => String.ofList host.chars

/-- The segments of the path; none if it has no structure. -/
def segments (url : Url) : List String :=
  match url.path with
  | .segments names => names
  | .rootless _ => []

/-- An address that a browser fetches a page from. -/
def isWeb (url : Url) : Bool :=
  url.scheme == "http" || url.scheme == "https"

end Url

end PostSlots
