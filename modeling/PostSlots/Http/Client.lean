import PostSlots.Http.Exchange
import PostSlots.Http.Status
import PostSlots.Json.Reader
import PostSlots.Post.Acquire
import PostSlots.Url.Reader

/-!
# Clients

A client fetches JSON. It follows a few redirects, and takes a reply for an answer only if it
reports success and its body is JSON. All else is decided by how a reply begins, even if its body
never arrives.
-/

namespace PostSlots.Http

/-- A client; it tells servers what it is called. -/
structure Client where
  userAgent : String
deriving DecidableEq

namespace Client

/-! ## Building -/

/-- A byte that a header may hold: no control character but the tab. -/
def isHeaderByte (b : UInt8) : Bool := b == 9 || (32 ≤ b && b != 127)

/-- A client of a name that a header may hold. -/
def ofUserAgent (userAgent : String) : Except Error Client :=
  if userAgent.toUTF8.toList.all isHeaderByte then .ok ⟨userAgent⟩
  else .error (.config "Failed to build HTTP client: builder error")

/-! ## Places -/

/-- How many redirects are followed. -/
def redirectLimit : Nat := 5

/-- The longest text of a place, in bytes. -/
def placeLimit : Nat := 65534

/-- A place that requests can be sent to: its host is a plain name or an address. What has no
authority is taken for one. -/
def isPlain (place : Reference) : Bool :=
  let authority := match place.authority with
    | some authority => authority
    | none => if place.query.isSome then "/" else place.scheme.getD "" ++ ":" ++ place.path
  let (_, host) := Reference.splitUser authority.toList
  let name := if host.head? = some '[' then (host.dropWhile (· != ']')).drop 1 else host
  !host.isEmpty && name.count ':' ≤ 1 && name.all fun c => Reference.isNameChar c || c == ':'

/-- The place that a redirect leads to, if it leads anywhere. -/
def redirectTarget? (place : Reference) (status : Nat) (location : Option String) :
    Option Reference := do
  let base ← Reference.parse? place.text
  let r ← Reference.parse? (← if isRedirect status then location else none)
  let next := base.resolve r
  if isPlain next && next.text.utf8ByteSize ≤ placeLimit then some next else none

/-! ## Outcomes -/

/-- What keeps a request to an address from being answered. -/
inductive Obstacle where
  | unsupported (address : String)
  | lost (address : String)
  | redirects (address : String)
deriving DecidableEq

/-- The wording of an obstacle. -/
def Obstacle.text : Obstacle → String
  | unsupported address => "builder error for url (" ++ address ++ ")"
  | lost address => "error sending request for url (" ++ address ++ ")"
  | redirects address => "error following redirect for url (" ++ address ++ ")"

/-- The error of a query that meets an obstacle. -/
def failure (method : String) (obstacle : Obstacle) : Error :=
  .remoteFetch method ("HTTP request failed: " ++ obstacle.text)

/-- What a final reply says. -/
def outcome (method : String) (status : Nat) (body : Option String) : Except Error Json :=
  if isSuccess status then
    match body.map Json.parse with
    | some (.ok value) => .ok value
    | some (.error _) | none => .error (.invalidResponse method "error decoding response body")
  else .error (.remoteFetch method ("HTTP " ++ statusText status))

/-- The address of a place, in the form that people see. -/
def addressOf (place : Reference) : String :=
  match Url.parse place.text with
  | .ok url => url.text
  | .error _ => place.text

/-! ## Fetching -/

/-- Gives up on a query. -/
def stop (method : String) (obstacle : Obstacle) : Exchange (Except Error Json) :=
  .done (.error (failure method obstacle))

/-- Settles a query with the reply from a place, unless that leads to another place, which
`redirected` goes on with. `start` is the address of the first request. -/
def settle (method start : String) (place : Reference)
    (redirected : Reference → Url → Exchange (Except Error Json)) :
    Reply → Exchange (Except Error Json)
  | .lost => stop method (.lost start)
  | .answer status location body =>
    match redirectTarget? place status location with
    | none => .done (outcome method status body)
    | some next =>
      match Url.parse next.text with
      | .error _ => stop method (.unsupported start)
      | .ok url => redirected next url

/-- Asks at a place, and follows at most as many redirects as the number tells. -/
def follow (c : Client) (method start : String) : Nat → Reference → Exchange (Except Error Json)
  | 0, place =>
    .ask ⟨place, c.userAgent⟩ <| settle method start place fun _ _ =>
      stop method (.redirects (addressOf place))
  | left + 1, place =>
    .ask ⟨place, c.userAgent⟩ <| settle method start place fun next url =>
      if !url.isWeb then stop method (.unsupported url.text)
      else if next.authority.isNone then stop method (.lost start)
      else follow c method start left next

/-- Fetches the answer to a query. -/
def fetch (c : Client) (r : Request) : Exchange (Except Error Json) :=
  let place := Reference.ofUrl r.url
  let start := r.url.publicText
  if r.url.isWeb && isPlain place && start.utf8ByteSize ≤ placeLimit then
    follow c r.method start redirectLimit place
  else stop r.method (.unsupported start)

end Client

end PostSlots.Http
