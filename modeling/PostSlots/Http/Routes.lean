import PostSlots.Http.Exchange
import PostSlots.Http.Status
import PostSlots.Text.Blank

/-!
# Servers with prepared answers

A stand-in for servers: each path has a list of answers, of which the first request to it gets the
first one, and so on; the last answer is repeated.
-/

namespace PostSlots.Http

/-- Prepared answers by path. -/
abbrev Routes := List (String × List Reply)

namespace Routes

/-- Only requests in the clear can be understood. -/
def isReadable (g : Get) : Bool := g.place.scheme = some "http"

/-- The path that a request is about. -/
def pathOf (g : Get) : String :=
  String.ofList (g.place.target.toList.takeWhile (· != '?'))

/-- A text without the blanks that a header does not carry. -/
def trimmed (text : String) : String :=
  String.ofList (Text.trimWhile (fun c => c == ' ' || c == '\t') text.toList)

/-- A reply as it is sent: some have no body, and blanks around a location get lost. -/
def sent : Reply → Reply
  | .answer status location body =>
    .answer status (location.map trimmed) (if isBodiless status then some "" else body)
  | .lost => .lost

/-- The reply to a request, the `n`-th one to its path. -/
def reply (routes : Routes) (path : String) (n : Nat) : Reply :=
  match routes.lookup path with
  | none | some [] => .answer 404 none (some "")
  | some (first :: rest) => sent ((first :: rest)[n]?.getD (rest.getLast?.getD first))

/-- Replies to requests. -/
def oracle (routes : Routes) : Dialogue.Oracle Get Reply := fun asked =>
  match asked.getLast? with
  | none => .lost
  | some g =>
    if isReadable g then
      let earlier := asked.dropLast.filter fun h => isReadable h && pathOf h == pathOf g
      routes.reply (pathOf g) earlier.length
    else .lost

/-- The name of a client without blanks around it, as a server sees it. -/
def agentOf (g : Get) : String := String.ofList (Text.trim g.userAgent.toList)

end Routes

end PostSlots.Http
