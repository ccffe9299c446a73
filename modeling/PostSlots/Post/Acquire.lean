import PostSlots.Dialogue
import PostSlots.Post.Record
import PostSlots.Binding.Value
import PostSlots.Url.Query

/-!
# Acquiring records

Two requests lead from a link to its record: the profile of the author names the author's
permanent id, and with that id the post can be asked for. A record without a post is no error.
-/

namespace PostSlots

/-- A query of a service: the method it calls and where. -/
structure Request where
  method : String
  url : Url
deriving DecidableEq

/-- A computation that queries services. -/
abbrev Acquiring := Dialogue Request (Except Error Json)

namespace Request

/-- The method that describes an author. -/
def getProfile : String := "app.bsky.actor.getProfile"

/-- The method that describes posts. -/
def getPosts : String := "app.bsky.feed.getPosts"

/-- The collection that posts belong to. -/
def postCollection : String := "app.bsky.feed.post"

/-- The name of a post among all records of its author. -/
def postUri (did postId : String) : String :=
  "at://" ++ did ++ "/" ++ postCollection ++ "/" ++ postId

/-- A base without the slashes at its end. -/
def trimBase (base : String) : String :=
  String.ofList (Text.dropEndWhile (· == '/') base.toList)

/-- The base of all requests: the one given, or the public service of the link's host. -/
def baseFor (apiBase : Option String) (link : PostLink) : String :=
  match apiBase with
  | some base => trimBase base
  | none => "https://public.api." ++ link.url.host?.getD SlotValue.missing

/-- The query of a method with one parameter. -/
def ofParameter (base method : String) (pair : String × String) : Except Error Request :=
  match Url.parse (base ++ "/xrpc/" ++ method) with
  | .ok url => .ok ⟨method, url.withPair pair⟩
  | .error fault =>
    .error (.config ("Invalid XRPC base URL '" ++ base ++ "': " ++ fault.text))

end Request

/-- Asks a query, if there is one. -/
def Acquiring.send : Except Error Request → Acquiring (Except Error Json)
  | .ok request => .ask request .done
  | .error e => .done (.error e)

namespace Post

/-- A field that is a string. -/
def stringField? (name : String) : Json → Option String
  | .object fields =>
    match fields.lookup name with
    | some (.string value) => some value
    | _ => none
  | _ => none

/-- The permanent id in a profile. -/
def didOf (profile : Json) : String :=
  (stringField? "did" profile).getD SlotValue.missing

/-- The first of the posts in an answer; there may be none. -/
def firstOf (body : Json) : Except Error (Option Json) :=
  match body with
  | .object fields =>
    match fields.lookup "posts" with
    | some (.array posts) => .ok posts.head?
    | _ => .error (.invalidResponse Request.getPosts "missing 'posts' array")
  | _ => .error (.invalidResponse Request.getPosts "missing 'posts' array")

/-- The record of a link. -/
def acquire (apiBase : Option String) (link : PostLink) : Acquiring (Except Error Record) :=
  let fields := link.fields
  let base := Request.baseFor apiBase link
  let ask (method name value : String) : ExceptT Error Acquiring Json :=
    Acquiring.send (Request.ofParameter base method (name, value))
  ExceptT.run do
    let profile ← ask Request.getProfile "actor" (fields.username.getD SlotValue.missing)
    let uri := Request.postUri (didOf profile) (fields.postId.getD SlotValue.missing)
    let post ← firstOf (← ask Request.getPosts "uris" uri)
    pure (Record.merge post fields)

end Post

end PostSlots
