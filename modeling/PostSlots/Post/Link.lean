import PostSlots.Error
import PostSlots.Text.Blank
import PostSlots.Url.Reader

/-!
# Links to posts

The address of a post, such as `https://bsky.app/profile/alice.test/post/abc123`, names the host,
the author and the post. Its shape is not checked: what it does not name is missing.
-/

namespace PostSlots

/-- What a link says about its post. -/
structure LinkFields where
  url : String
  hostname : Option String
  username : Option String
  postId : Option String
deriving DecidableEq

/-- The address of a post. -/
structure PostLink where
  url : Url
deriving DecidableEq

namespace PostLink

/-- Reads an absolute URL between blanks. -/
def parse (href : String) : Except Error PostLink :=
  match Url.parse (String.ofList (Text.trim href.toList)) with
  | .ok url => .ok ⟨url⟩
  | .error fault => .error (.invalidLink href fault.text)

/-- The segments of the path that are not empty. -/
def segments (link : PostLink) : List String :=
  link.url.segments.filter fun name => !name.isEmpty

/-- The segment that follows the first `profile`. -/
def usernameIn : List String → Option String
  | [] => none
  | name :: names => if name = "profile" then names.head? else usernameIn names

def fields (link : PostLink) : LinkFields where
  url := link.url.text
  hostname := link.url.host?
  username := usernameIn link.segments
  postId := link.segments.getLast?

end PostLink

end PostSlots
