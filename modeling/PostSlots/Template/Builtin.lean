import PostSlots.Binding.Slot
import PostSlots.Dom.Html
import PostSlots.Template.Registry

/-!
# The template for posts

The template that every program starts with: the body of a post, its author and three counts.
-/

namespace PostSlots.Template

/-- The tag of host elements that choose no other. -/
def defaultTag : String := "bluesky-post"

/-- An empty slot for one key. -/
def slot (tag key : String) : Element :=
  (Element.ofTag tag).setAttr Slot.defaultMarker key

/-- A label and the slot of a count. -/
def count (label key : String) : List Node :=
  [((Element.ofTag "dt").setText label).toNode, (slot "dd" key).toNode]

/-- The author's name, linked to the post. -/
def author : Element :=
  ((slot "a" "url").setAttr Slot.roleAttribute "link").setContent
    [.text "@", (slot "span" "username").toNode]

/-- How often a post was reposted, answered and liked. -/
def counts : Element :=
  (Element.ofTag "dl").setContent
    (count "Reposts" "repostCount" ++ count "Replies" "replyCount" ++ count "Likes" "likeCount")

def caption : Element :=
  (Element.ofTag "figcaption").setContent
    [((Element.ofTag "cite").push author.toNode).toNode, counts.toNode]

/-- The template for posts. -/
def post : Template where
  id := TemplateName.ofTag defaultTag
  content := [((Element.ofTag "figure").setContent
    [(slot "blockquote" "record.text").toNode, caption.toNode]).toNode]

end PostSlots.Template
