import PostSlots.Post.Acquire

/-!
# Canned answers

A stand-in for services: every method has one answer, whatever is asked of it.
-/

namespace PostSlots.Request

/-- The answer of a method, or the error of a service that does not know it. -/
def cannedAnswer (responses : List (String × Json)) (method : String) : Except Error Json :=
  match responses.lookup method with
  | some body => .ok body
  | none => .error (.remoteFetch method "HTTP 404 Not Found")

/-- Answers each request by its method. -/
def canned (responses : List (String × Json)) : Dialogue.Oracle Request (Except Error Json) :=
  fun asked => cannedAnswer responses ((asked.getLast?.map Request.method).getD "")

end PostSlots.Request
