/-!
# Errors

What can keep a post from being rendered, the text that is shown for it, and the advice that goes
with it.
-/

namespace PostSlots

/-- Why a post cannot be rendered. Each cause has a code of its own. -/
inductive Error where
  | templateNotFound (id : String)
  | templateParse (path details : String)
  | invalidTemplateId (id reason : String)
  | missingLink (tag : String)
  | invalidLink (href reason : String)
  | remoteFetch (endpoint reason : String)
  | invalidResponse (endpoint reason : String)
  | alreadyMounted (tag : String)
  | config (reason : String)
  | io (reason : String)
  | json (reason : String)
deriving DecidableEq

namespace Error

/-- The text of an error, its code first. -/
def message : Error → String
  | templateNotFound id => "[SKY-001] Template '" ++ id ++ "' is not registered"
  | templateParse path details =>
    "[SKY-002] Failed to parse template file '" ++ path ++ "': " ++ details
  | invalidTemplateId id reason => "[SKY-003] Invalid template id '" ++ id ++ "': " ++ reason
  | missingLink tag => "[SKY-010] Host element <" ++ tag ++ "> has no embedded link"
  | invalidLink href reason => "[SKY-011] Invalid source link '" ++ href ++ "': " ++ reason
  | remoteFetch endpoint reason => "[SKY-020] Request to " ++ endpoint ++ " failed: " ++ reason
  | invalidResponse endpoint reason =>
    "[SKY-021] Invalid response from " ++ endpoint ++ ": " ++ reason
  | alreadyMounted tag => "[SKY-030] <" ++ tag ++ "> is already mounted"
  | config reason => "[SKY-040] Configuration error: " ++ reason
  | io reason => "[SKY-041] IO error: " ++ reason
  | json reason => "[SKY-042] JSON error: " ++ reason

/-- What to try about an error. -/
def advice : Error → String
  | templateNotFound _ =>
    "Register the template id, or drop the template attribute to use '<tag>-template'"
  | templateParse _ _ => "Check YAML syntax: each template needs an id and a list of nodes"
  | invalidTemplateId _ _ =>
    "Use lowercase letters, digits and dashes, e.g. 'compact-post-template'"
  | missingLink _ =>
    "Embed an <a href=\"https://bsky.app/profile/<user>/post/<id>\"> in the host"
  | invalidLink _ _ => "Use an absolute URL including the scheme"
  | remoteFetch _ _ => "Check network access and the api_base setting"
  | invalidResponse _ _ => "Verify the api_base points at an XRPC AppView"
  | alreadyMounted _ => "Create a new PostEmbed per render"
  | config _ => "Check ~/.config/skyslot/config.toml and SKYSLOT_* environment variables"
  | io _ => "Check file path and permissions"
  | json _ => "Ensure the input is valid JSON (try parsing with jq)"

end Error

/-! ## What comes to a good end -/

theorem bind_eq_ok_iff {ε α β : Type} {x : Except ε α} {f : α → Except ε β} {b : β} :
    (x >>= f) = .ok b ↔ ∃ a, x = .ok a ∧ f a = .ok b := by
  cases x with
  | error e => exact ⟨nofun, fun ⟨_, h, _⟩ => by cases h⟩
  | ok a => exact ⟨fun h => ⟨a, rfl, h⟩, fun ⟨_, h, hf⟩ => by cases h; exact hf⟩

theorem mapError_eq_ok_iff {ε ε' α : Type} {x : Except ε α} {f : ε → ε'} {a : α} :
    x.mapError f = .ok a ↔ x = .ok a := by
  cases x with
  | error e => exact ⟨nofun, nofun⟩
  | ok b => exact ⟨fun h => by cases h; rfl, fun h => by cases h; rfl⟩

end PostSlots
