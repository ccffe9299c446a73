import PostSlots.Binding.Bind
import PostSlots.Post.Acquire
import PostSlots.Template.Builtin

/-!
# Embeds

An embed is a host element that renders one post once: it copies its template, acquires the record
of its link and binds it. An embed whose acquisition fails renders nothing, and never will.
-/

namespace PostSlots

/-- A host element in a page. -/
structure HostElement where
  tag : String
  template : Option String
  link : Option String
deriving DecidableEq

/-- How far an embed has come. -/
inductive Stage where
  | unmounted
  | acquiring
  | bound
deriving DecidableEq

def Stage.name : Stage → String
  | unmounted => "unmounted"
  | acquiring => "acquiring"
  | bound => "bound"

/-- A bound fragment and what the binding did. -/
structure Rendered where
  fragment : Fragment
  report : BindReport
deriving DecidableEq

/-- A host element on its way. -/
structure Embed where
  host : HostElement
  stage : Stage
deriving DecidableEq

namespace Embed

def ofHost (host : HostElement) : Embed := ⟨host, .unmounted⟩

/-- The record of a host's link. -/
def acquire (host : HostElement) (apiBase : Option String) : Acquiring (Except Error Record) :=
  match host.link with
  | none => .done (.error (.missingLink host.tag))
  | some href =>
    match PostLink.parse href with
    | .error e => .done (.error e)
    | .ok link => Post.acquire apiBase link

/-- Renders a record into a copy of the template. -/
def render (content : Fragment) (record : Record) : Rendered :=
  let (fragment, report) := content.bind Slot.defaultMarker record
  ⟨fragment, report⟩

/-- Mounts an embed. The template is looked up first: without it nothing is asked, and the embed
can be mounted later. -/
def mount (e : Embed) (registry : Registry) (apiBase : Option String) :
    Acquiring (Except Error Rendered × Embed) :=
  if e.stage ≠ .unmounted then .done (.error (.alreadyMounted e.host.tag), e)
  else match registry.instantiate e.host.template e.host.tag with
    | .error error => .done (.error error, e)
    | .ok content =>
      (acquire e.host apiBase).bind fun
        | .error error => .done (.error error, { e with stage := .acquiring })
        | .ok record => .done (.ok (render content record), { e with stage := .bound })

end Embed

end PostSlots
