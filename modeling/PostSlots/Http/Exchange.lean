import PostSlots.Dialogue
import PostSlots.Http.Reference

/-!
# Exchanges with servers

A client asks a server for what is at a place. It gets a reply, of which only the beginning may
arrive, or loses the connection before one has begun.
-/

namespace PostSlots.Http

/-- What a client asks for, and how it calls itself. -/
structure Get where
  place : Reference
  userAgent : String
deriving DecidableEq

/-- What a client gets. A reply that breaks off in its body has none, and neither has one whose body
is no text. -/
inductive Reply where
  | lost
  | answer (status : Nat) (location : Option String) (body : Option String)
deriving DecidableEq

/-- A computation that asks servers. -/
abbrev Exchange := Dialogue Get Reply

end PostSlots.Http
