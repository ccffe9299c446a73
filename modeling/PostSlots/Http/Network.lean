import Std.Async.DNS
import Std.Async.TCP
import Std.Async.Timer
import Std.Net.Addr
import PostSlots.Http.Wire

/-!
# The network

Requests in the clear are sent over a connection of their own. All other requests count as lost. A
reply that meets an obstacle or takes too long is what has arrived of it by then.
-/

namespace PostSlots.Http.Network

open Std.Async

/-- The bytes that have arrived. -/
abbrev Arrived := IO.Ref Wire.Bytes

/-- Receives bytes up to the end of the reply. -/
partial def receive (socket : TCP.Socket.Client) (arrived : Arrived) : Async Reply := do
  match ← socket.recv? 65536 with
  | none =>
    let bytes ← arrived.get
    pure ((Wire.reply? true bytes).getD (Wire.brokenOff bytes))
  | some more =>
    arrived.modify (· ++ more.toList)
    match Wire.reply? false (← arrived.get) with
    | some reply => pure reply
    | none => receive socket arrived

/-- The first address of a host. -/
def resolve (host : String) (port : Nat) : Async Std.Net.SocketAddress := do
  let addresses : Array Std.Net.IPAddr ← DNS.getAddrInfo host "http"
  match addresses.toList with
  | .v4 address :: _ => pure (.v4 ⟨address, port.toUInt16⟩)
  | .v6 address :: _ => pure (.v6 ⟨address, port.toUInt16⟩)
  | [] => throw (IO.userError "no address")

/-- Sends a request and waits for the reply. -/
def exchange (g : Get) (arrived : Arrived) : Async Reply := do
  match Wire.endpoint? g with
  | none => pure .lost
  | some (host, port) =>
    let socket ← TCP.Socket.Client.mk
    socket.connect (← resolve host port)
    socket.send (Wire.requestText g).toUTF8
    receive socket arrived

/-- Sleeps for some seconds, after which no more bytes count. -/
def expire (seconds : Nat) (arrived : Arrived) : Async Reply := do
  let sleep ← Sleep.mk (.ofNat (1000 * min seconds 4000000))
  sleep.wait
  pure (Wire.brokenOff (← arrived.get))

instance : Inhabited Reply := ⟨.lost⟩

/-- Answers a request within some seconds. -/
def ask (seconds : Nat) (g : Get) : IO Reply := do
  let arrived ← IO.mkRef []
  try (Async.race (exchange g arrived) (expire seconds arrived)).block
  catch _ => pure (Wire.brokenOff (← arrived.get))

end PostSlots.Http.Network
