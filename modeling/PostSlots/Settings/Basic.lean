import PostSlots.Decimal.Numeral
import PostSlots.Error
import PostSlots.Files
import PostSlots.Settings.Environment
import PostSlots.Toml.Reader

/-!
# Settings

What a client is told: the base of its requests, how long it waits for an answer, and how it calls
itself. Each comes from the environment, a file or a default, in this order.
-/

namespace PostSlots

/-- What is told; the rest is left to the defaults. -/
structure Settings where
  apiBase : Option String
  timeoutSecs : Option Nat
  userAgent : Option String
deriving DecidableEq

namespace Settings

def unset : Settings := ⟨none, none, none⟩

/-! ## The file -/

/-- A field that holds a string if it is there. -/
def stringField (fields : Toml.Fields) (name : String) : Except String (Option String) :=
  match fields.lookup name with
  | none => .ok none
  | some (.string value) => .ok (some value)
  | some _ => .error ("'" ++ name ++ "' is not a string")

/-- A field that holds a whole number from zero on if it is there. -/
def wholeField (fields : Toml.Fields) (name : String) : Except String (Option Nat) :=
  match fields.lookup name with
  | none => .ok none
  | some (.integer (.ofNat n)) => .ok (some n)
  | some _ => .error ("'" ++ name ++ "' is not a whole number")

/-- The settings in a text. -/
def parse (text : String) : Except String Settings := do
  let fields ← (Toml.parse text).mapError Toml.Fault.text
  pure ⟨← stringField fields "api_base", ← wholeField fields "timeout_secs",
    ← stringField fields "user_agent"⟩

/-- The settings in a file. A path that leads nowhere, for whatever reason, leaves all to the
defaults. -/
def load (disk : Disk) (path : String) : Except Error Settings :=
  match disk path with
  | .error (.missing _) => .ok unset
  | .error (.unreadable fault) =>
    .error (.config ("Failed to read config file: " ++ fault.text))
  | .ok text =>
    (parse text).mapError fun details => .config ("Failed to parse config file: " ++ details)

/-! ## The environment -/

/-- The time limit that the environment sets, if it does. -/
def timeoutIn (env : Environment) : Except Error (Option Nat) :=
  match env.get? "SKYSLOT_TIMEOUT_SECS" with
  | none => .ok none
  | some text =>
    match Decimal.readWord? text.toList with
    | some secs => .ok (some secs)
    | none =>
      .error (.config ("SKYSLOT_TIMEOUT_SECS must be a whole number, got '" ++ text ++ "'"))

/-- Lets the environment decide where it sets something. -/
def withEnvironment (s : Settings) (env : Environment) : Except Error Settings := do
  pure ⟨(env.nonempty? "SKYSLOT_API_BASE").or s.apiBase,
    (← timeoutIn env).or s.timeoutSecs,
    (env.nonempty? "SKYSLOT_USER_AGENT").or s.userAgent⟩

/-! ## The defaults -/

def defaultTimeoutSecs : Nat := 30

def defaultUserAgent : String := "skyslot/0.1.0"

/-- How long a client waits for an answer. -/
def effectiveTimeoutSecs (s : Settings) : Nat := s.timeoutSecs.getD defaultTimeoutSecs

/-- How a client calls itself. -/
def effectiveUserAgent (s : Settings) : String := s.userAgent.getD defaultUserAgent

end Settings

end PostSlots
