import PostSlots.Command.Run
import PostSlots.Http.Network

/-!
# The program

Reads what a command names, runs it and prints what it comes to.
-/

namespace PostSlots

/-- The number and the wording of an error of the system. -/
def codeOf (e : IO.Error) : Nat × String :=
  let numbered (code : UInt32) (details : String) : Nat × String :=
    let code := code.toInt32.toInt.natAbs
    (code, details ++ " (os error " ++ toString code ++ ")")
  match e with
  | .noFileOrDirectory _ code details | .inappropriateType _ code details
  | .invalidArgument _ code details | .permissionDenied _ code details
  | .resourceExhausted _ code details | .noSuchThing _ code details
  | .otherError code details => numbered code details
  | e => (0, toString e)

/-- Why a path leads nowhere. -/
def pathFaultOf (e : IO.Error) : PathFault :=
  match codeOf e with
  | (2, _) => .notFound
  | (13, _) => .notSearchable
  | (20, _) => .notDirectory
  | (36, _) => .nameTooLong
  | (40, _) => .linkLoop
  | (_, text) => .other text

/-- Why what is found cannot be read. -/
def readFaultOf (e : IO.Error) : ReadFault :=
  match codeOf e with
  | (13, _) => .denied
  | (21, _) => .isDirectory
  | (_, text) => .other text

/-- The text of a file. Where reading fails, it is asked whether there is something at all. -/
def readText (path : String) : IO (Except FileFault String) := do
  try
    match String.fromUTF8? (← IO.FS.readBinFile path) with
    | some text => pure (.ok text)
    | none => pure (.error (.unreadable .notText))
  catch e =>
    let found ← (System.mkFilePath [path]).pathExists
    pure (.error (if found then .unreadable (readFaultOf e) else .missing (pathFaultOf e)))

/-- The files of a command, read beforehand. -/
def readDisk (paths : List String) : IO Disk := do
  let entries ← paths.mapM fun path => do pure (path, ← readText path)
  pure fun path => (entries.lookup path).getD (.error (.missing .notFound))

/-- The variables of some names. -/
def readVariables (names : List String) : IO Environment := do
  let found ← names.filterMapM fun name => do pure ((← IO.getEnv name).map (name, ·))
  pure ⟨found⟩

/-- The variables that settings depend on. -/
def knownVariables : List String :=
  ["HOME", "XDG_CONFIG_HOME", "SKYSLOT_API_BASE", "SKYSLOT_TIMEOUT_SECS", "SKYSLOT_USER_AGENT"]

/-- The text of the nearest environment file, in the current directory or above it. -/
def readEnvFile : IO String := do
  for directory in Settings.upwards (← IO.currentDir).toString do
    try return EnvFile.textOf (← IO.FS.readBinFile (Settings.joinPath directory ".env"))
    catch _ => pure ()
  return ""

/-- The time limit of a command's requests. -/
def timeoutOf (s : Surroundings) : Command → Nat
  | .render options =>
    match Command.settingsFor s options with
    | .ok settings => settings.effectiveTimeoutSecs
    | .error _ => Settings.defaultTimeoutSecs
  | _ => Settings.defaultTimeoutSecs

/-- The surroundings of a run, before the files of its command are read. -/
def readSurroundings : IO Surroundings := do
  let text ← readEnvFile
  let environment ← readVariables (knownVariables ++ EnvFile.namesIn text)
  let none : Surroundings := ⟨fun _ => .error (.missing .notFound), environment⟩
  pure (none.withEnvFile text)

end PostSlots

open PostSlots

/-- Runs the program. -/
def main (args : List String) : IO UInt32 := do
  let s ← readSurroundings
  let command := (Command.parse args).toOption
  let s := { s with disk := ← readDisk ((command.map (Command.files s)).getD []) }
  let seconds := (command.map (timeoutOf s)).getD 0
  let report ← (Command.runLine s args).perform (Http.Network.ask seconds)
  IO.print report.output
  IO.eprint report.complaint
  pure report.code.toUInt32
