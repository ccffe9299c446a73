import PostSlots.Settings.Environment
import PostSlots.Text.Cut

/-!
# Where settings are kept

Settings are kept in a file of their own in the directory for the settings of all programs.
-/

namespace PostSlots.Settings

/-- The path of a name in a directory. -/
def joinPath (directory name : String) : String :=
  if directory.toList.getLast? = some '/' then directory ++ name else directory ++ "/" ++ name

/-- A directory and all above it, the lowest one first. -/
def upwards (directory : String) : List String :=
  let names := (Text.tokens (· == '/') directory.toList).map String.ofList
  (List.range (names.length + 1)).reverse.map fun n => "/" ++ "/".intercalate (names.take n)

/-- The directory of the settings: below an absolute `XDG_CONFIG_HOME`, or else below the home
directory. -/
def directory (env : Environment) : String :=
  let base := match (env.get? "XDG_CONFIG_HOME").filter (·.toList.head? = some '/') with
    | some base => base
    | none =>
      match env.nonempty? "HOME" with
      | some home => joinPath home ".config"
      | none => "."
  joinPath base "skyslot"

/-- The file of the settings. -/
def defaultPath (env : Environment) : String := joinPath (directory env) "config.toml"

example : defaultPath ⟨[("HOME", "/h"), ("XDG_CONFIG_HOME", "/x/")]⟩ = "/x/skyslot/config.toml" ∧
    defaultPath ⟨[("HOME", "/"), ("XDG_CONFIG_HOME", "x")]⟩ = "/.config/skyslot/config.toml" := by
  decide +kernel

example : upwards "/a/b" = ["/a/b", "/a", "/"] := by decide +kernel

end PostSlots.Settings
