import PostSlots.Command.Line
import PostSlots.Dom.Html
import PostSlots.Embed
import PostSlots.Http.Client
import PostSlots.Settings.Basic
import PostSlots.Settings.EnvFile
import PostSlots.Settings.Location
import PostSlots.Template.File

/-!
# Running commands

A command sees files and an environment, may ask servers, and prints a text or fails.
-/

namespace PostSlots

/-- What a command sees. -/
structure Surroundings where
  disk : Disk
  environment : Environment

/-- What a run of the program comes to. -/
inductive Report where
  | printed (text : String)
  | failed (error : Error)
  | misused (fault : Command.UsageFault)
deriving DecidableEq

namespace Report

/-- The code that the program ends with. -/
def code : Report → Nat
  | printed _ => 0
  | failed _ => 1
  | misused _ => 2

/-- What the program prints if all goes well. -/
def output : Report → String
  | printed text => text
  | failed _ | misused _ => ""

/-- What the program says about a failure. -/
def complaint : Report → String
  | printed _ => ""
  | failed error => "Error: " ++ error.message ++ "\n  Fix: " ++ error.advice ++ "\n"
  | misused fault => "error: " ++ fault.text ++ "\n"

end Report

/-- Surroundings whose environment is completed by the text of an environment file. -/
def Surroundings.withEnvFile (s : Surroundings) (text : String) : Surroundings :=
  { s with environment := EnvFile.addText s.environment text }

namespace Command

def versionText : String := "skyslot 0.1.0\n"

def helpText : String :=
  "Render Bluesky posts into declarative HTML templates\n\n" ++
  "Usage: skyslot <COMMAND>\n\n" ++
  "Commands:\n" ++
  "  render     Fetch a post and print the bound template as HTML\n" ++
  "  resolve    Resolve a path expression against a JSON file\n" ++
  "  templates  List registered template ids\n\n" ++
  "Options of render HREF:\n" ++
  "      --tag <TAG>            Host tag name\n" ++
  "  -t, --template <TEMPLATE>  Template id to use instead of <tag>-template\n" ++
  "      --templates <FILE>     YAML file with extra templates\n" ++
  "      --api-base <URL>       XRPC base URL\n" ++
  "  -c, --config <FILE>        Config file\n"

/-- The templates of a file, if one is given, and then the built-in one, which does not replace a
template of the file. -/
def buildRegistry (disk : Disk) (file : Option String) : Except Error Registry := do
  let fromFile ← match file with
    | none => pure Registry.empty
    | some path =>
      match Registry.empty.loadFile disk path with
      | (.ok _, r) => pure r
      | (.error e, _) => throw e
  pure (← fromFile.register Template.post).2

/-- The file that settings are read from. -/
def settingsPath (s : Surroundings) (o : RenderOptions) : String :=
  o.config.getD (Settings.defaultPath s.environment)

/-- The settings of a run. The command line decides over the base. -/
def settingsFor (s : Surroundings) (o : RenderOptions) : Except Error Settings := do
  let settings ← (← Settings.load s.disk (settingsPath s o)).withEnvironment s.environment
  pure { settings with apiBase := o.apiBase.or settings.apiBase }

/-- What a run needs before it asks anything. -/
structure Preparation where
  settings : Settings
  registry : Registry
  client : Http.Client

/-- Checks and reads all that is at hand, in order. -/
def prepare (s : Surroundings) (o : RenderOptions) : Except Error Preparation := do
  let settings ← settingsFor s o
  TemplateName.checkTag o.tag
  let registry ← buildRegistry s.disk o.templates
  let client ← Http.Client.ofUserAgent settings.effectiveUserAgent
  pure ⟨settings, registry, client⟩

/-- The line that a rendered post makes. -/
def pageOf (rendered : Rendered) : String := rendered.fragment.html ++ "\n"

/-- Renders a post. -/
def renderPost (s : Surroundings) (o : RenderOptions) : Http.Exchange (Except Error String) :=
  match prepare s o with
  | .error e => .done (.error e)
  | .ok p =>
    let embed := Embed.ofHost ⟨o.tag, o.template, some o.href⟩
    ((embed.mount p.registry p.settings.apiBase).refine p.client.fetch).bind fun (result, _) =>
      .done (result.map pageOf)

/-- Shows the value at a place in a file. -/
def resolveIn (s : Surroundings) (expression file : String) : Except Error String := do
  let text ← (s.disk file).mapError fun fault => .io fault.text
  let value ← (Json.parse text).mapError fun fault => .json fault.message
  pure ((SlotValue.classify (KeyPath.resolve expression value)).display ++ "\n")

/-- Lists the ids of all templates, a line each. -/
def listTemplates (s : Surroundings) (file : Option String) : Except Error String := do
  let registry ← buildRegistry s.disk file
  pure (String.join (registry.ids.map fun id => "• " ++ id ++ "\n"))

/-- What a command prints. -/
def run (s : Surroundings) : Command → Http.Exchange (Except Error String)
  | help => .done (.ok helpText)
  | version => .done (.ok versionText)
  | render options => renderPost s options
  | resolve expression file => .done (resolveIn s expression file)
  | templates file => .done (listTemplates s file)

/-- The files that a command reads. -/
def files (s : Surroundings) : Command → List String
  | help | version => []
  | render options => settingsPath s options :: options.templates.toList
  | resolve _ file => [file]
  | templates file => file.toList

/-- Runs a command line. -/
def runLine (s : Surroundings) (words : List String) : Http.Exchange Report :=
  match parse words with
  | .error fault => .done (.misused fault)
  | .ok command =>
    (command.run s).bind fun
      | .ok text => .done (.printed text)
      | .error e => .done (.failed e)

end Command

end PostSlots
