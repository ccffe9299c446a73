import PostSlots.Command.Grammar
import PostSlots.Template.Builtin

/-!
# Command lines

The three commands of the program and how they are written.
-/

namespace PostSlots

namespace Command

/-- How a post is to be rendered. -/
structure RenderOptions where
  href : String
  tag : String
  template : Option String
  templates : Option String
  apiBase : Option String
  config : Option String
deriving DecidableEq

end Command

/-- What the program is asked to do. -/
inductive Command where
  | help
  | version
  | render (options : Command.RenderOptions)
  | resolve (expression file : String)
  | templates (file : Option String)
deriving DecidableEq

namespace Command

def renderGrammar : Grammar where
  options := [⟨"tag", none, false⟩, ⟨"template", some 't', false⟩, ⟨"templates", none, true⟩,
    ⟨"api-base", none, false⟩, ⟨"config", some 'c', true⟩]
  arguments := [⟨"HREF", none, false⟩]

def resolveGrammar : Grammar where
  options := []
  arguments := [⟨"EXPRESSION", none, false⟩, ⟨"FILE", none, true⟩]

def templatesGrammar : Grammar where
  options := [⟨"templates", none, true⟩]
  arguments := []

/-- The grammars of the commands, and what each makes of what is given to it. -/
def grammars : List (String × Grammar × (Given → Command)) :=
  [("render", renderGrammar, fun given =>
      let option (name : String) : Option String := given.options.lookup name
      .render ⟨given.arguments.head?.getD "", (option "tag").getD Template.defaultTag,
        option "template", option "templates", option "api-base", option "config"⟩),
    ("resolve", resolveGrammar, fun given =>
      .resolve (given.arguments.head?.getD "") ((given.arguments[1]?).getD "")),
    ("templates", templatesGrammar, fun given => .templates (given.options.lookup "templates"))]

/-- Whether a word in the place of the command asks for the version. -/
def asksVersion : Word → Bool
  | .long name value => name == "version" && value.isNone
  | .letter c _ => c == 'V'
  | .argument _ => false

/-- Reads a line whose first word is no command: it may ask for the version or for help, with the
word `help` also for the help of a command. -/
def parseOther (word : String) (words : List String) : Except UsageFault Command :=
  match Word.ofString word with
  | .argument _ =>
    let isTopic : Bool := match words with
      | [] => true
      | [topic] => topic == "help" || (grammars.lookup topic).isSome
      | _ => false
    if word = "help" ∧ isTopic then .ok .help else .error (.unknownCommand word)
  | option =>
    if asksVersion option then .ok .version
    else if Grammar.asksHelp option then .ok .help
    else .error (.unknownOption word)

/-- Reads a command line without the name of the program. -/
def parse : List String → Except UsageFault Command
  | [] => .error .noCommand
  | word :: words =>
    match grammars.lookup word with
    | none => parseOther word words
    | some (grammar, make) => do
      let given ← grammar.read words
      pure (if given.help then .help else make given)

example : (parse ["resolve", "--", "-1", "f"]).toOption = some (.resolve "-1" "f") := by
  decide +kernel

example : (parse ["templates", "--templates", "-x"]).toOption = none ∧
    (parse ["templates", "--templates=-x"]).toOption = some (.templates (some "-x")) := by
  decide +kernel

end Command

end PostSlots
