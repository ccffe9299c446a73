/-!
# Grammars of command lines

A command has options, each with a value, and arguments in a fixed order. Options are written
`--name value`, `--name=value`, `-n value`, `-nvalue` or `-n=value`, may stand anywhere and are
given at most once. Behind `--` there are arguments only.
-/

namespace PostSlots.Command

/-- What is wrong with a command line. -/
inductive UsageFault where
  | noCommand
  | unknownCommand (word : String)
  | unknownOption (word : String)
  | missingValue (option : String)
  | emptyValue (place : String)
  | repeated (option : String)
  | missingArgument (name : String)
  | extraArgument (word : String)
deriving DecidableEq

/-- The wording of a fault. -/
def UsageFault.text : UsageFault → String
  | noCommand => "a command is required"
  | unknownCommand word => "unrecognized command '" ++ word ++ "'"
  | unknownOption word => "unexpected option '" ++ word ++ "'"
  | missingValue option => "a value is required for '--" ++ option ++ "'"
  | emptyValue place => "the value of '" ++ place ++ "' must not be empty"
  | repeated option => "the option '--" ++ option ++ "' cannot be given twice"
  | missingArgument name => "the argument '" ++ name ++ "' is required"
  | extraArgument word => "unexpected argument '" ++ word ++ "'"

/-- An option, or an argument without a letter. A path must not be empty. -/
structure Place where
  name : String
  letter : Option Char
  isPath : Bool

/-- The options and arguments of a command. -/
structure Grammar where
  options : List Place
  arguments : List Place

/-- A word of a command line. -/
inductive Word where
  | argument (text : String)
  | long (name : String) (value : Option String)
  | letter (c : Char) (value : Option String)
deriving DecidableEq

/-- The value behind an equals sign, if there is one. -/
def splitValue (cs : List Char) : String × Option String :=
  (String.ofList (cs.takeWhile (· != '=')),
    match cs.dropWhile (· != '=') with
    | _ :: value => some (String.ofList value)
    | [] => none)

/-- The value that follows a letter in the same word. -/
def attached : List Char → Option String
  | [] => none
  | '=' :: cs => some (String.ofList cs)
  | cs => some (String.ofList cs)

/-- Tells what a word is. A lone dash is an argument. -/
def Word.ofString (word : String) : Word :=
  match word.toList with
  | '-' :: '-' :: cs =>
    let (name, value) := splitValue cs
    .long name value
  | '-' :: c :: cs => .letter c (attached cs)
  | _ => .argument word

/-- What a command line gives. `help` tells that it asks for help. -/
structure Given where
  options : List (String × String)
  arguments : List String
  help : Bool
deriving DecidableEq

namespace Grammar

/-- A value for a place. -/
def checkValue (place : Place) (value : String) : Except UsageFault String :=
  if place.isPath && value.isEmpty then .error (.emptyValue place.name) else .ok value

/-- Notes the value of an option. -/
def give (place : Place) (value : String) (g : Given) : Except UsageFault Given := do
  if (g.options.lookup place.name).isSome then throw (.repeated place.name)
  pure { g with options := g.options ++ [(place.name, ← checkValue place value)] }

/-- The option that a word names, if it is one, and the value that the word holds. -/
def option? (g : Grammar) : Word → Option (Place × Option String)
  | .argument _ => none
  | .long name value => (g.options.find? (·.name == name)).map (·, value)
  | .letter c value => (g.options.find? (·.letter == some c)).map (·, value)

/-- Whether a word asks for help. -/
def asksHelp : Word → Bool
  | .long name value => name == "help" && value.isNone
  | .letter c _ => c == 'h'
  | .argument _ => false

/-- Sorts the words of a command line. -/
def scan (g : Grammar) : List String → Given → Except UsageFault Given
  | [], given => .ok given
  | "--" :: words, given => .ok { given with arguments := given.arguments ++ words }
  | word :: words, given =>
    match Word.ofString word, g.option? (Word.ofString word), words with
    | .argument text, _, words => scan g words { given with arguments := given.arguments ++ [text] }
    | _, some (place, some value), words => do scan g words (← give place value given)
    | _, some (place, none), value :: words =>
      match Word.ofString value with
      | .argument value => do scan g words (← give place value given)
      | _ => .error (.missingValue place.name)
    | _, some (place, none), [] => .error (.missingValue place.name)
    | w, none, _ =>
      if asksHelp w then .ok { given with help := true } else .error (.unknownOption word)

/-- The values of the arguments, in order. -/
def fill : List Place → List String → Except UsageFault (List String)
  | [], [] => .ok []
  | [], word :: _ => .error (.extraArgument word)
  | place :: _, [] => .error (.missingArgument place.name)
  | place :: places, word :: words => do
    pure ((← checkValue place word) :: (← fill places words))

/-- Reads a command line in full. -/
def read (g : Grammar) (words : List String) : Except UsageFault Given := do
  let given ← g.scan words ⟨[], [], false⟩
  if given.help then pure given
  else pure { given with arguments := ← fill g.arguments given.arguments }

end Grammar

end PostSlots.Command
