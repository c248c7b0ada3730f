import Scrutineer.Text.Split

/-! The words of the command line. The first word that is not an option names a
command; options may stand in front of it as far as they are known everywhere, and
behind it. Words are taken from left to right and the first fault decides; asking for
help or for the version ends the reading like a fault does. -/

namespace Scrutineer

inductive OutputFormat where
  | text
  | json
deriving DecidableEq

inductive Command where
  | evaluate (craft rules : String) (format : OutputFormat) (trace : Bool)
  | check (rules : String)
  | strategies
deriving DecidableEq

structure Invocation where
  logLevel : Option String
  command : Command
deriving DecidableEq

inductive UsageError where
  | unknownArgument
  | invalidSubcommand
  | missingSubcommand
  | missingRequiredArgument
  | missingEverything
  | invalidValue
  | argumentConflict
  | tooManyValues
  | helpRequested
  | versionRequested
deriving DecidableEq

/-! ### Options -/

inductive CommandOption where
  | craft
  | rules
  | format
  | trace
  | logLevel
  | help
  | version
deriving DecidableEq

namespace CommandOption

def longName : CommandOption → String
  | .craft => "craft"
  | .rules => "rules"
  | .format => "format"
  | .trace => "trace"
  | .logLevel => "log-level"
  | .help => "help"
  | .version => "version"

def letter? : CommandOption → Option Char
  | .craft => some 'c'
  | .rules => some 'r'
  | .format => some 'f'
  | .trace => none
  | .logLevel => some 'l'
  | .help => some 'h'
  | .version => some 'V'

def takesValue : CommandOption → Bool
  | .craft | .rules | .format | .logLevel => true
  | .trace | .help | .version => false

def accepts (option : CommandOption) (value : String) : Bool :=
  match option with
  | .craft | .rules => value != ""
  | .format => value == "text" || value == "json"
  | _ => true

end CommandOption

/-! ### Commands -/

inductive CommandLevel where
  | top
  | evaluate
  | check
  | strategies
deriving DecidableEq

namespace CommandLevel

def options : CommandLevel → List CommandOption
  | .top => [.logLevel, .help, .version]
  | .evaluate => [.craft, .rules, .format, .trace, .logLevel, .help, .version]
  | .check => [.rules, .logLevel, .help, .version]
  | .strategies => [.logLevel, .help, .version]

def required : CommandLevel → List CommandOption
  | .evaluate => [.craft, .rules]
  | .check => [.rules]
  | _ => []

def ofName? (name : String) : Option CommandLevel :=
  [("evaluate", .evaluate), ("check", .check), ("strategies", .strategies)].lookup name

def long? (level : CommandLevel) (name : String) : Option CommandOption :=
  level.options.find? (·.longName == name)

def short? (level : CommandLevel) (letter : Char) : Option CommandOption :=
  level.options.find? (·.letter? == some letter)

end CommandLevel

/-! ### Reading words -/

/-- What the words have given so far: the options with their values, and an
option that waits to be taken in, with its value or still without. -/
structure Choices where
  given : List (CommandOption × String)
  waiting : Option (CommandOption × Option String)

namespace Choices

def none : Choices := { given := [], waiting := .none }

def take (given : List (CommandOption × String)) (option : CommandOption) (value : String) :
    Except UsageError (List (CommandOption × String)) :=
  match option with
  | .help => .error .helpRequested
  | .version => .error .versionRequested
  | other =>
      if (given.lookup other).isSome then .error .argumentConflict
      else if other.accepts value then .ok (given ++ [(other, value)])
      else .error .invalidValue

def settle (choices : Choices) : Except UsageError (List (CommandOption × String)) :=
  match choices.waiting with
  | .none => .ok choices.given
  | some (_, .none) => .error .invalidValue
  | some (option, some value) => take choices.given option value

def add (choices : Choices) (option : CommandOption) (value : String) :
    Except UsageError Choices := do
  let given ← take (← choices.settle) option value
  return { given, waiting := .none }

def await (choices : Choices) (option : CommandOption) : Except UsageError Choices := do
  return { given := ← choices.settle, waiting := some (option, .none) }

def expecting? (choices : Choices) : Option CommandOption :=
  match choices.waiting with
  | some (option, .none) => some option
  | _ => .none

end Choices

namespace CommandLevel

def readLong (level : CommandLevel) (choices : Choices) (characters : List Char) :
    Except UsageError Choices :=
  let (name, value) : String × Option String :=
    match Text.splitAtFirst? '=' characters with
    | some (before, after) => (String.ofList before, some (String.ofList after))
    | none => (String.ofList characters, none)
  match level.long? name, value with
  | none, _ => .error .unknownArgument
  | some option, none => if option.takesValue then choices.await option else choices.add option ""
  | some option, some value =>
      if option.takesValue then choices.add option value else .error .tooManyValues

def readShort (level : CommandLevel) (choices : Choices) : List Char → Except UsageError Choices
  | [] => .ok choices
  | letter :: rest =>
      match level.short? letter with
      | none => .error .unknownArgument
      | some option =>
          if option.takesValue then
            match rest with
            | [] => choices.await option
            | '=' :: value => choices.add option (String.ofList value)
            | value => choices.add option (String.ofList value)
          else do
            let next ← choices.add option ""
            readShort level next rest

def stray (level : CommandLevel) : UsageError :=
  match level with
  | .top => .invalidSubcommand
  | _ => .unknownArgument

def strayBehindEnd (level : CommandLevel) (word : String) : UsageError :=
  match level with
  | .top =>
      if (ofName? word).isSome || word == "help" then .unknownArgument else .invalidSubcommand
  | _ => .unknownArgument

/-- What the command `help` does with the words behind it: they must name a
command, or be no words. -/
def help : List String → UsageError
  | [] => .helpRequested
  | [name] =>
      if (ofName? name).isSome || name == "help" then .helpRequested else .invalidSubcommand
  | _ => .invalidSubcommand

/-- Reads words at a level. At the top level the reading ends at a command;
what follows it is left over. -/
def readWords (level : CommandLevel) (choices : Choices) :
    List String → Except UsageError (Choices × Option (CommandLevel × List String))
  | [] => .ok (choices, none)
  | word :: rest =>
      let expecting := choices.expecting?
      let command := if level = .top ∧ expecting = none then ofName? word else none
      match command with
      | some next => .ok (choices, some (next, rest))
      | none =>
          if level = .top ∧ expecting = none ∧ word = "help" then .error (help rest)
          else
            match word.toList, expecting with
            | ['-', '-'], _ =>
                match rest with
                | [] => .ok (choices, none)
                | next :: _ => .error (level.strayBehindEnd next)
            | '-' :: '-' :: characters, _ => do
                readWords level (← level.readLong choices characters) rest
            | '-' :: first :: characters, _ => do
                readWords level (← level.readShort choices (first :: characters)) rest
            | _, some option =>
                readWords level { choices with waiting := some (option, some word) } rest
            | _, none => .error level.stray

def command (level : CommandLevel) (given : List (CommandOption × String)) :
    Except UsageError Command :=
  let value (option : CommandOption) : String := (given.lookup option).getD ""
  if level.required.all fun option => (given.lookup option).isSome then
    match level with
    | .top => .error .missingSubcommand
    | .evaluate =>
        .ok (.evaluate (value .craft) (value .rules)
          (if value .format = "json" then .json else .text) (given.lookup .trace).isSome)
    | .check => .ok (.check (value .rules))
    | .strategies => .ok .strategies
  else .error .missingRequiredArgument

end CommandLevel

namespace Invocation

def ofWords (words : List String) : Except UsageError Invocation := do
  let (front, next) ← CommandLevel.top.readWords Choices.none words
  match next with
  | none =>
      if (← front.settle).isEmpty then .error .missingEverything else .error .missingSubcommand
  | some (level, rest) =>
      let (behind, _) ← level.readWords Choices.none rest
      let given ← behind.settle
      let command ← level.command given
      let outer ← front.settle
      return { logLevel := (given.lookup .logLevel).or (outer.lookup .logLevel), command }

end Invocation
end Scrutineer
