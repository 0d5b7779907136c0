import TreeGrammar.CommandLine.Help
import TreeGrammar.Text.Digit
set_option autoImplicit false

namespace TreeGrammar

namespace CommandLine

inductive Stop where
  | usage (detail : String)
  | help (topic : Topic)
  | version
deriving DecidableEq

structure OptionSpec where
  long : String
  short : Char
  accepts : String → Bool

inductive Shape where
  | plain
  | separator
  | long (name : String) (value : Option String)
  | short (letter : Char) (value : Option String)

def shape (word : String) : Shape :=
  match word.toList with
  | ['-', '-'] => .separator
  | '-' :: '-' :: rest =>
    let name := String.ofList (rest.takeWhile (· ≠ '='))
    match rest.dropWhile (· ≠ '=') with
    | [] => .long name none
    | _ :: value => .long name (some (String.ofList value))
  | '-' :: letter :: rest =>
    match rest with
    | [] => .short letter none
    | '=' :: value => .short letter (some (String.ofList value))
    | value => .short letter (some (String.ofList value))
  | _ => .plain

structure Given where
  path : Option String
  options : List (String × String)

namespace Given

def option? (given : Given) (long : String) : Option String := given.options.lookup long

def take (given : Given) (spec : OptionSpec) (value : String) : Except Stop Given :=
  if !spec.accepts value then
    .error (.usage ("invalid value '" ++ value ++ "' for '--" ++ spec.long ++ "'"))
  else if (given.option? spec.long).isSome then
    .error (.usage ("the argument '--" ++ spec.long ++ "' cannot be used multiple times"))
  else .ok { given with options := (spec.long, value) :: given.options }

def unexpected (word : String) : Stop := .usage ("unexpected argument '" ++ word ++ "' found")

def takePath (given : Given) (topic : Topic) (word : String) : Except Stop Given :=
  if topic = .listFormats ∨ given.path.isSome then .error (unexpected word)
  else .ok { given with path := some word }

-- `open'` is an option that still needs its value; `plain` is set after the separator.
def collect (topic : Topic) (specs : List OptionSpec) (given : Given)
    (open' : Option OptionSpec) (plain : Bool) : List String → Except Stop Given
  | [] =>
    match open' with
    | none => .ok given
    | some spec => .error (.usage ("a value is required for '--" ++ spec.long ++ "'"))
  | word :: rest =>
    let option (spec? : Option OptionSpec) (value? : Option String) : Except Stop Given :=
      match open', spec?, value? with
      | none, some spec, none => collect topic specs given (some spec) false rest
      | none, some spec, some value => do
        collect topic specs (← given.take spec value) none false rest
      | _, _, _ => .error (unexpected word)
    match (if plain then .plain else shape word) with
    | .plain =>
      match open' with
      | some spec => do collect topic specs (← given.take spec word) none plain rest
      | none => do collect topic specs (← given.takePath topic word) none plain rest
    | .separator =>
      match open' with
      | some spec => .error (.usage ("a value is required for '--" ++ spec.long ++ "'"))
      | none => collect topic specs given none true rest
    | .long name value =>
      if open'.isNone ∧ name = "help" ∧ value.isNone then .error (.help topic)
      else option (specs.find? (·.long = name)) value
    | .short letter value =>
      if open'.isNone ∧ letter = 'h' then .error (.help topic)
      else option (specs.find? (·.short = letter)) value

end Given

inductive DumpFormat where
  | text
  | yaml
  | json
deriving DecidableEq

def DumpFormat.ofName? (name : String) : Option DumpFormat :=
  if name = "bf" then some .text
  else if name = "yaml" then some .yaml
  else if name = "json" then some .json
  else none

structure GenerateOptions where
  root : Option String
  seed : Option Nat
  config : Option String
  format : String
  count : Nat
deriving DecidableEq

inductive Command where
  | check (path : String)
  | generate (path : String) (options : GenerateOptions)
  | dump (path : String) (format : DumpFormat)
  | contexts (path : String)
  | listFormats
deriving DecidableEq

def word64? (text : String) : Option Nat := Text.natBelow? (Nat.pow 2 64) text.toList

def specs : Topic → List OptionSpec
  | .generate => [
      ⟨"root", 'r', fun _ => true⟩,
      ⟨"seed", 's', fun value => (word64? value).isSome⟩,
      ⟨"config", 'c', fun _ => true⟩,
      ⟨"format", 'f', fun _ => true⟩,
      ⟨"count", 'n', fun value => (word64? value).isSome⟩]
  | .dump => [⟨"format", 'f', fun value => (DumpFormat.ofName? value).isSome⟩]
  | _ => []

def readCommand (topic : Topic) (words : List String) : Except Stop Command := do
  let given ← Given.collect topic (specs topic) ⟨none, []⟩ none false words
  match topic, given.path with
  | .listFormats, _ => return .listFormats
  | .check, some path => return .check path
  | .contexts, some path => return .contexts path
  | .dump, some path =>
    return .dump path (((given.option? "format").bind DumpFormat.ofName?).getD .text)
  | .generate, some path =>
    return .generate path {
      root := given.option? "root"
      seed := (given.option? "seed").bind word64?
      config := given.option? "config"
      format := (given.option? "format").getD "treeviz"
      count := ((given.option? "count").bind word64?).getD 1 }
  | _, _ => throw (.usage "the following required arguments were not provided:\n  <path>")

def helpTopic : List String → Stop
  | [] => .help .program
  | [name] =>
    if name = "help" then .help .helping
    else
      match Topic.ofName? name with
      | some topic => .help topic
      | none => .usage ("unrecognized subcommand '" ++ name ++ "'")
  | _ :: name :: _ => .usage ("unrecognized subcommand '" ++ name ++ "'")

def readWords (words : List String) : Except Stop Command :=
  match words with
  | [] => .error (.usage "a subcommand is required")
  | first :: rest =>
    match shape first with
    | .plain =>
      if first = "help" then .error (helpTopic rest)
      else
        match Topic.ofName? first with
        | some topic => readCommand topic rest
        | none => .error (.usage ("unrecognized subcommand '" ++ first ++ "'"))
    | .long "help" none | .short 'h' _ => .error (.help .program)
    | .long "version" none | .short 'V' _ => .error .version
    | _ => .error (Given.unexpected first)

end CommandLine

end TreeGrammar
