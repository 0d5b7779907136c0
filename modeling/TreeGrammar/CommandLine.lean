import TreeGrammar.CommandLine.Arguments
import TreeGrammar.CommandLine.Files
import TreeGrammar.Definition.Building
import TreeGrammar.Definition.Contexts
import TreeGrammar.Definition.Json
import TreeGrammar.Definition.Yaml
import TreeGrammar.Format.Registry
import TreeGrammar.Generation
import TreeGrammar.Settings.Loading
import TreeGrammar.Strategy.Random
set_option autoImplicit false

namespace TreeGrammar

namespace CommandLine

def loadDefinition (files : Files) (path : String) : Except String Definition :=
  match (files path).contents with
  | .error detail => .error ("reading " ++ path ++ ": " ++ detail)
  | .ok text =>
    match Definition.parse path text with
    | .error error => .error error.message
    | .ok definition => .ok definition

def settingsFile : String := "bf.toml"

def settingsPaths (path : String) : List String :=
  path :: ((namePath? path).map (· ++ ".toml")).toList

-- A file whose bytes are no text counts as missing.
def settingsLayer (files : Files) (path : String) (optional : Bool) : SettingsLayer :=
  match ((settingsPaths path).map files).find? FileReading.isFile with
  | some (.text contents) => .file contents
  | _ => .missingFile optional

def loadSettings (files : Files) (path : Option String) : Except String Settings :=
  let layer := match path with
    | some path => settingsLayer files path false
    | none => settingsLayer files settingsFile true
  match Settings.load [layer] with
  | .ok settings => .ok settings
  | .error _ => .error "loading configuration: the configuration is missing or invalid"

abbrev Printing := EStateM String String

def print (text : String) : Printing Unit := modify (· ++ text)

def printLine (text : String) : Printing Unit := print (text ++ "\n")

def attempt {α : Type} : Except String α → Printing α
  | .ok value => return value
  | .error detail => throw detail

def check (definition : Definition) : Printing Unit := do
  let roots := definition.roots.map Statement.name
  printLine ("ok: " ++ toString definition.size ++ " statements")
  if !roots.isEmpty then
    printLine ("roots: " ++ ", ".intercalate roots)

def dump (definition : Definition) : DumpFormat → Printing Unit
  | .text => print definition.text
  | .yaml => print definition.toYaml
  | .json => print (definition.toJson.pretty ++ "\n")

def contexts (definition : Definition) : Printing Unit :=
  definition.contexts.entries.forM fun (name, sources) =>
    printLine (name ++ " <- " ++
      ", ".intercalate (sources.entries.map fun (source, tags) => source ++ " [" ++ tags.text ++ "]"))

def listFormats (registry : Registry) : Printing Unit := do
  printLine "Available output formats:\n"
  registry.entries.forM fun (name, format) => do
    printLine ("  " ++ name)
    printLine ("    " ++ format.description)

-- No graph of the random strategy is deeper.
def depthLimit (settings : Settings) : Nat := max settings.maxDepth 1

def printGraph (first : Bool) (text : String) : Printing Unit := do
  if !first then
    print "\n"
  print text
  if !text.endsWith "\n" then
    print "\n"

-- Each graph is printed before the next one grows.
def printGraphs (settings : Settings) (root : String) (format : Format) (first : Bool) :
    (count : Nat) → Generator RandomStream → Printing Unit
  | 0, _ => return ()
  | count + 1, generator =>
    match generator.generate (depthLimit settings) root with
    | (⟨.error (.error cause), _⟩, _) => throw cause.message
    | (⟨.error .depthExceeded, _⟩, _) => throw "the graph is too deep"
    | (⟨.ok graph, _⟩, next) =>
      match format.render graph with
      | .error error => throw error.message
      | .ok text => do
        printGraph first text
        printGraphs settings root format false count next

-- Without a seed the words of the key come from `entropy`, the lowest first.
def newStream (seed : Option Nat) (entropy : Nat) : RandomStream :=
  match seed with
  | some seed => .ofSeed (.ofNat seed)
  | none => .ofKey (.ofFn fun index => .ofNat (entropy >>> (32 * index.val)))

def chooseRoot (definition : Definition) : Option String → Except String String
  | some root => .ok root
  | none =>
    match definition.roots with
    | first :: _ => .ok first.name
    | [] => .error "every statement is referenced; pass --root"

def findFormat (name : String) : Except String Format :=
  match Registry.standard.get? name with
  | some format => .ok format
  | none => .error (FormatError.notFound name).message

def generate (files : Files) (entropy : Nat) (path : String) (options : GenerateOptions) :
    Printing Unit := do
  let definition ← attempt (loadDefinition files path)
  let settings ← attempt (loadSettings files options.config)
  let root ← attempt (chooseRoot definition options.root)
  let format ← attempt (findFormat options.format)
  let stream := newStream (options.seed <|> settings.seed) entropy
  printGraphs settings root format true options.count (.new definition (.random settings) stream)

def Command.run (files : Files) (entropy : Nat) : Command → Printing Unit
  | .check path => do CommandLine.check (← attempt (loadDefinition files path))
  | .generate path options => CommandLine.generate files entropy path options
  | .dump path format => do CommandLine.dump (← attempt (loadDefinition files path)) format
  | .contexts path => do CommandLine.contexts (← attempt (loadDefinition files path))
  | .listFormats => CommandLine.listFormats .standard

def Command.paths : Command → List String
  | .check path | .dump path _ | .contexts path => [path]
  | .generate path options =>
    path :: settingsPaths (options.config.getD settingsFile)
  | .listFormats => []

structure Report where
  exitCode : Nat
  output : String
  errors : String
deriving DecidableEq

def versionText : String := "bf 0.1.0\n"

def run (files : Files) (entropy : Nat) (words : List String) : Report :=
  match readWords words with
  | .error (.help topic) => ⟨0, topic.help, ""⟩
  | .error .version => ⟨0, versionText, ""⟩
  | .error (.usage detail) => ⟨2, "", "error: " ++ detail ++ "\n\n" ++ Topic.program.help⟩
  | .ok command =>
    match command.run files entropy "" with
    | .ok _ printed => ⟨0, printed, ""⟩
    | .error detail printed => ⟨1, printed, "Error: " ++ detail ++ "\n"⟩

end CommandLine

end TreeGrammar
