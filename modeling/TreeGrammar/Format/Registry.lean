import TreeGrammar.Format.NestedJson
import TreeGrammar.Format.Treeviz
import TreeGrammar.NameMap
set_option autoImplicit false

namespace TreeGrammar

inductive FormatError where
  | notFound (name : String)
  | serialization (detail : String)
deriving DecidableEq

def FormatError.message : FormatError → String
  | notFound name => "Format '" ++ name ++ "' not found"
  | serialization detail => "Serialization error: " ++ detail

structure Format where
  name : String
  description : String
  render : Graph → Except FormatError String

namespace Format

def treeviz : Format := ⟨"treeviz", "Tree with one line per node", fun graph => .ok graph.treeviz⟩

def json : Format where
  name := "json"
  description := "Nested JSON objects"
  render graph :=
    match graph.nestedJson? with
    | some text => .ok text
    | none => .error (.serialization "graph has no root")

def nodeCount (name description : String) : Format :=
  ⟨name, description, fun graph => .ok (toString graph.size ++ " nodes")⟩

def failing (name description detail : String) : Format :=
  ⟨name, description, fun _ => .error (.serialization detail)⟩

end Format

abbrev Registry := NameMap Format

namespace Registry

def add (registry : Registry) (format : Format) : Registry := registry.insert format.name format

def standard : Registry := (add ∅ .treeviz).add .json

def render (registry : Registry) (name : String) (graph : Graph) : Except FormatError String :=
  match registry.get? name with
  | some format => format.render graph
  | none => .error (.notFound name)

end Registry

end TreeGrammar
