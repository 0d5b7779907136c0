import TreeGrammar.Definition
import TreeGrammar.Yaml.Scalar
set_option autoImplicit false

namespace TreeGrammar

namespace Yaml

def reference (margin : String) (reference : Reference) : String :=
  "name: " ++ scalar (margin ++ "  ") reference.name ++
    margin ++ "type: " ++ reference.multiplicity.word ++ "\n"

def references (margin : String) : List Reference → String
  | [] => ""
  | first :: rest => margin ++ "- " ++ reference (margin ++ "  ") first ++ references margin rest

def alternative (margin : String) : Alternative → String
  | [] => "[]\n"
  | first :: rest => "- " ++ reference (margin ++ "  ") first ++ references margin rest

def alternatives (margin : String) : List Alternative → String
  | [] => ""
  | first :: rest => margin ++ "- " ++ alternative (margin ++ "  ") first ++ alternatives margin rest

def statement (statement : Statement) : String :=
  "- name: " ++ scalar "    " statement.name ++
    match statement.alternatives with
    | [] => "  contents: []\n"
    | listed => "  contents:\n" ++ alternatives "  " listed

def statements : List Statement → String
  | [] => ""
  | first :: rest => statement first ++ statements rest

end Yaml

def Definition.toYaml (definition : Definition) : String :=
  match definition.toList with
  | [] => "statements: []\n"
  | listed => "statements:\n" ++ Yaml.statements listed

end TreeGrammar
