import TreeGrammar.Graph.Outline
import TreeGrammar.Json
set_option autoImplicit false

namespace TreeGrammar

namespace Outline

mutual
def toJson : Outline → Json
  | .node id name none children =>
    .object [("children", .array (toJsonList children)), ("id", .number id), ("name", .string name)]
  | .node id name (some target) _ =>
    .object [("alias", .number target), ("id", .number id), ("name", .string name)]

def toJsonList : List Outline → List Json
  | [] => []
  | first :: rest => first.toJson :: toJsonList rest
end

end Outline

def Graph.nestedJson? (graph : Graph) : Option String :=
  graph.outline?.map fun root => root.toJson.pretty

end TreeGrammar
