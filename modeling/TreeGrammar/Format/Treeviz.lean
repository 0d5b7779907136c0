import TreeGrammar.Graph.Outline
set_option autoImplicit false

namespace TreeGrammar

namespace Outline

mutual
def linesBelow (margin : String) : Outline → String
  | .node _ _ _ children => branchLines margin children

def branchLines (margin : String) : List Outline → String
  | [] => ""
  | [last] => margin ++ "└─ " ++ last.label ++ "\n" ++ last.linesBelow (margin ++ "   ")
  | child :: rest =>
    margin ++ "├─ " ++ child.label ++ "\n" ++ child.linesBelow (margin ++ "│  ") ++
      branchLines margin rest
end

end Outline

def Graph.treeviz (graph : Graph) : String :=
  match graph.outline? with
  | none => ""
  | some root => root.label ++ "\n" ++ root.linesBelow ""

end TreeGrammar
