import TreeGrammar.Graph
set_option autoImplicit false

namespace TreeGrammar

inductive Outline where
  | node (id : NodeId) (name : String) (target : Option NodeId) (children : List Outline)

namespace Outline

def id : Outline → NodeId
  | node id _ _ _ => id

def label : Outline → String
  | node id name none _ => name ++ " " ++ id.text
  | node _ name (some target) _ => name ++ " -> " ++ target.text

end Outline

namespace Graph

def outlineWithin (graph : Graph) : (depth : Nat) → NodeId → Option Outline
  | 0, _ => none
  | depth + 1, id => do
    let node ← graph.node? id
    return .node id node.name (node.target.filter graph.contains)
      (node.children.toList.filterMap (graph.outlineWithin depth))

def outline? (graph : Graph) : Option Outline := graph.outlineWithin graph.size 0

end Graph

end TreeGrammar
