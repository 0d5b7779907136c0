set_option autoImplicit false

namespace TreeGrammar

abbrev NodeId := Nat

structure Node where
  name : String
  children : Array NodeId
  parent : Option NodeId
  target : Option NodeId
deriving DecidableEq

def Node.isAlias (node : Node) : Bool := node.target.isSome

def Node.isLeaf (node : Node) : Bool := node.children.isEmpty

def NodeId.text (id : NodeId) : String := "#" ++ toString id

structure Graph where
  nodes : Array Node
deriving DecidableEq

namespace Graph

def empty : Graph := ⟨#[]⟩

def size (graph : Graph) : Nat := graph.nodes.size

def node? (graph : Graph) (id : NodeId) : Option Node := graph.nodes[id]?

def contains (graph : Graph) (id : NodeId) : Bool := id < graph.size

def add (graph : Graph) (name : String) (parent target : Option NodeId) : Graph :=
  ⟨graph.nodes.push ⟨name, #[], parent, target⟩⟩

def attach (graph : Graph) (parent child : NodeId) : Graph :=
  ⟨graph.nodes.modify parent fun node => { node with children := node.children.push child }⟩

def name (graph : Graph) (id : NodeId) : String := ((graph.node? id).map (·.name)).getD ""

def children (graph : Graph) (id : NodeId) : Array NodeId :=
  ((graph.node? id).map (·.children)).getD #[]

def parent? (graph : Graph) (id : NodeId) : Option NodeId := (graph.node? id).bind (·.parent)

def target? (graph : Graph) (id : NodeId) : Option NodeId := (graph.node? id).bind (·.target)

def resolve (graph : Graph) (id : NodeId) : NodeId := (graph.target? id).getD id

-- Parents have smaller numbers than their children.
def ancestors (graph : Graph) (id : NodeId) : List NodeId :=
  match graph.parent? id with
  | none => []
  | some parent => if parent < id then parent :: graph.ancestors parent else []
termination_by id

def depth (graph : Graph) (id : NodeId) : Nat := (graph.ancestors id).length + 1

def ids (graph : Graph) : List NodeId := List.range graph.size

def named (graph : Graph) (name : String) : List NodeId :=
  graph.ids.filter fun id => (graph.node? id).any fun node => node.name = name && !node.isAlias

end Graph

end TreeGrammar
