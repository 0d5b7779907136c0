import TreeGrammar.Graph
set_option autoImplicit false

namespace TreeGrammar

namespace Graph

def extend (graph : Graph) (nodes : List Node) : Graph := ⟨graph.nodes ++ nodes.toArray⟩

def attachAll (graph : Graph) (parent : NodeId) (children : List NodeId) : Graph :=
  children.foldl (fun grown child => grown.attach parent child) graph

theorem graph_eq (first second : Graph) (same : ∀ id : Nat, first.node? id = second.node? id) :
    first = second := by
  cases first with
  | mk nodes =>
    cases second with
    | mk others => exact congrArg Graph.mk (Array.ext_getElem? same)

@[simp] theorem size_extend (graph : Graph) (nodes : List Node) :
    (graph.extend nodes).size = graph.size + nodes.length := by
  simp [extend, size]

@[simp] theorem size_attach (graph : Graph) (parent child : NodeId) :
    (graph.attach parent child).size = graph.size := by
  simp [attach, size]

@[simp] theorem size_attach_all (graph : Graph) (parent : NodeId) (children : List NodeId) :
    (graph.attachAll parent children).size = graph.size := by
  induction children generalizing graph with
  | nil => rfl
  | cons child rest ih => exact (ih (graph.attach parent child)).trans (size_attach graph parent child)

@[simp] theorem extend_nil (graph : Graph) : graph.extend [] = graph := by
  simp [extend]

theorem extend_extend (graph : Graph) (nodes more : List Node) :
    (graph.extend nodes).extend more = graph.extend (nodes ++ more) := by
  simp [extend]

theorem attach_all_append (graph : Graph) (parent : NodeId) (front back : List NodeId) :
    graph.attachAll parent (front ++ back) = (graph.attachAll parent front).attachAll parent back :=
  List.foldl_append

theorem add_eq_extend (graph : Graph) (name : String) (parent target : Option NodeId) :
    graph.add name parent target = graph.extend [⟨name, #[], parent, target⟩] := by
  simp [add, extend]

theorem node_extend (graph : Graph) (nodes : List Node) (id : Nat) :
    (graph.extend nodes).node? id =
      if id < graph.size then graph.node? id else nodes[id - graph.size]? := by
  by_cases old : id < graph.size
  · rw [if_pos old]
    exact Array.getElem?_append_left old
  · rw [if_neg old]
    exact (Array.getElem?_append_right (Nat.le_of_not_lt old)).trans List.getElem?_toArray

theorem node_attach (graph : Graph) (parent child : NodeId) (id : Nat) :
    (graph.attach parent child).node? id =
      if parent = id then
        (graph.node? id).map fun node => { node with children := node.children.push child }
      else graph.node? id := by
  simp [attach, node?, Array.getElem?_modify]

theorem attach_extend (graph : Graph) (nodes : List Node) (parent : Nat) (child : NodeId)
    (present : parent < graph.size) :
    (graph.extend nodes).attach parent child = (graph.attach parent child).extend nodes := by
  apply graph_eq
  intro id
  rw [node_attach, node_extend, node_extend, node_attach, size_attach]
  by_cases same : parent = id
  · subst same
    simp [present]
  · simp [same]

theorem attach_all_extend (graph : Graph) (nodes : List Node) (parent : Nat) (children : List NodeId)
    (present : parent < graph.size) :
    (graph.extend nodes).attachAll parent children = (graph.attachAll parent children).extend nodes := by
  induction children generalizing graph with
  | nil => rfl
  | cons child rest ih =>
    have still : parent < (graph.attach parent child).size := by simpa using present
    change ((graph.extend nodes).attach parent child).attachAll parent rest = _
    rw [attach_extend graph nodes parent child present]
    exact ih (graph.attach parent child) still

theorem attach_all_newest (graph : Graph) (name : String) (attached : Array NodeId)
    (parent target : Option NodeId) (children : List NodeId) :
    (graph.extend [⟨name, attached, parent, target⟩]).attachAll graph.size children =
      graph.extend [⟨name, attached ++ children.toArray, parent, target⟩] := by
  induction children generalizing attached with
  | nil => simp [attachAll]
  | cons child rest ih =>
    have first : (graph.extend [⟨name, attached, parent, target⟩]).attach graph.size child =
        graph.extend [⟨name, attached.push child, parent, target⟩] := by
      apply graph_eq
      intro id
      rw [node_attach, node_extend, node_extend]
      by_cases newest : graph.size = id
      · subst newest
        simp
      · simp only [if_neg newest]
        by_cases old : id < graph.size
        · simp [old]
        · have beyond : id - graph.size ≠ 0 := by omega
          simp [old, beyond]
    have onward := ih (attached.push child)
    change ((graph.extend [⟨name, attached, parent, target⟩]).attach graph.size child).attachAll
      graph.size rest = _
    rw [first, onward]
    simp

end Graph

end TreeGrammar
