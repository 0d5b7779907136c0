import TreeGrammar.Proofs.Graph.Extension
set_option autoImplicit false

namespace TreeGrammar

namespace Graph

def Original (graph : Graph) (name : String) (id : NodeId) : Prop :=
  ∃ node, graph.node? id = some node ∧ node.name = name ∧ node.isAlias = false

def Listed (graph : Graph) (id : Nat) : Prop :=
  ∃ parent : Nat, parent < id ∧ graph.parent? id = some parent ∧
    (graph.children parent).toList.count id = 1 ∧
    ∀ other : Nat, other ≠ parent → id ∉ graph.children other

-- No list of children holds these nodes yet. Each is the parent of the one before, up to node 0.
inductive Line (graph : Graph) : List NodeId → Prop where
  | nil : Line graph []
  | root (present : 0 < graph.size) (topmost : graph.parent? 0 = none) : Line graph [0]
  | under (id above : Nat) (rest : List NodeId) (present : id < graph.size)
      (parent : graph.parent? id = some above) (smaller : above < id)
      (upward : Line graph (above :: rest)) : Line graph (id :: above :: rest)

def Keeps (graph later : Graph) : Prop :=
  ∀ id node, graph.node? id = some node → ∃ children, later.node? id = some { node with children }

theorem node_present (graph : Graph) (id : Nat) (node : Node) (found : graph.node? id = some node) :
    id < graph.size := (Array.getElem?_eq_some_iff.1 found).1

theorem node_of_present (graph : Graph) (id : Nat) (present : id < graph.size) :
    ∃ node, graph.node? id = some node := ⟨_, Array.getElem?_eq_getElem present⟩

theorem node_add (graph : Graph) (name : String) (parent target : Option NodeId) (id : Nat) :
    (graph.add name parent target).node? id =
      if id = graph.size then some ⟨name, #[], parent, target⟩ else graph.node? id := by
  rw [add, node?, Array.getElem?_push]
  rfl

@[simp] theorem size_add (graph : Graph) (name : String) (parent target : Option NodeId) :
    (graph.add name parent target).size = graph.size + 1 := Array.size_push _

theorem keeps_refl (graph : Graph) : graph.Keeps graph := fun _ node found => ⟨node.children, found⟩

theorem keeps_trans (graph middle later : Graph) (first : graph.Keeps middle)
    (second : middle.Keeps later) : graph.Keeps later := by
  intro id node found
  obtain ⟨_, between⟩ := first id node found
  obtain ⟨children, afterwards⟩ := second id _ between
  exact ⟨children, afterwards⟩

theorem keeps_add (graph : Graph) (name : String) (parent target : Option NodeId) :
    graph.Keeps (graph.add name parent target) := by
  intro id node found
  have older : id ≠ graph.size := Nat.ne_of_lt (graph.node_present id node found)
  rw [node_add, if_neg older]
  exact ⟨node.children, found⟩

theorem keeps_attach (graph : Graph) (parent child : NodeId) :
    graph.Keeps (graph.attach parent child) := by
  intro id node found
  rw [node_attach, found]
  by_cases same : parent = id
  · rw [if_pos same]
    exact ⟨_, rfl⟩
  · rw [if_neg same]
    exact ⟨node.children, rfl⟩

section

variable (graph later : Graph) (keeps : graph.Keeps later)

include keeps

theorem keeps_present (id : Nat) (present : id < graph.size) : id < later.size := by
  obtain ⟨node, found⟩ := graph.node_of_present id present
  obtain ⟨children, same⟩ := keeps id node found
  exact later.node_present id _ same

theorem keeps_parent (id : Nat) (present : id < graph.size) : later.parent? id = graph.parent? id := by
  obtain ⟨node, found⟩ := graph.node_of_present id present
  obtain ⟨children, same⟩ := keeps id node found
  rw [parent?, parent?, found, same]
  rfl

theorem keeps_original (name : String) (id : NodeId) (original : graph.Original name id) :
    later.Original name id := by
  obtain ⟨node, found, named, fresh⟩ := original
  obtain ⟨children, same⟩ := keeps id node found
  exact ⟨_, same, named, fresh⟩

theorem keeps_line (ids : List NodeId) (line : graph.Line ids) : later.Line ids := by
  induction line with
  | nil => exact .nil
  | root present topmost =>
    exact .root (keeps_present graph later keeps 0 present)
      ((keeps_parent graph later keeps 0 present).trans topmost)
  | under id above rest present parent smaller _ ih =>
    exact .under id above rest (keeps_present graph later keeps id present)
      ((keeps_parent graph later keeps id present).trans parent) smaller ih

theorem keeps_ancestors (id : Nat) (present : id < graph.size) :
    later.ancestors id = graph.ancestors id := by
  induction id using Nat.strongRecOn with
  | ind id ih =>
    rw [ancestors.eq_def later, ancestors.eq_def graph, keeps_parent graph later keeps id present]
    cases graph.parent? id with
    | none => rfl
    | some parent =>
      by_cases smaller : parent < id
      · simp only [if_pos smaller, ih parent smaller (Nat.lt_trans smaller present)]
      · simp only [if_neg smaller]

theorem keeps_depth (id : Nat) (present : id < graph.size) : later.depth id = graph.depth id := by
  rw [depth, depth, keeps_ancestors graph later keeps id present]

end

theorem depth_topmost (graph : Graph) (id : Nat) (topmost : graph.parent? id = none) :
    graph.depth id = 1 := by
  rw [depth, ancestors]
  simp only [topmost, List.length_nil]

theorem depth_under (graph : Graph) (id above : Nat) (parent : graph.parent? id = some above)
    (smaller : above < id) : graph.depth id = graph.depth above + 1 := by
  rw [depth, ancestors]
  simp only [parent, if_pos smaller, List.length_cons, depth]

theorem original_present (graph : Graph) (name : String) (id : Nat)
    (original : graph.Original name id) : id < graph.size := by
  obtain ⟨node, found, _⟩ := original
  exact graph.node_present id node found

theorem original_add (graph : Graph) (name : String) (parent : Option NodeId) :
    (graph.add name parent none).Original name graph.size := by
  refine ⟨⟨name, #[], parent, none⟩, ?_, rfl, rfl⟩
  rw [node_add, if_pos rfl]

theorem children_add (graph : Graph) (name : String) (parent target : Option NodeId) (other : Nat) :
    (graph.add name parent target).children other = graph.children other := by
  rw [children, children, node_add]
  by_cases newest : other = graph.size
  · have missing : graph.node? other = none :=
      Array.getElem?_eq_none (Nat.le_of_eq newest.symm)
    rw [if_pos newest, missing]
    rfl
  · rw [if_neg newest]

theorem parent_add (graph : Graph) (name : String) (parent target : Option NodeId) :
    (graph.add name parent target).parent? graph.size = parent := by
  rw [parent?, node_add, if_pos rfl]
  rfl

theorem children_attach (graph : Graph) (parent child : NodeId) (present : parent < graph.size)
    (other : Nat) :
    (graph.attach parent child).children other =
      if other = parent then (graph.children parent).push child else graph.children other := by
  rw [children, children, children, node_attach]
  by_cases same : parent = other
  · obtain ⟨node, found⟩ := graph.node_of_present parent present
    rw [if_pos same, if_pos same.symm, ← same, found]
    rfl
  · rw [if_neg same, if_neg (Ne.symm same)]

theorem mem_children_attach (graph : Graph) (parent child : NodeId) (present : parent < graph.size)
    (other id : Nat) (member : id ∈ (graph.attach parent child).children other) :
    id ∈ graph.children other ∨ (other = parent ∧ id = child) := by
  rw [graph.children_attach parent child present] at member
  by_cases here : other = parent
  · rw [if_pos here, Array.mem_push] at member
    rw [here]
    exact member.imp_right fun same => ⟨rfl, same⟩
  · rw [if_neg here] at member
    exact .inl member

theorem line_decreasing (graph : Graph) (id : Nat) (rest : List NodeId)
    (line : graph.Line (id :: rest)) (above : Nat) (member : above ∈ rest) : above < id := by
  induction rest generalizing id with
  | nil => cases member
  | cons next rest ih =>
    cases line with
    | under _ _ _ _ _ smaller upward =>
      rcases List.mem_cons.1 member with rfl | higher
      · exact smaller
      · exact Nat.lt_trans (ih next upward higher) smaller

theorem line_present (graph : Graph) (ids : List NodeId) (line : graph.Line ids) (id : Nat)
    (member : id ∈ ids) : id < graph.size := by
  induction line with
  | nil => cases member
  | root present _ =>
    rw [List.mem_singleton.1 member]
    exact present
  | under id above rest present _ _ _ ih =>
    rcases List.mem_cons.1 member with rfl | higher
    · exact present
    · exact ih higher

theorem line_ancestors (graph : Graph) (id : NodeId) (rest : List NodeId)
    (line : graph.Line (id :: rest)) : graph.ancestors id = rest := by
  induction rest generalizing id with
  | nil =>
    cases line with
    | root _ topmost =>
      rw [ancestors]
      simp only [topmost]
  | cons next rest ih =>
    cases line with
    | under _ _ _ _ parent smaller upward =>
      rw [ancestors]
      simp only [parent]
      rw [if_pos smaller, ih next upward]

theorem line_bottom (graph : Graph) (id : NodeId) (rest : List NodeId)
    (line : graph.Line (id :: rest)) : (id :: rest).getLast? = some 0 := by
  induction rest generalizing id with
  | nil =>
    cases line with
    | root _ _ => rfl
  | cons next rest ih =>
    cases line with
    | under _ _ _ _ _ _ upward =>
      rw [List.getLast?_cons_cons]
      exact ih next upward

theorem line_tail (graph : Graph) (id : NodeId) (rest : List NodeId)
    (line : graph.Line (id :: rest)) : graph.Line rest := by
  cases line with
  | root _ _ => exact .nil
  | under _ _ _ _ _ _ upward => exact upward

end Graph

end TreeGrammar
