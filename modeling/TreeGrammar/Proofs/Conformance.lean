import TreeGrammar.Proofs.Growth
import TreeGrammar.Proofs.Sprout.Decisions
set_option autoImplicit false

namespace TreeGrammar

namespace Graph

def Named (graph : Graph) (name : String) (id : NodeId) : Prop :=
  (graph.node? id).map Node.name = some name

-- The sizes are those that were answered; a slot for exactly one child is not asked about.
inductive Fills (graph : Graph) : Alternative → List (Reference × Nat) → List NodeId → Prop where
  | nil : Fills graph [] [] []
  | one (reference : Reference) (rest : Alternative) (sizes : List (Reference × Nat))
      (child : NodeId) (children : List NodeId) (single : reference.multiplicity = .exactlyOne)
      (named : graph.Named reference.name child) (later : Fills graph rest sizes children) :
      Fills graph (reference :: rest) sizes (child :: children)
  | several (reference : Reference) (rest : Alternative) (size : Nat)
      (sizes : List (Reference × Nat)) (block children : List NodeId)
      (asked : reference.multiplicity ≠ .exactlyOne)
      (admitted : reference.multiplicity.admits size) (length : block.length = size)
      (named : ∀ child ∈ block, graph.Named reference.name child)
      (later : Fills graph rest sizes children) :
      Fills graph (reference :: rest) ((reference, size) :: sizes) (block ++ children)

end Graph

def Statement.Chosen (statement : Statement) (answers : List Nat) (alternative : Alternative) : Prop :=
  (statement.alternatives = [alternative] ∧ answers = []) ∨
    (statement.alternatives.length ≠ 1 ∧ ∃ index, answers = [index] ∧
      statement.alternatives[index]? = some alternative)

inductive Graph.Follows (graph : Graph) (decisions : List Decision) (id : NodeId)
    (statement : Statement) : List NodeId → Prop where
  | childless (leaf : statement.alternatives = []) : Follows graph decisions id statement []
  | bare (decided : leafAnswers decisions id = [true]) : Follows graph decisions id statement []
  | full (alternative : Alternative) (children : List NodeId)
      (decided : leafAnswers decisions id = [false])
      (chosen : statement.Chosen (alternativeAnswers decisions id) alternative)
      (filled : graph.Fills alternative (sizeAnswers decisions id) children) :
      Follows graph decisions id statement children

section

variable (graph : Graph)

theorem named_starts (id : Nat) (parent : Option NodeId) (sprouts : List Sprout)
    (present : ∀ place ∈ Sprout.placesAll id parent sprouts, graph.node? place.id = some place.node) :
    (Sprout.starts id sprouts).map (fun child => (graph.node? child).map Node.name) =
      (sprouts.map Sprout.name).map some := by
  induction sprouts generalizing id with
  | nil => rfl
  | cons first rest ih =>
    have here : graph.node? id = some (Place.node ⟨id, parent, first⟩) :=
      present _ (List.mem_append_left _ (Sprout.place_self id parent first))
    have later := ih (id + first.size) fun place member =>
      present place (List.mem_append_right _ member)
    rw [Sprout.starts, List.map_cons, here, later]
    rfl

theorem fills_slots (slots : List Slot) (children : List NodeId)
    (admits : ∀ slot ∈ slots, slot.reference.multiplicity.admits slot.size)
    (names : children.map (fun child => (graph.node? child).map Node.name) =
      (slots.flatMap fun slot => List.replicate slot.size slot.reference.name).map some) :
    graph.Fills (slots.map Slot.reference)
      (slots.flatMap fun slot =>
        if slot.reference.multiplicity = .exactlyOne then [] else [(slot.reference, slot.size)])
      children := by
  induction slots generalizing children with
  | nil =>
    rw [List.map_eq_nil_iff.1 names]
    exact .nil
  | cons slot rest ih =>
    rw [List.flatMap_cons, List.map_append] at names
    obtain ⟨block, others, rfl, blockNames, otherNames⟩ := List.map_eq_append_iff.1 names
    have later := ih others (fun other listed => admits other (.tail _ listed)) otherNames
    have length : block.length = slot.size := by
      have lengths := congrArg List.length blockNames
      simpa using lengths
    have named : ∀ child ∈ block, graph.Named slot.reference.name child := by
      intro child member
      have listed := List.mem_map_of_mem (f := fun child => (graph.node? child).map Node.name) member
      rw [blockNames, List.map_replicate] at listed
      exact List.eq_of_mem_replicate listed
    by_cases single : slot.reference.multiplicity = .exactlyOne
    · have admitted := admits slot (.head _)
      have one : slot.size = 1 := by
        simp [single, Multiplicity.admits, Multiplicity.least, Multiplicity.most?] at admitted
        omega
      obtain ⟨child, rfl⟩ := List.length_eq_one_iff.1 (length.trans one)
      rw [List.map_cons, List.flatMap_cons, if_pos single]
      exact .one slot.reference _ _ child others single (named child (.head _)) later
    · rw [List.map_cons, List.flatMap_cons, if_neg single]
      exact .several slot.reference _ slot.size _ block others single (admits slot (.head _)) length
        named later

end

variable {σ : Type}

theorem place_follows (generator : Generator σ) (depth : Nat) (root : String) (graph : Graph)
    (sprout : Sprout) (grows : generator.Grows depth root graph sprout) (place : Place)
    (member : place ∈ sprout.places 0 none) (fresh : place.node.target = none) :
    ∃ statement, generator.definition.statement? place.node.name = some statement ∧
      graph.Follows (generator.decisions depth root) place.id statement place.node.children.toList := by
  have fits := Sprout.place_fits generator.definition 0 none sprout place grows.conforms member
  have leafs := leaf_answers_at generator.definition 0 none sprout place grows.conforms member
  have picks := alternative_answers_at generator.definition 0 none sprout place grows.conforms member
  have sizes := size_answers_at generator.definition 0 none sprout place grows.conforms member
  have names := named_starts graph (place.id + 1) (some place.id) place.sprout.children
    fun inner below => by
      apply Graph.node_of_place graph sprout grows.planted
      apply Sprout.places_nested 0 none sprout place inner member
      rw [Sprout.places_eq]
      exact .tail _ below
  rw [← grows.decisions] at leafs picks sizes
  cases place with
  | mk id parent planted =>
    cases planted with
    | grown part children =>
      cases part with
      | proxy name target => cases fresh
      | bare statement =>
        obtain ⟨stated, rfl⟩ := fits
        refine ⟨statement, stated, ?_⟩
        by_cases childless : statement.isLeaf
        · exact .childless (List.isEmpty_iff.1 childless)
        · exact .bare (leafs.trans (if_neg childless))
      | full statement index slots =>
        obtain ⟨stated, chosen, admits, childNames⟩ := fits
        refine ⟨statement, stated, .full (slots.map Slot.reference) _ leafs ?_ ?_⟩
        · by_cases single : statement.alternatives.length = 1
          · obtain ⟨only, alternatives⟩ := List.length_eq_one_iff.1 single
            rw [alternatives] at chosen
            cases index with
            | zero => exact .inl ⟨alternatives.trans (congrArg (fun alternative => [alternative])
                (Option.some.inj chosen)), picks.trans (if_pos single)⟩
            | succ later => cases chosen
          · exact .inr ⟨single, index, picks.trans (if_neg single), chosen⟩
        · rw [sizes]
          apply fills_slots graph slots _ admits
          rw [← childNames]
          exact names

theorem generated_nodes_follow (generator : Generator σ) (depth : Nat) (root : String)
    (graph : Graph) (success : (generator.generate depth root).1.result = .ok graph) (id : NodeId)
    (node : Node) (found : graph.node? id = some node) (fresh : node.isAlias = false) :
    ∃ statement, generator.definition.statement? node.name = some statement ∧
      graph.Follows (generator.decisions depth root) id statement node.children.toList := by
  obtain ⟨sprout, grows⟩ := Generator.generate_grows generator depth root graph success
  obtain ⟨place, member, rfl, rfl⟩ :=
    Graph.place_of_node graph sprout grows.planted id node found
  exact place_follows generator depth root graph sprout grows place member
    (fresh_target place.node fresh)

theorem generated_box_follows :
    (boxGenerator.generate 3 "box").1.result = .ok boxGraph ∧
      boxGraph.node? 0 = some ⟨"box", #[1, 2], none, none⟩ ∧
      ∃ statement, boxGenerator.definition.statement? "box" = some statement ∧
        boxGraph.Follows (boxGenerator.decisions 3 "box") 0 statement [1, 2] :=
  ⟨box_generated, rfl,
    generated_nodes_follow boxGenerator 3 "box" boxGraph box_generated 0 _ rfl rfl⟩

end TreeGrammar
