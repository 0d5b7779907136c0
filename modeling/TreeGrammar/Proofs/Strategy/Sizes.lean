import TreeGrammar.Proofs.Random.Chance
import TreeGrammar.Proofs.Stage.Depth
import TreeGrammar.Proofs.Strategy.Bounds
set_option autoImplicit false

namespace TreeGrammar

variable {σ : Type}

def Strategy.Allots (strategy : Strategy σ) (allowed : Nat → Multiplicity → Nat → Prop) : Prop :=
  ∀ reference context state size, (strategy.answer (.size reference context) state).1 = size →
    allowed context.depth reference.multiplicity size

def Strategy.Expanding (strategy : Strategy σ) (limit : Nat) : Prop :=
  ∀ statement context state, RandomChoice.childDepth context < limit →
    (strategy.answer (.leaf statement context) state).1 = false

namespace Graph

def Divides (graph : Graph) (allowed : Multiplicity → Nat → Prop) (alternative : Alternative)
    (children : List NodeId) : Prop :=
  ∃ blocks : List (List NodeId), blocks.flatten = children ∧
    List.Forall₂ (fun reference block => allowed reference.multiplicity block.length ∧
      ∀ child ∈ block, graph.Named reference.name child) alternative blocks

theorem fills_divides (graph : Graph) (allowed : Multiplicity → Nat → Prop)
    (alternative : Alternative) (sizes : List (Reference × Nat)) (children : List NodeId)
    (fills : graph.Fills alternative sizes children) (single : allowed .exactlyOne 1)
    (sized : ∀ answer ∈ sizes, allowed answer.1.multiplicity answer.2) :
    graph.Divides allowed alternative children := by
  induction fills with
  | nil => exact ⟨[], rfl, .nil⟩
  | one reference rest sizes child children exactly named later ih =>
    obtain ⟨blocks, rfl, divided⟩ := ih sized
    refine ⟨[child] :: blocks, rfl, .cons ⟨?_, ?_⟩ divided⟩
    · rw [exactly]
      exact single
    · intro other member
      rw [List.mem_singleton.1 member]
      exact named
  | several reference rest size sizes block children asked admitted length named later ih =>
    obtain ⟨blocks, rfl, divided⟩ := ih fun answer member => sized answer (.tail _ member)
    refine ⟨block :: blocks, rfl, .cons ⟨?_, named⟩ divided⟩
    rw [length]
    exact sized (reference, size) (.head _)

theorem shallow_childless (graph : Graph) (sprout : Sprout) (planted : graph.Planted sprout)
    (limit : Nat) (shallow : graph.Shallow (max limit 1)) (place : Place)
    (member : place ∈ sprout.places 0 none) (deep : limit ≤ graph.depth place.id) :
    place.sprout.children = [] := by
  cases children : place.sprout.children with
  | nil => rfl
  | cons first rest =>
    have listed : place.id + 1 ∈ Sprout.starts (place.id + 1) place.sprout.children := by
      rw [children]
      exact .head _
    obtain ⟨below, _, inside⟩ := Sprout.child_place 0 _ none sprout place member listed
    have parent := graph.planted_parent sprout planted _ inside
    have present := graph.node_present _ _ (graph.node_of_place sprout planted _ inside)
    have deeper := graph.depth_under _ _ parent (Nat.lt_succ_self _)
    have bound := shallow _ present
    have positive : 0 < graph.depth place.id := Nat.succ_pos _
    omega

end Graph

namespace Generator

variable (generator : Generator σ) (depth : Nat) (root : String) (graph : Graph)
  (success : (generator.generate depth root).1.result = .ok graph)

include success

theorem decision_answered (decision : Decision)
    (decided : decision ∈ generator.decisions depth root) :
    ∃ question state, decision =
        Exchange.decision ⟨question, (generator.strategy.answer question state).1⟩ ∧
      graph.depth decision.node = question.depth := by
  obtain ⟨⟨question, answer⟩, asked, rfl⟩ := List.mem_map.1 decided
  have level := generator.success_depth depth root graph success _ asked
  obtain ⟨between, chosen⟩ :=
    plays_member _ _ _ _ (generator.transcript_plays depth root) _ asked
  refine ⟨question, between, ?_, level⟩
  exact congrArg (fun given => Exchange.decision ⟨question, given⟩) chosen.symm

theorem allotted_sizes (allowed : Nat → Multiplicity → Nat → Prop)
    (allots : generator.strategy.Allots allowed) (id : NodeId) (answer : Reference × Nat)
    (answered : answer ∈ sizeAnswers (generator.decisions depth root) id) :
    allowed (graph.depth id) answer.1.multiplicity answer.2 := by
  obtain ⟨decision, decided, same⟩ := List.mem_filterMap.1 answered
  obtain ⟨question, between, rfl, level⟩ :=
    generator.decision_answered depth root graph success decision decided
  cases question with
  | size reference context =>
    obtain ⟨here, given⟩ := Option.ite_none_right_eq_some.1 same
    cases given
    have level : graph.depth id = context.depth := here ▸ level
    rw [level]
    exact allots reference context between _ rfl
  | leaf | alternative | target => cases same

theorem expanding_leafs (limit : Nat) (expanding : generator.strategy.Expanding limit) (id : NodeId)
    (above : graph.depth id < limit) (leaf : Bool)
    (answered : leaf ∈ leafAnswers (generator.decisions depth root) id) : leaf = false := by
  obtain ⟨decision, decided, same⟩ := List.mem_filterMap.1 answered
  obtain ⟨question, between, rfl, level⟩ :=
    generator.decision_answered depth root graph success decision decided
  cases question with
  | leaf statement context =>
    obtain ⟨here, given⟩ := Option.ite_none_right_eq_some.1 same
    cases given
    have level : graph.depth id = RandomChoice.childDepth context := here ▸ level
    exact expanding statement context between (level ▸ above)
  | alternative | size | target => cases same

section

variable (id : NodeId) (node : Node) (statement : Statement) (found : graph.node? id = some node)
  (fresh : node.isAlias = false)
  (stated : generator.definition.statement? node.name = some statement)

include found fresh stated

theorem leafs_answered : ∃ leaf,
    leafAnswers (generator.decisions depth root) id = if statement.isLeaf then [] else [leaf] := by
  obtain ⟨sprout, grows⟩ := generator.generate_grows depth root graph success
  obtain ⟨⟨number, parent, ⟨part, children⟩⟩, member, rfl, rfl⟩ :=
    graph.place_of_node sprout grows.planted id node found
  have leafs := leaf_answers_at generator.definition 0 none sprout _ grows.conforms member
  have fits := Sprout.place_fits generator.definition 0 none sprout _ grows.conforms member
  rw [← grows.decisions] at leafs
  cases part with
  | proxy name target => cases fresh
  | bare other =>
    obtain rfl := Option.some.inj (stated.symm.trans fits.1)
    exact ⟨true, leafs⟩
  | full other index slots =>
    obtain rfl := Option.some.inj (stated.symm.trans fits.1)
    rw [full_branches generator.definition children statement index slots fits]
    exact ⟨false, leafs⟩

theorem expanded_fills (expanded : leafAnswers (generator.decisions depth root) id = [false]) :
    ∃ alternative,
      statement.Chosen (alternativeAnswers (generator.decisions depth root) id) alternative ∧
      graph.Fills alternative (sizeAnswers (generator.decisions depth root) id)
        node.children.toList := by
  obtain ⟨leaf, answered⟩ :=
    generator.leafs_answered depth root graph success id node statement found fresh stated
  obtain ⟨sprout, grows⟩ := generator.generate_grows depth root graph success
  obtain ⟨place, member, rfl, rfl⟩ := graph.place_of_node sprout grows.planted id node found
  obtain ⟨other, declared, follows⟩ := place_follows generator depth root graph sprout grows place
    member (fresh_target place.node fresh)
  obtain rfl := Option.some.inj (stated.symm.trans declared)
  generalize place.node.children.toList = children at follows
  cases follows with
  | childless leaf =>
    rw [expanded, Statement.isLeaf, leaf] at answered
    cases answered
  | bare decided => cases expanded.symm.trans decided
  | full alternative children decided chosen filled => exact ⟨alternative, chosen, filled⟩

end

end Generator

namespace Settings

def Allows (settings : Settings) (depth : Nat) : Multiplicity → Nat → Prop
  | .exactlyOne, size => size = 1
  | .atMostOne, size => size ≤ 1 ∧ (settings.maxDepth ≤ depth + 1 → size = 0)
  | .atLeastOne, size =>
    1 ≤ size ∧ size ≤ max settings.maxSize 1 ∧ (settings.maxDepth ≤ depth + 1 → size = 1)
  | .anyNumber, size => size ≤ settings.maxSize ∧ (settings.maxDepth ≤ depth + 1 → size = 0)

end Settings

theorem random_allots (settings : Settings) :
    (Strategy.random settings).Allots settings.Allows := by
  intro reference context stream size answered
  obtain ⟨least, most⟩ := RandomChoice.size_between settings stream reference context
  have lowest : settings.maxDepth ≤ context.depth + 1 →
      (RandomChoice.size settings reference context stream).1 = reference.multiplicity.least := by
    intro deep
    rw [RandomChoice.size, if_pos deep]
  have answered : (RandomChoice.size settings reference context stream).1 = size := answered
  rw [answered] at least most lowest
  cases multiplicity : reference.multiplicity <;>
    simp_all [Settings.Allows, RandomChoice.greatestSize, Multiplicity.repeats, Multiplicity.least]
  omega

theorem random_expanding (settings : Settings) (none : settings.leafProbability.chance = 0) :
    (Strategy.random settings).Expanding settings.maxDepth := by
  intro statement context stream above
  change (RandomChoice.leaf settings context stream).1 = false
  rw [RandomChoice.leaf, if_neg (Nat.not_le_of_lt above)]
  exact RandomStream.chance_never settings.leafProbability none stream

theorem random_sizes_disciplined (definition : Definition) (settings : Settings)
    (stream : RandomStream) (completed : Completed) (root : String)
    (declared : definition.contains root = true) :
    let generator : Generator RandomStream := ⟨definition, .random settings, stream, completed⟩
    ∃ graph, ∀ depth, max settings.maxDepth 1 ≤ depth →
      (generator.generate depth root).1.result = .ok graph ∧
      (∀ id node, graph.node? id = some node → settings.maxDepth ≤ graph.depth id →
        node.children = #[]) ∧
      ∀ id node statement, graph.node? id = some node → node.isAlias = false →
        definition.statement? node.name = some statement →
        let decisions := generator.decisions depth root
        (leafAnswers decisions id = [false] → ∃ alternative,
          statement.Chosen (alternativeAnswers decisions id) alternative ∧
          graph.Divides (settings.Allows (graph.depth id)) alternative node.children.toList) ∧
        (settings.leafProbability.isNaN = true ∨ settings.leafProbability.AtMost .zero →
          statement.alternatives ≠ [] → graph.depth id < settings.maxDepth →
          leafAnswers decisions id = [false]) := by
  intro generator
  obtain ⟨graph, grown⟩ := random_grown definition settings stream completed root declared
  refine ⟨graph, fun depth enough => ⟨grown depth enough, ?_, ?_⟩⟩
  · intro id node found deep
    have shallow := generator.careful_shallow _ root (random_careful settings) depth graph
      (grown depth enough)
    obtain ⟨sprout, grows⟩ := generator.generate_grows depth root graph (grown depth enough)
    obtain ⟨place, member, rfl, rfl⟩ := graph.place_of_node sprout grows.planted id node found
    have childless := graph.shallow_childless sprout grows.planted _ shallow place member deep
    rw [Place.node, childless]
    rfl
  · intro id node statement found fresh stated decisions
    have success := grown depth enough
    refine ⟨?_, ?_⟩
    · intro expanded
      obtain ⟨alternative, chosen, fills⟩ := generator.expanded_fills depth root graph success id node
        statement found fresh stated expanded
      refine ⟨alternative, chosen, graph.fills_divides _ alternative _ _ fills rfl ?_⟩
      intro answer answered
      exact generator.allotted_sizes depth root graph success settings.Allows
        (random_allots settings) id answer answered
    · intro none branching above
      obtain ⟨leaf, answered⟩ := generator.leafs_answered depth root graph success id node statement
        found fresh stated
      rw [Statement.isLeaf, List.isEmpty_eq_false_iff.2 branching, if_neg Bool.false_ne_true] at answered
      have expanding := random_expanding settings (settings.leafProbability.chance_none none)
      have expanded := generator.expanding_leafs depth root graph success _ expanding id above leaf
        (answered ▸ List.mem_singleton_self leaf)
      rw [answered, expanded]

theorem short_chain_disciplined :
    let settings : Settings :=
      { Settings.standard with maxDepth := 3, maxSize := 0, leafProbability := .nan false }
    let generator : Generator RandomStream := ⟨chainDefinition, .random settings, .ofSeed 7, ∅⟩
    chainDefinition.contains "link" = true ∧ settings.leafProbability.isNaN = true ∧
    ∃ graph, (generator.generate 3 "link").1.result = .ok graph ∧
      (∀ id node, graph.node? id = some node → 3 ≤ graph.depth id → node.children = #[]) ∧
      ∀ id node, graph.node? id = some node → node.isAlias = false → node.name = "link" →
        graph.depth id < 3 → ∃ alternative,
          graph.Divides (settings.Allows (graph.depth id)) alternative node.children.toList := by
  intro settings generator
  have declared : chainDefinition.contains "link" = true := by decide
  have strange : settings.leafProbability.isNaN = true := by decide
  obtain ⟨graph, disciplined⟩ :=
    random_sizes_disciplined chainDefinition settings (.ofSeed 7) ∅ "link" declared
  obtain ⟨success, childless, sizes⟩ := disciplined 3 (by decide)
  refine ⟨declared, strange, graph, success, childless, ?_⟩
  intro id node found fresh named above
  have stated : chainDefinition.statement? node.name =
      some ⟨"link", [[⟨"link", .atLeastOne⟩]]⟩ := by
    rw [named]
    decide
  obtain ⟨divided, expanded⟩ := sizes id node _ found fresh stated
  obtain ⟨alternative, _, blocks⟩ := divided (expanded (.inl strange) (List.cons_ne_nil _ _) above)
  exact ⟨alternative, blocks⟩

end TreeGrammar
