import TreeGrammar.Proofs.Aliases
import TreeGrammar.Proofs.Definition.Contexts
import TreeGrammar.Proofs.Definition.RoundTrip
import TreeGrammar.Proofs.Format.NestedJson
import TreeGrammar.Proofs.Format.Treeviz
set_option autoImplicit false

namespace TreeGrammar

inductive Definition.FromText (definition : Definition) : Prop where
  | parsed (source text : String) (success : Definition.parse source text = .ok definition)
  | stored (text : String) (success : Definition.ofJson text = .ok definition)

theorem Definition.from_text_expressible (definition : Definition) (origin : definition.FromText) :
    definition.Expressible := by
  cases origin with
  | parsed source text success => exact parse_expressible source text definition success
  | stored text success =>
    obtain ⟨given, built⟩ := of_json_ok text definition success
    exact of_statements_expressible given definition built

theorem statement_identifier (definition : Definition) (expressible : definition.Expressible)
    (statement : Statement) (stated : definition.statement? statement.name = some statement) :
    isIdentifier statement.name = true :=
  expressible.names statement ((Definition.mem_to_list definition statement).2 stated)

section

variable {σ : Type} (generator : Generator σ) (depth : Nat) (root : String) (graph : Graph)
  (sprout : Sprout) (grows : generator.Grows depth root graph sprout)

include grows

theorem target_contained (place : Place) (member : place ∈ sprout.places 0 none) (target : NodeId)
    (targeted : place.sprout.part.target? = some target) : graph.contains target = true := by
  obtain ⟨original, among, rfl, _⟩ :=
    grown_target_ends generator depth root graph sprout grows place member target targeted
  have range := Sprout.place_range 0 none sprout original among
  rw [Graph.contains, Graph.planted_size graph sprout grows.planted]
  simpa using range.2

theorem place_plain (expressible : generator.definition.Expressible) (place : Place)
    (member : place ∈ sprout.places 0 none) : place.sprout.Plain := by
  have fits := Sprout.place_fits generator.definition 0 none sprout place grows.conforms member
  obtain ⟨statement, stated⟩ := place_stated generator depth root graph sprout grows place member
  obtain ⟨named, _⟩ := (generator.definition.statement_eq_some _ statement).1 stated
  have identifier := statement_identifier generator.definition expressible statement (named ▸ stated)
  refine ⟨named ▸ identifier, ?_⟩
  intro proxy
  cases shape : place.sprout.part with
  | proxy name target =>
    rw [shape] at fits
    exact fits
  | bare | full =>
    rw [shape] at proxy
    exact absurd rfl proxy

theorem grown_outline (expressible : generator.definition.Expressible) :
    ∃ outline, graph.outline? = some outline ∧ outline.Regular 0 ∧
      graph.nodes.toList = outline.nodes none := by
  have targets := target_contained generator depth root graph sprout grows
  have outlined := Graph.planted_outline graph sprout grows.planted targets
  exact ⟨_, outlined,
    Sprout.outline_regular 0 none sprout (place_plain generator depth root graph sprout grows expressible),
    Graph.nodes_of_outline graph sprout grows.planted targets _ outlined⟩

end

theorem generated_outline {σ : Type} (generator : Generator σ) (depth : Nat) (root : String)
    (graph : Graph) (origin : generator.definition.FromText)
    (success : (generator.generate depth root).1.result = .ok graph) :
    ∃ outline, graph.outline? = some outline ∧ outline.Regular 0 ∧
      graph.nodes.toList = outline.nodes none := by
  obtain ⟨sprout, grows⟩ := Generator.generate_grows generator depth root graph success
  exact grown_outline generator depth root graph sprout grows
    (Definition.from_text_expressible generator.definition origin)

theorem graph_of_nodes (graph another : Graph) (outline : Outline)
    (nodes : graph.nodes.toList = outline.nodes none)
    (others : another.nodes.toList = outline.nodes none) : graph = another := by
  cases graph
  cases another
  exact congrArg Graph.mk (Array.toList_inj.1 (nodes.trans others.symm))

theorem renderings_lose_nothing {σ τ : Type} (generator : Generator σ) (other : Generator τ)
    (depth deeper : Nat) (root top : String) (graph another : Graph)
    (origin : generator.definition.FromText) (source : other.definition.FromText)
    (success : (generator.generate depth root).1.result = .ok graph)
    (generated : (other.generate deeper top).1.result = .ok another) :
    (graph.treeviz = another.treeviz → graph = another) ∧
    (graph.nestedJson?.isSome = true ∧ (graph.nestedJson? = another.nestedJson? → graph = another)) := by
  obtain ⟨first, outlined, regular, nodes⟩ := generated_outline generator depth root graph origin success
  obtain ⟨second, drawn, alike, others⟩ := generated_outline other deeper top another source generated
  have unique : first = second → graph = another := by
    rintro rfl
    exact graph_of_nodes graph another first nodes others
  refine ⟨?_, ?_, ?_⟩
  · intro same
    rw [Graph.treeviz, Graph.treeviz, outlined, drawn] at same
    exact unique (Outline.drawing_unique first second regular alike same)
  · rw [Graph.nestedJson?, outlined]
    rfl
  · intro same
    rw [Graph.nestedJson?, Graph.nestedJson?, outlined, drawn] at same
    have written := Json.pretty_unique _ _ (Option.some.inj same)
    exact unique (Outline.to_json_unique 0 0 first second regular alike written)

def fullBoxGenerator : Generator Script :=
  .new boxGenerator.definition .scripted { Script.empty with size := ⟨[2], 0⟩ }

def fullBoxGraph : Graph :=
  ⟨#[⟨"box", #[1, 2], none, none⟩, ⟨"item", #[], some 0, none⟩, ⟨"item", #[], some 0, none⟩]⟩

theorem boxes_rendered_apart :
    boxGenerator.definition.FromText ∧ fullBoxGenerator.definition.FromText ∧
      (boxGenerator.generate 3 "box").1.result = .ok boxGraph ∧
      (fullBoxGenerator.generate 3 "box").1.result = .ok fullBoxGraph ∧
      boxGraph.treeviz ≠ fullBoxGraph.treeviz ∧ boxGraph.nestedJson? ≠ fullBoxGraph.nestedJson? := by
  have origin : boxGenerator.definition.FromText :=
    .parsed "box" boxGenerator.definition.text
      (Definition.parse_text boxGenerator.definition "box" ⟨by decide, by decide⟩)
  have filled : (fullBoxGenerator.generate 3 "box").1.result = .ok fullBoxGraph := by decide +kernel
  have different : boxGraph ≠ fullBoxGraph := by decide
  obtain ⟨drawn, _, written⟩ := renderings_lose_nothing boxGenerator fullBoxGenerator 3 3 "box" "box"
    boxGraph fullBoxGraph origin origin box_generated filled
  exact ⟨origin, origin, box_generated, filled, mt drawn different, mt written different⟩

end TreeGrammar
