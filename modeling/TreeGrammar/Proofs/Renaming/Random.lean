import Mathlib.Logic.Equiv.Fintype
import TreeGrammar.Proofs.Aliases
import TreeGrammar.Proofs.Renaming.Growth
import TreeGrammar.Proofs.Strategy.Bounds
set_option autoImplicit false

namespace TreeGrammar

namespace RandomChoice

variable (rename : String → String) (settings : Settings) (stream : RandomStream)

theorem leaf_renamed (context : Option Context) :
    leaf (settings.renamed rename) (context.map (Context.renamed rename)) stream =
      leaf settings context stream := by
  have depth : childDepth (context.map (Context.renamed rename)) = childDepth context := by
    cases context with
    | none => rfl
    | some context => exact congrArg (· + 1) (context.depth_renamed rename)
  rw [leaf, leaf, depth]
  rfl

theorem alternative_renamed (statement : Statement) :
    alternative (statement.renamed rename) stream = alternative statement stream := by
  have count : (statement.renamed rename).alternatives.length = statement.alternatives.length :=
    List.length_map _
  rw [alternative, alternative, Statement.leaf_renamed, count]

theorem size_renamed (reference : Reference) (context : Context) :
    size (settings.renamed rename) (reference.renamed rename) (context.renamed rename) stream =
      size settings reference context stream := by
  rw [size, size, Context.depth_renamed]
  rfl

-- The one place where names are compared.
theorem target_renamed (injective : Function.Injective rename) (reference : Reference)
    (completed : Completed) :
    target (settings.renamed rename) (reference.renamed rename) (completed.renamed rename) stream =
      target settings reference completed stream := by
  have candidates : Completed.named (completed.renamed rename) (reference.renamed rename).name =
      completed.named reference.name := completed.named_renamed rename injective reference.name
  have listed : (reference.renamed rename).name ∈ (settings.renamed rename).noAlias ↔
      reference.name ∈ settings.noAlias := List.mem_map_of_injective injective
  simp only [target, candidates, listed]
  rfl

end RandomChoice

theorem random_behind (rename : String → String) (injective : Function.Injective rename)
    (settings : Settings) :
    (Strategy.random (settings.renamed rename)).behind rename = Strategy.random settings := by
  refine congrArg Strategy.mk (funext fun question => funext fun stream => ?_)
  cases question with
  | leaf statement context => exact RandomChoice.leaf_renamed rename settings stream context
  | alternative statement context => exact RandomChoice.alternative_renamed rename stream statement
  | size reference context =>
    exact RandomChoice.size_renamed rename settings stream reference context
  | target reference context completed =>
    exact RandomChoice.target_renamed rename settings stream injective reference completed

section

variable (rename also : String → String)

theorem Definition.renamed_alike (definition : Definition)
    (same : ∀ name ∈ definition.statements.names, rename name = also name) :
    definition.renamed rename = definition.renamed also := by
  have listed : ∀ entry ∈ definition.statements.entries, rename entry.1 = also entry.1 :=
    fun entry member => same entry.1 (List.mem_map_of_mem member)
  have referred : ∀ entry ∈ definition.statements.entries,
      entry.2.map (List.map (Reference.renamed rename)) =
        entry.2.map (List.map (Reference.renamed also)) := by
    intro entry member
    refine List.map_congr_left fun alternative among => List.map_congr_left fun reference used => ?_
    have known := definition.closed reference
      (List.mem_flatMap.2 ⟨entry, member, List.mem_flatten.2 ⟨alternative, among, used⟩⟩)
    have named := same reference.name (NameMap.mem_names_of_contains _ reference.name known)
    rw [Reference.renamed, Reference.renamed, named]
  have entries : (definition.statements.map (List.map (List.map (Reference.renamed rename)))).entries =
      (definition.statements.map (List.map (List.map (Reference.renamed also)))).entries :=
    List.map_congr_left fun entry member => congrArg (entry.1, ·) (referred entry member)
  have statements : definition.statements.renamed rename = definition.statements.renamed also := by
    rw [Statements.renamed, Statements.renamed, NameMap.renamed, NameMap.renamed, entries]
    refine NameMap.gathered_alike rename also _ fun entry member => ?_
    obtain ⟨before, held, rfl⟩ := List.mem_map.1 member
    exact listed before held
  simp only [Definition.renamed, statements]

theorem Graph.renamed_alike {σ : Type} (generator : Generator σ) (depth : Nat) (root : String)
    (graph : Graph) (success : (generator.generate depth root).1.result = .ok graph)
    (same : ∀ name ∈ generator.definition.statements.names, rename name = also name) :
    graph.renamed rename = graph.renamed also := by
  obtain ⟨sprout, grows⟩ := Generator.generate_grows generator depth root graph success
  apply graph_eq
  intro id
  rw [node_renamed, node_renamed]
  refine Option.map_congr fun node found => ?_
  obtain ⟨place, member, rfl, rfl⟩ := place_of_node graph sprout grows.planted id node found
  obtain ⟨statement, stated⟩ := place_stated generator depth root graph sprout grows place member
  have known := (declares_iff generator.definition place.sprout.name).1 ⟨statement, stated⟩
  have named := same place.sprout.name (NameMap.mem_names_of_contains _ place.sprout.name known)
  exact congrArg (fun name => { place.node with name := name }) named

end

theorem exists_permutation (names : List String) (rename : String → String)
    (injective : Set.InjOn rename {name | name ∈ names}) :
    ∃ permutation : Equiv.Perm String, ∀ name ∈ names, permutation name = rename name := by
  have finite : Finite {name // name ∈ names} := (List.finite_toSet names).to_subtype
  obtain ⟨permutation, agrees⟩ := Equiv.Perm.exists_extending_pair
    (fun name : {name // name ∈ names} => name.1) (fun name => rename name.1)
    Subtype.val_injective injective.injective
  exact ⟨permutation, fun name member => agrees ⟨name, member⟩⟩

theorem random_runs_renamed (definition : Definition) (settings : Settings) (stream : RandomStream)
    (completed other : Completed) (root : String) (rename : String → String)
    (injective : Set.InjOn rename
      {name | name ∈ definition.statements.names ∨ name ∈ settings.noAlias})
    (declared : definition.contains root = true) :
    let plain : Generator RandomStream := ⟨definition, .random settings, stream, completed⟩
    let renamed : Generator RandomStream :=
      ⟨definition.renamed rename, .random (settings.renamed rename), stream, other⟩
    ∃ graph, ∀ depth, max settings.maxDepth 1 ≤ depth →
      (plain.generate depth root).1.result = .ok graph ∧
      (renamed.generate depth (rename root)).1.result = .ok (graph.renamed rename) ∧
      (renamed.generate depth (rename root)).2.state = (plain.generate depth root).2.state := by
  intro plain renamed
  -- Only finitely many names occur, so some permutation of all names acts on them as `rename` does.
  obtain ⟨permutation, acts⟩ := exists_permutation (definition.statements.names ++ settings.noAlias)
    rename (by simpa only [List.mem_append] using injective)
  have stated : ∀ name ∈ definition.statements.names, permutation name = rename name :=
    fun name member => acts name (List.mem_append_left _ member)
  have spared : settings.renamed permutation = settings.renamed rename := by
    have names : settings.noAlias.map permutation = settings.noAlias.map rename :=
      List.map_congr_left fun name member => acts name (List.mem_append_right _ member)
    simp only [Settings.renamed, names]
  have topmost : permutation root = rename root :=
    stated root (NameMap.mem_names_of_contains definition.statements root declared)
  obtain ⟨graph, bounded⟩ := random_grown definition settings stream completed root declared
  refine ⟨graph, fun depth enough => ?_⟩
  have success := bounded depth enough
  obtain ⟨outcome, _, state⟩ := Generator.generate_renamed permutation permutation.injective
    { plain with strategy := .random (settings.renamed permutation) } other depth root
  rw [random_behind permutation permutation.injective, Definition.renamed_alike _ _ _ stated, spared,
    topmost] at outcome state
  refine ⟨success, ?_, state⟩
  rw [← Graph.renamed_alike permutation rename plain depth root graph success stated]
  refine (congrArg Outcome.result outcome).trans ?_
  rw [Outcome.renamed, show (plain.generate depth root).1.result = .ok graph from success]
  rfl

-- Boxes become labels and labels boxes, which turns the order of the two statements around.
theorem swapped_boxes_renamed :
    let swapped := Equiv.swap "box" "label"
    let settings : Settings := { Settings.standard with noAlias := ["label", "lid"] }
    Set.InjOn swapped
      {name | name ∈ boxGenerator.definition.statements.names ∨ name ∈ settings.noAlias} ∧
    boxGenerator.definition.contains "box" = true ∧
    ∃ graph, ∀ depth, 8 ≤ depth →
      ((Generator.mk boxGenerator.definition (.random settings) (.ofSeed 7) ∅).generate
        depth "box").1.result = .ok graph ∧
      ((Generator.mk (boxGenerator.definition.renamed swapped) (.random (settings.renamed swapped))
        (.ofSeed 7) ∅).generate depth "label").1.result = .ok (graph.renamed swapped) := by
  intro swapped settings
  have declared : boxGenerator.definition.contains "box" = true := by decide
  have apart := swapped.injective.injOn (s :=
    {name | name ∈ boxGenerator.definition.statements.names ∨ name ∈ settings.noAlias})
  obtain ⟨graph, runs⟩ := random_runs_renamed boxGenerator.definition settings (.ofSeed 7) ∅ ∅ "box"
    swapped apart declared
  have root : swapped "box" = "label" := Equiv.swap_apply_left _ _
  rw [root] at runs
  exact ⟨apart, declared, graph, fun depth enough => ⟨(runs depth enough).1, (runs depth enough).2.1⟩⟩

end TreeGrammar
