import TreeGrammar.Proofs.Renaming
import TreeGrammar.Proofs.Stage.Ending
set_option autoImplicit false

namespace TreeGrammar

variable {σ : Type}

namespace Growth

variable {α β γ δ : Type}

def mirrored (rename : String → String) (change : α → β) :
    EStateM.Result Halt (Run σ) α → EStateM.Result Halt (Run σ) β
  | .ok a run => .ok (change a) (run.renamed rename)
  | .error halt run => .error (halt.renamed rename) (run.renamed rename)

def Mirrors (rename : String → String) (change : α → β) (first : Growth σ α) (second : Growth σ β) :
    Prop :=
  ∀ run, second (run.renamed rename) = mirrored rename change (first run)

section

variable (rename : String → String)

theorem mirrors_bind (change : α → β) (onward : γ → δ) (first : Growth σ α) (second : Growth σ β)
    (next : α → Growth σ γ) (onto : β → Growth σ δ) (start : Mirrors rename change first second)
    (rest : ∀ a, Mirrors rename onward (next a) (onto (change a))) :
    Mirrors rename onward (first >>= next) (second >>= onto) := by
  intro run
  simp only [bind, EStateM.bind, start run]
  cases first run with
  | ok a after => exact rest a after
  | error halt after => rfl

theorem mirrors_pure (change : α → β) (a : α) :
    Mirrors (σ := σ) rename change (pure a) (pure (change a)) := fun _ => rfl

theorem mirrors_fail (change : α → β) (cause : GenerationError) :
    Mirrors (σ := σ) rename change (fail cause) (fail (cause.renamed rename)) := fun _ => rfl

theorem mirrors_get (onward : γ → δ) (next : Run σ → Growth σ γ) (onto : Run σ → Growth σ δ)
    (rest : ∀ run, Mirrors rename onward (next run) (onto (run.renamed rename))) :
    Mirrors rename onward (get >>= next) (get >>= onto) := fun run => rest run run

theorem mirrors_modify (change : α → β) (first : Run σ → α × Run σ) (second : Run σ → β × Run σ)
    (same : ∀ run, second (run.renamed rename) = (change (first run).1, (first run).2.renamed rename)) :
    Mirrors rename change (modifyGet first) (modifyGet second) := by
  intro run
  exact congrArg (fun moved => EStateM.Result.ok moved.1 moved.2) (same run)

theorem mirrors_note (record : LogRecord) :
    Mirrors (σ := σ) rename id (note record) (note (record.renamed rename)) :=
  mirrors_modify rename id _ _ fun run => by simp [Run.renamed]

theorem mirrors_add_node (name : String) (parent target : Option NodeId) :
    Mirrors (σ := σ) rename id (addNode name parent target) (addNode (rename name) parent target) :=
  mirrors_modify rename id _ _ fun run => by simp [Run.renamed]

theorem mirrors_attach (parent child : NodeId) :
    Mirrors (σ := σ) rename id (attach parent child) (attach parent child) :=
  mirrors_modify rename id _ _ fun run => by simp [Run.renamed]

theorem mirrors_context (node : NodeId) :
    Mirrors (σ := σ) rename (Context.renamed rename) (contextOf node) (contextOf node) := fun _ => rfl

theorem mirrors_parent_context (parent : Option NodeId) :
    Mirrors (σ := σ) rename (Option.map (Context.renamed rename)) (contextOf? parent)
      (contextOf? parent) := by
  intro run
  cases parent <;> rfl

section

variable (strategy : Strategy σ)

theorem mirrors_decide_leaf (statement : Statement) (parent : Option NodeId) :
    Mirrors rename id (decideLeaf (strategy.behind rename) statement parent)
      (decideLeaf strategy (statement.renamed rename) parent) := by
  by_cases childless : statement.isLeaf
  · rw [decideLeaf, decideLeaf, Statement.leaf_renamed, if_pos childless, if_pos childless]
    exact mirrors_pure rename id true
  · rw [decideLeaf, decideLeaf, Statement.leaf_renamed, if_neg childless, if_neg childless]
    refine mirrors_bind rename _ id _ _ _ _ (mirrors_parent_context rename parent) ?_
    intro context run
    rfl

theorem mirrors_pick_alternative (statement : Statement) (parent : Option NodeId) :
    Mirrors rename (List.map (Reference.renamed rename))
      (pickAlternative (strategy.behind rename) statement parent)
      (pickAlternative strategy (statement.renamed rename) parent) := by
  have count : (statement.renamed rename).alternatives.length = statement.alternatives.length :=
    List.length_map _
  by_cases single : statement.alternatives.length = 1
  · obtain ⟨only, alternatives⟩ := List.length_eq_one_iff.1 single
    simp only [pickAlternative, Statement.renamed, alternatives, List.map_cons, List.map_nil]
    exact mirrors_pure rename _ only
  · rw [pick_alternative_asked _ statement parent single,
      pick_alternative_asked strategy _ parent (count ▸ single)]
    refine mirrors_bind rename _ _ _ _ _ _ (mirrors_parent_context rename parent) ?_
    intro context
    refine mirrors_bind rename id _ _ _ _ _ (fun _ => rfl) ?_
    intro (index : Nat)
    have found : (statement.renamed rename).alternatives[index]? =
        statement.alternatives[index]?.map (List.map (Reference.renamed rename)) := List.getElem?_map
    rw [id, found, count]
    cases statement.alternatives[index]? with
    | none => exact mirrors_fail rename _ _
    | some alternative => exact mirrors_pure rename _ alternative

theorem mirrors_pick_size (reference : Reference) (node : NodeId) :
    Mirrors rename id (pickSize (strategy.behind rename) reference node)
      (pickSize strategy (reference.renamed rename) node) := by
  by_cases single : reference.multiplicity = .exactlyOne
  · rw [pickSize, pickSize, Reference.renamed, single]
    exact mirrors_pure rename id 1
  · rw [pick_size_asked _ reference node single, pick_size_asked strategy (reference.renamed rename) node single]
    refine mirrors_bind rename _ _ _ _ _ _ (mirrors_context rename node) ?_
    intro context
    refine mirrors_bind rename id _ _ _ _ _ (fun _ => rfl) ?_
    intro (size : Nat)
    by_cases admitted : reference.multiplicity.admits size
    · simp only [id, Reference.renamed, admitted, if_true]
      refine mirrors_bind rename id id _ _ _ _ (mirrors_note rename (.sized reference node size)) ?_
      intro _
      exact mirrors_pure rename id size
    · simp only [id, Reference.renamed, admitted]
      exact mirrors_fail rename id (.sizeOutOfRange reference size)

section

variable (injective : Function.Injective rename)

include injective

theorem mirrors_complete (name : String) (node : NodeId) :
    Mirrors (σ := σ) rename id (complete name node) (complete (rename name) node) :=
  mirrors_modify rename id _ _ fun run => by
    simp [Run.renamed, Completed.record_renamed rename injective]

theorem mirrors_check_target (reference : Reference) (target : NodeId) :
    Mirrors (σ := σ) rename id (checkTarget reference target)
      (checkTarget (reference.renamed rename) target) := by
  refine mirrors_get rename id _ _ ?_
  intro run
  have known : (run.renamed rename).completed.named (reference.renamed rename).name =
      run.completed.named reference.name := run.completed.named_renamed rename injective reference.name
  rw [known, Run.renamed, Graph.node_renamed]
  cases run.graph.node? target with
  | none => exact mirrors_fail rename id (.unknownTarget target reference.name)
  | some found =>
    have same : (found.renamed rename).name = (reference.renamed rename).name ↔
        found.name = reference.name := injective.eq_iff
    by_cases named : found.name = reference.name
    · simp only [Option.map_some, ne_eq, same, named, not_true_eq_false, if_false]
      split
      · exact mirrors_pure rename id ()
      · exact mirrors_fail rename id (.unknownTarget target reference.name)
    · simp only [Option.map_some, ne_eq, same, named, not_false_eq_true, if_true]
      exact mirrors_fail rename id (.targetNameMismatch target found.name reference.name)

section

variable (grow onto : String → Option NodeId → Growth σ NodeId)
  (growing : ∀ name parent, Mirrors rename id (grow name parent) (onto (rename name) parent))

include growing

theorem mirrors_add_child (reference : Reference) (node : NodeId) :
    Mirrors rename id (addChild (strategy.behind rename) grow reference node)
      (addChild strategy onto (reference.renamed rename) node) := by
  refine mirrors_bind rename _ id _ _ _ _ (mirrors_context rename node) ?_
  intro context
  refine mirrors_get rename id _ _ ?_
  intro run
  refine mirrors_bind rename id id _ _ _ _ (fun _ => rfl) ?_
  intro (answer : Option NodeId)
  cases answer with
  | none =>
    refine mirrors_bind rename id id _ _ _ _ (growing reference.name (some node)) ?_
    intro child
    exact mirrors_attach rename node child
  | some target =>
    refine mirrors_bind rename id id _ _ _ _ (mirrors_check_target rename injective reference target) ?_
    intro _
    refine mirrors_bind rename id id _ _ _ _ (mirrors_note rename (.reusing target node)) ?_
    intro _
    refine mirrors_bind rename id id _ _ _ _ (mirrors_add_node rename _ _ _) ?_
    intro child
    exact mirrors_attach rename node child

theorem mirrors_add_children (reference : Reference) (node : NodeId) (count : Nat) :
    Mirrors rename id (addChildren (strategy.behind rename) grow reference node count)
      (addChildren strategy onto (reference.renamed rename) node count) := by
  induction count with
  | zero => exact mirrors_pure rename id ()
  | succ count ih =>
    refine mirrors_bind rename id id _ _ _ _
      (mirrors_add_child rename strategy injective grow onto growing reference node) ?_
    intro _
    exact ih

theorem mirrors_fill_slots (node : NodeId) (alternative : Alternative) :
    Mirrors rename id (fillSlots (strategy.behind rename) grow node alternative)
      (fillSlots strategy onto node (alternative.map (Reference.renamed rename))) := by
  induction alternative with
  | nil => exact mirrors_pure rename id ()
  | cons reference rest ih =>
    refine mirrors_bind rename id id _ _ _ _ (mirrors_pick_size rename strategy reference node) ?_
    intro size
    refine mirrors_bind rename id id _ _ _ _
      (mirrors_add_children rename strategy injective grow onto growing reference node size) ?_
    intro _
    exact ih

end

theorem mirrors_expand (definition : Definition) (depth : Nat) (name : String)
    (parent : Option NodeId) :
    Mirrors rename id (expand definition (strategy.behind rename) depth name parent)
      (expand (definition.renamed rename) strategy depth (rename name) parent) := by
  induction depth generalizing name parent with
  | zero => exact fun _ => rfl
  | succ depth ih =>
    refine mirrors_bind rename id id _ _ _ _ (mirrors_note rename (.visiting name parent)) ?_
    intro _
    rw [definition.statement_renamed rename injective]
    cases definition.statement? name with
    | none => exact mirrors_fail rename id (.unknownStatement name)
    | some statement =>
      refine mirrors_bind rename id id _ _ _ _
        (mirrors_decide_leaf rename strategy statement parent) ?_
      intro leaf
      refine mirrors_bind rename id id _ _ _ _ (mirrors_add_node rename statement.name parent none) ?_
      intro node
      by_cases bare : leaf = true
      · simp only [id, bare, if_true]
        exact mirrors_pure rename id node
      · simp only [id, bare]
        refine mirrors_bind rename _ id _ _ _ _
          (mirrors_pick_alternative rename strategy statement parent) ?_
        intro alternative
        refine mirrors_bind rename id id _ _ _ _
          (mirrors_fill_slots rename strategy injective _ _ ih node alternative) ?_
        intro _
        refine mirrors_bind rename id id _ _ _ _
          (mirrors_complete rename injective statement.name node) ?_
        intro _
        exact mirrors_pure rename id node

end

end

end

end Growth

theorem Generator.generate_renamed (rename : String → String) (injective : Function.Injective rename)
    (generator : Generator σ) (completed : Completed) (depth : Nat) (root : String) :
    let plain : Generator σ := { generator with strategy := generator.strategy.behind rename }
    let renamed : Generator σ :=
      { generator with definition := generator.definition.renamed rename, completed }
    (renamed.generate depth (rename root)).1 = (plain.generate depth root).1.renamed rename ∧
      (renamed.generate depth (rename root)).2.completed =
        (plain.generate depth root).2.completed.renamed rename ∧
      (renamed.generate depth (rename root)).2.state = (plain.generate depth root).2.state := by
  intro plain renamed
  have start : Run.renamed rename ⟨.empty, ∅, #[.started root], generator.state⟩ =
      ⟨.empty, ∅, #[.started (rename root)], generator.state⟩ := by
    simp [Run.renamed, Graph.renamed, Graph.empty, LogRecord.renamed]
    rfl
  have mirrors := Growth.mirrors_expand rename generator.strategy injective generator.definition depth
    root none ⟨.empty, ∅, #[.started root], generator.state⟩
  rw [start] at mirrors
  simp only [generate, plain, renamed, mirrors]
  cases Growth.expand generator.definition (generator.strategy.behind rename) depth root none
      ⟨.empty, ∅, #[.started root], generator.state⟩ with
  | ok node after =>
    refine ⟨?_, rfl, rfl⟩
    simp [Growth.mirrored, Outcome.renamed, Run.renamed, LogRecord.renamed, Except.map, Except.mapError]
  | error halt after =>
    cases halt with
    | error cause =>
      refine ⟨?_, rfl, rfl⟩
      simp [Growth.mirrored, Outcome.renamed, Run.renamed, LogRecord.renamed, Halt.renamed, Except.map,
        Except.mapError]
    | depthExceeded => exact ⟨rfl, rfl, rfl⟩

end TreeGrammar
