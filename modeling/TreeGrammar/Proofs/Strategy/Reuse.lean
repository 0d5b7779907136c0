import TreeGrammar.Proofs.Random.Chance
import TreeGrammar.Proofs.Stage.Creation
import TreeGrammar.Proofs.Stage.Seedlings
import TreeGrammar.Proofs.Strategy.Bounds
set_option autoImplicit false

namespace TreeGrammar

variable {σ : Type}

def Strategy.Sparing (strategy : Strategy σ) (spared : String → Prop) : Prop :=
  ∀ reference context completed state target,
    (strategy.answer (.target reference context completed) state).1 = some target →
      ¬ spared reference.name

def Strategy.Reusing (strategy : Strategy σ) (spared : String → Prop) : Prop :=
  ∀ reference context completed state,
    (strategy.answer (.target reference context completed) state).1 = none →
      ¬ spared reference.name → completed.named reference.name = #[]

def Stage.Unknown (spared : String → Prop) (stage : Stage) (run : Run σ) : Prop :=
  ∀ name stack, stage = .visit name stack → stack ≠ [] → ¬ spared name →
    run.completed.named name = #[]

theorem step_unknown (definition : Definition) (strategy : Strategy σ) (spared : String → Prop)
    (reusing : strategy.Reusing spared) (stage next : Stage) (run after : Run σ)
    (asked : List Exchange) (step : Step definition strategy stage run asked next after) :
    next.Unknown spared after := by
  cases step with
  | fresh node name reference lacking slots stack run state answered =>
    intro other _ same _ open_to
    cases same
    exact reusing reference _ run.completed run.state (congrArg Prod.fst answered) open_to
  | leaf | bare | begun | only | chosen | one | sized | reused | completed | attached => nofun

namespace Generator

variable (generator : Generator σ) (root : String) (graph : Graph) (spared : String → Prop)

theorem sparing_aliases (sparing : generator.strategy.Sparing spared) (depth : Nat)
    (success : (generator.generate depth root).1.result = .ok graph) (id : NodeId) (node : Node)
    (found : graph.node? id = some node) (excepted : spared node.name) : node.isAlias = false := by
  have member : node.seedling ∈ graph.seedlings := by
    refine List.mem_map_of_mem (Array.mem_toList_iff.2 ?_)
    exact Array.mem_of_getElem? found
  rw [generator.success_tallied root depth graph success] at member
  rcases List.mem_cons.1 member with topmost | child
  · exact congrArg Option.isSome (congrArg Seedling.target topmost)
  · obtain ⟨⟨question, answer⟩, asked, same⟩ := List.mem_filterMap.1 child
    obtain ⟨between, answered⟩ :=
      plays_member _ _ _ _ (generator.transcript_plays depth root) _ asked
    cases question with
    | target reference context completed =>
      have seedling := Seedling.mk.inj (Option.some.inj same)
      cases answer with
      | none => exact congrArg Option.isSome seedling.2.2.symm
      | some target =>
        have named : reference.name = node.name := seedling.1
        exact absurd (named ▸ excepted) (sparing reference context completed between target answered)
    | leaf | alternative | size => cases same

theorem passes_unknown (reusing : generator.strategy.Reusing spared) (stage : Stage)
    (run : Run (Array Exchange × σ)) (passes : generator.Passes root graph stage run) :
    stage.Unknown spared run := by
  obtain ⟨exchanges, _, _, _, comes, _⟩ := passes
  have noting : (generator.strategy.noting id).Reusing spared :=
    fun reference context completed state => reusing reference context completed state.2
  refine reaches_invariant (Stage.Unknown spared)
    (fun stage run asked next after step _ =>
      step_unknown _ _ spared noting stage next run after asked step) comes ?_
  intro name stack same open_to
  cases same
  exact absurd rfl open_to

section

variable (reusing : generator.strategy.Reusing spared) (id : NodeId) (node : Node)
  (found : graph.node? id = some node) (fresh : node.isAlias = false) (open_to : ¬ spared node.name)

include reusing found fresh open_to

theorem creates_unknown (positive : 0 < id) (run : Run (Array Exchange × σ))
    (creates : generator.Creates root graph id run) : run.completed.named node.name = #[] := by
  obtain ⟨stack, passes, below⟩ :=
    generator.creates_visited root graph id run node creates found fresh
  exact generator.passes_unknown root graph spared reusing _ run passes node.name stack rfl
    (below positive) open_to

theorem known_created (stage : Stage) (run : Run (Array Exchange × σ))
    (passes : generator.Passes root graph stage run) (known : run.completed.named node.name ≠ #[]) :
    id < run.graph.size := by
  refine Nat.lt_of_not_le fun older => ?_
  obtain ⟨between, creates, later⟩ := generator.passes_creates root graph stage run passes id older
    (graph.node_present id node found)
  have recorded := (generator.passes_stands root graph stage run passes).recorded
  obtain ⟨other, listed⟩ := Array.isEmpty_eq_false_iff_exists_mem.1 (by simpa using known)
  have present := run.graph.original_present _ other (recorded node.name other listed).2
  have positive : 0 < id := Nat.lt_of_lt_of_le (Nat.zero_lt_of_lt present) older
  exact later node.name known
    (generator.creates_unknown root graph spared reusing id node found fresh open_to positive between
      creates)

end

end Generator

section

variable (settings : Settings)

theorem random_sparing : (Strategy.random settings).Sparing (· ∈ settings.noAlias) := by
  intro reference context completed stream target answered excepted
  have spared : (RandomChoice.target settings reference completed stream).1 = none := by
    simp only [RandomChoice.target, if_pos (Or.inl excepted)]
  cases spared.symm.trans answered

theorem random_unlikely (none : settings.aliasProbability.chance = 0) :
    (Strategy.random settings).Sparing fun _ => True := by
  intro reference context completed stream target answered _
  have refused : (RandomChoice.target settings reference completed stream).1 = Option.none := by
    simp only [RandomChoice.target, RandomStream.chance_never settings.aliasProbability none]
    split
    · rfl
    · rfl
  cases refused.symm.trans answered

theorem random_reusing (all : settings.aliasProbability.chance = Nat.pow 2 64) :
    (Strategy.random settings).Reusing (· ∈ settings.noAlias) := by
  intro reference context completed stream answered open_to
  have answered : (RandomChoice.target settings reference completed stream).1 = none := answered
  by_contra known
  have candidates : (completed.named reference.name).isEmpty = false := by simpa using known
  have positive : 0 < (completed.named reference.name).size := Array.size_pos_iff.2 known
  simp only [RandomChoice.target, candidates, open_to, or_false, Bool.false_eq_true, if_false,
    RandomStream.chance_always settings.aliasProbability all, if_true] at answered
  have within := RandomStream.below_lt 32 _ (.inl rfl) positive
    (stream.chance settings.aliasProbability).2
  rw [Array.getElem?_eq_getElem within] at answered
  cases answered

end

theorem random_aliases_disciplined (definition : Definition) (settings : Settings)
    (stream : RandomStream) (completed : Completed) (root : String)
    (declared : definition.contains root = true) :
    let generator : Generator RandomStream := ⟨definition, .random settings, stream, completed⟩
    let excepted := fun name => name ∈ settings.noAlias
    ∃ graph, (∀ depth, max settings.maxDepth 1 ≤ depth →
        (generator.generate depth root).1.result = .ok graph) ∧
      (∀ id node, graph.node? id = some node → excepted node.name → node.isAlias = false) ∧
      (settings.aliasProbability.isNaN = true ∨ settings.aliasProbability.AtMost .zero →
        ∀ id node, graph.node? id = some node → node.isAlias = false) ∧
      (Binary64.one.AtMost settings.aliasProbability →
        (∀ id node, 0 < id → graph.node? id = some node → node.isAlias = false →
          ¬ excepted node.name → (∃ run, generator.Creates root graph id run) ∧
            ∀ run, generator.Creates root graph id run → run.completed.named node.name = #[]) ∧
        ∀ stage run, generator.Passes root graph stage run →
          ∀ id node, run.graph.size ≤ id → graph.node? id = some node → ¬ excepted node.name →
            run.completed.named node.name ≠ #[] → node.isAlias = true) := by
  intro generator excepted
  obtain ⟨graph, bounded⟩ := random_grown definition settings stream completed root declared
  have success := bounded _ (le_refl _)
  have passes := generator.success_passes root graph _ success
  refine ⟨graph, bounded, ?_, ?_, ?_⟩
  · exact generator.sparing_aliases root graph excepted (random_sparing settings) _ success
  · intro none id node found
    have unlikely := random_unlikely settings (settings.aliasProbability.chance_none none)
    exact generator.sparing_aliases root graph _ unlikely _ success id node found trivial
  · intro all
    have reusing := random_reusing settings (settings.aliasProbability.chance_all all)
    constructor
    · intro id node positive found fresh open_to
      obtain ⟨run, creates, _⟩ := generator.passes_creates root graph _ _ passes id (Nat.zero_le id)
        (graph.node_present id node found)
      exact ⟨⟨run, creates⟩, generator.creates_unknown root graph excepted reusing id node found fresh
        open_to positive⟩
    · intro stage run moment id node older found open_to known
      by_contra fresh
      have created := generator.known_created root graph excepted reusing id node found
        (Bool.eq_false_iff.2 fresh) open_to stage run moment known
      exact absurd created (Nat.not_lt_of_le older)

theorem certain_links_disciplined :
    let settings : Settings := { Settings.standard with aliasProbability := .one }
    let generator : Generator RandomStream := ⟨chainDefinition, .random settings, .ofSeed 7, ∅⟩
    chainDefinition.contains "link" = true ∧ Binary64.one.AtMost settings.aliasProbability ∧
    ∃ graph, (∀ depth, 8 ≤ depth → (generator.generate depth "link").1.result = .ok graph) ∧
      ∀ stage run, generator.Passes "link" graph stage run →
        ∀ id node, run.graph.size ≤ id → graph.node? id = some node →
          run.completed.named node.name ≠ #[] → node.isAlias = true := by
  intro settings generator
  have certain : Binary64.one.AtMost settings.aliasProbability := by decide
  have declared : chainDefinition.contains "link" = true := by decide
  obtain ⟨graph, bounded, _, _, all⟩ :=
    random_aliases_disciplined chainDefinition settings (.ofSeed 7) ∅ "link" declared
  refine ⟨declared, certain, graph, bounded, ?_⟩
  intro stage run passes id node older found known
  exact (all certain).2 stage run passes id node older found List.not_mem_nil known

end TreeGrammar
