import TreeGrammar.Proofs.Graph.Planted
import TreeGrammar.Proofs.Stage.Standing
set_option autoImplicit false

namespace TreeGrammar

variable {σ : Type}

section

variable (definition : Definition) (strategy : Strategy σ) (stage next : Stage) (run after : Run σ)
  (asked : List Exchange)

inductive Adds (graph later : Graph) : Prop where
  | none (keeps : graph.Keeps later) (same : later.size = graph.size)
  | node (name : String) (parent target : Option NodeId) (added : later = graph.add name parent target)
      (visited : target = Option.none → ∃ stack, stage = .visit name stack)

theorem step_adds (step : Step definition strategy stage run asked next after) :
    Adds stage run.graph after.graph := by
  cases step with
  | leaf | bare | begun => exact .node _ _ none rfl fun _ => ⟨_, rfl⟩
  | reused => exact .node _ _ (some _) rfl nofun
  | attached => exact .none (Graph.keeps_attach _ _ _) (Graph.size_attach _ _ _)
  | only | chosen | one | sized | fresh | completed => exact .none (Graph.keeps_refl _) rfl

variable (step : Step definition strategy stage run asked next after)

include step

theorem step_keeps : run.graph.Keeps after.graph := by
  cases step_adds definition strategy stage next run after asked step with
  | none keeps => exact keeps
  | node name parent target added =>
    rw [added]
    exact run.graph.keeps_add name parent target

theorem step_size : run.graph.size ≤ after.graph.size ∧ after.graph.size ≤ run.graph.size + 1 := by
  cases step_adds definition strategy stage next run after asked step with
  | none _ same => omega
  | node name parent target added =>
    rw [added, Graph.size_add]
    omega

theorem step_known (name : String) (known : run.completed.named name ≠ #[]) :
    after.completed.named name ≠ #[] := by
  cases step with
  | completed node other =>
    rw [Completed.named_record]
    by_cases same : name = other
    · rw [if_pos same]
      exact Array.push_ne_empty
    · rw [if_neg same]
      exact known
  | leaf | bare | begun | only | chosen | one | sized | fresh | reused | attached => exact known

end

section

variable (definition : Definition) (strategy : Strategy σ) (stage last : Stage) (run final : Run σ)
  (exchanges : List Exchange) (reaches : Reaches definition strategy stage run exchanges last final)

include reaches

theorem reaches_keeps : run.graph.Keeps final.graph := by
  induction reaches with
  | refl stage run => exact run.graph.keeps_refl
  | step stage next last run between after asked rest step _ ih =>
    exact run.graph.keeps_trans _ _ (step_keeps definition strategy stage next run between asked step) ih

theorem reaches_known (name : String) (known : run.completed.named name ≠ #[]) :
    final.completed.named name ≠ #[] :=
  reaches_invariant (fun _ run => run.completed.named name ≠ #[])
    (fun stage run asked next after step =>
      step_known definition strategy stage next run after asked step name) reaches known

theorem reaches_creates (id : Nat) (older : run.graph.size ≤ id) (newer : id < final.graph.size) :
    ∃ front middle between asked next later back,
      Reaches definition strategy stage run front middle between ∧
      Step definition strategy middle between asked next later ∧
      Reaches definition strategy next later back last final ∧
      between.graph.size = id ∧ later.graph.size = id + 1 := by
  induction reaches with
  | refl stage run => omega
  | step stage next last run between after asked rest step onward ih =>
    have sizes := step_size definition strategy stage next run between asked step
    -- The first step after which the graph has a node of this number is this one or a later one.
    by_cases later : between.graph.size ≤ id
    · obtain ⟨front, middle, here, exchange, beyond, there, back, reaches, creating, ends⟩ :=
        ih later newer
      exact ⟨asked ++ front, middle, here, exchange, beyond, there, back,
        .step _ _ _ _ _ _ asked front step reaches, creating, ends⟩
    · exact ⟨[], stage, run, asked, next, between, rest, .refl stage run, step, onward, by omega,
        by omega⟩

end

namespace Generator

variable (generator : Generator σ) (root : String) (graph : Graph)

def Passes (stage : Stage) (run : Run (Array Exchange × σ)) : Prop :=
  ∃ exchanges rest node last, generator.Comes root exchanges stage run ∧
    Reaches generator.definition (generator.strategy.noting id) stage run rest (.made node []) last ∧
    last.graph = graph

def Creates (node : NodeId) (run : Run (Array Exchange × σ)) : Prop :=
  ∃ stage asked next after, generator.Passes root graph stage run ∧
    Step generator.definition (generator.strategy.noting id) stage run asked next after ∧
    generator.Passes root graph next after ∧ run.graph.size = node ∧ after.graph.size = node + 1

theorem success_passes (depth : Nat) (success : (generator.generate depth root).1.result = .ok graph) :
    generator.Passes root graph (.visit root []) (generator.start root) := by
  obtain ⟨exchanges, node, run, comes, _, rfl⟩ := generator.success_comes depth root graph success
  exact ⟨[], exchanges, node, run, .refl _ _, comes, rfl⟩

section

variable (stage : Stage) (run : Run (Array Exchange × σ)) (passes : generator.Passes root graph stage run)

include passes

theorem passes_keeps : run.graph.Keeps graph := by
  obtain ⟨_, rest, node, last, _, onward, rfl⟩ := passes
  exact reaches_keeps _ _ stage _ run last rest onward

theorem passes_stands : stage.Stands run := by
  obtain ⟨exchanges, _, _, _, comes, _⟩ := passes
  exact generator.comes_stands root exchanges stage run comes

theorem passes_creates (node : NodeId) (older : run.graph.size ≤ node) (newer : node < graph.size) :
    ∃ between, generator.Creates root graph node between ∧
      ∀ name, run.completed.named name ≠ #[] → between.completed.named name ≠ #[] := by
  obtain ⟨exchanges, rest, topmost, last, comes, onward, rfl⟩ := passes
  obtain ⟨front, middle, between, asked, next, later, back, reaches, step, ends, before, after⟩ :=
    reaches_creates _ _ stage _ run last rest onward node older newer
  have here := reaches_trans comes reaches
  have there := reaches_trans here (reaches_step step)
  have rejoined := reaches_trans (reaches_step step) ends
  exact ⟨between,
    ⟨middle, asked, next, later, ⟨_, _, topmost, last, here, rejoined, rfl⟩, step,
      ⟨_, back, topmost, last, there, ends, rfl⟩, before, after⟩,
    reaches_known _ _ stage middle run between front reaches⟩

end

theorem creates_visited (id : NodeId) (run : Run (Array Exchange × σ)) (node : Node)
    (creates : generator.Creates root graph id run) (found : graph.node? id = some node)
    (fresh : node.isAlias = false) :
    ∃ stack, generator.Passes root graph (.visit node.name stack) run ∧ (0 < id → stack ≠ []) := by
  obtain ⟨stage, asked, next, after, passes, step, onward, rfl, newest⟩ := creates
  cases step_adds _ _ stage next run after asked step with
  | none _ same => omega
  | node name parent target added visited =>
    have there : after.graph.node? run.graph.size = some ⟨name, #[], parent, target⟩ := by
      rw [added, Graph.node_add, if_pos rfl]
    obtain ⟨children, kept⟩ := generator.passes_keeps root graph next after onward _ _ there
    rw [found] at kept
    cases kept
    obtain ⟨stack, rfl⟩ := visited (fresh_target _ fresh)
    refine ⟨stack, passes, ?_⟩
    rintro positive rfl
    have rooted : run.graph.size = 0 :=
      standing_rooted (generator.passes_stands root graph _ run passes)
    exact absurd rooted (Nat.ne_of_gt positive)

end Generator

end TreeGrammar
