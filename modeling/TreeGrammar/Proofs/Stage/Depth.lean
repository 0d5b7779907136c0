import TreeGrammar.Proofs.Stage.Careful
import TreeGrammar.Proofs.Stage.Creation
set_option autoImplicit false

namespace TreeGrammar

variable {σ : Type}

namespace Question

def depth : Question → Nat
  | leaf _ context => RandomChoice.childDepth context
  | alternative _ context => RandomChoice.childDepth context
  | size _ context => context.depth
  | target _ context _ => context.depth

end Question

theorem Graph.line_depth (graph : Graph) (id : NodeId) (above : List NodeId)
    (line : graph.Line (id :: above)) :
    id < graph.size ∧ graph.depth id = above.length + 1 := by
  refine ⟨graph.line_present _ line id (.head _), ?_⟩
  rw [Graph.depth, graph.line_ancestors id above line]

section

variable (stack : List Frame) (run : Run σ)

theorem visit_number (name : String) (stands : (Stage.visit name stack).Stands run) :
    ((run.shown (innermost stack)).map fun seen => seen.graph.size).getD 0 = run.graph.size := by
  cases stack with
  | nil => exact (standing_rooted stands).symm
  | cons frame rest => rfl

theorem branch_number (statement : Statement) (node : Nat)
    (stands : (Stage.branch statement node stack).Stands run)
    (newest : (Stage.branch statement node stack).Newest run) :
    ((run.shown (innermost stack)).map fun seen => seen.graph.size - 1).getD 0 = node := by
  cases stack with
  | nil =>
    cases stands.line with
    | root => rfl
  | cons frame rest =>
    have size : run.graph.size = node + 1 := newest statement node _ rfl
    exact Nat.sub_eq_of_eq_add size

end

section

variable (definition : Definition) (strategy : Strategy σ)

theorem step_depth (stage next : Stage) (run after : Run σ) (exchange : Exchange)
    (step : Step definition strategy stage run [exchange] next after) (stands : stage.Stands run)
    (newest : stage.Newest run) :
    exchange.decision.node < after.graph.size ∧
      after.graph.depth exchange.decision.node = exchange.question.depth := by
  have moment := asks_moment definition strategy stage run exchange stands newest
    (.inl ⟨next, after, step⟩)
  have line := (step_stands definition strategy stage next run after _ step stands).line
  cases step with
  | bare statement | begun statement =>
    obtain ⟨present, depth⟩ := Graph.line_depth _ _ _ line
    rw [Exchange.decision, Decision.node, visit_number _ run statement.name stands]
    exact ⟨present, depth.trans (moment_child_depth run _ _ moment).symm⟩
  | chosen statement node =>
    obtain ⟨present, depth⟩ := Graph.line_depth _ _ _ stands.line
    rw [Exchange.decision, Decision.node, branch_number _ run statement node stands newest]
    exact ⟨present, depth.trans (moment_child_depth run _ _ moment).symm⟩
  | sized | fresh =>
    obtain ⟨present, depth⟩ := Graph.line_depth _ _ _ line
    exact ⟨present, depth.trans (moment.depth _ rfl).symm⟩
  | reused =>
    obtain ⟨present, depth⟩ := Graph.line_depth _ _ _ (Graph.line_tail _ _ _ line)
    exact ⟨present, depth.trans (moment.depth _ rfl).symm⟩

theorem reaches_depth (stage last : Stage) (run final : Run σ) (exchanges : List Exchange)
    (reaches : Reaches definition strategy stage run exchanges last final)
    (stands : stage.Stands run) (newest : stage.Newest run) (exchange : Exchange)
    (member : exchange ∈ exchanges) :
    final.graph.depth exchange.decision.node = exchange.question.depth := by
  induction reaches with
  | refl => cases member
  | step stage next last run between after asked rest step onward ih =>
    rcases List.mem_append.1 member with now | later
    · rcases step_asks definition strategy stage next run between asked step with rfl | ⟨other, rfl⟩
      · cases now
      · obtain rfl := List.mem_singleton.1 now
        obtain ⟨present, depth⟩ :=
          step_depth definition strategy stage next run between exchange step stands newest
        have keeps := reaches_keeps definition strategy next last between after rest onward
        rw [between.graph.keeps_depth _ keeps _ present, depth]
    · exact ih (step_stands definition strategy stage next run between asked step stands)
        (step_newest definition strategy stage next run between asked step) later

end

theorem Generator.success_depth (generator : Generator σ) (depth : Nat) (root : String)
    (graph : Graph) (success : (generator.generate depth root).1.result = .ok graph)
    (exchange : Exchange) (member : exchange ∈ generator.transcript depth root) :
    graph.depth exchange.decision.node = exchange.question.depth := by
  obtain ⟨exchanges, node, run, comes, transcript, rfl⟩ :=
    generator.success_comes depth root graph success
  rw [transcript] at member
  exact reaches_depth _ _ _ _ _ run exchanges comes standing_empty nofun exchange member

end TreeGrammar
