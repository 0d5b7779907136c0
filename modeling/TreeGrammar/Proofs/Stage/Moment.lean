import TreeGrammar.Proofs.Growth
import TreeGrammar.Proofs.Stage.Standing
set_option autoImplicit false

namespace TreeGrammar

variable {σ : Type}

namespace Question

def context? : Question → Option Context
  | leaf _ context => context
  | alternative _ context => context
  | size _ context => some context
  | target _ context _ => some context

def completed? : Question → Option Completed
  | target _ _ completed => some completed
  | _ => none

-- A node is created just before its alternative is asked for, and is not expanded yet.
def created (graph : Graph) : Question → List NodeId
  | alternative _ _ => [graph.size - 1]
  | _ => []

end Question

structure Moment (run : Run σ) (stack : List NodeId) (question : Question) : Prop where
  shown : question.context? = run.shown stack.head?
  known : ∀ completed ∈ question.completed?, completed = run.completed
  chain : ∀ context ∈ question.context?,
    context.node :: context.graph.ancestors context.node = stack
  bottom : ∀ context ∈ question.context?, stack.getLast? = some 0
  depth : ∀ context ∈ question.context?, context.depth = stack.length
  unlisted : ∀ id ∈ question.created run.graph ++ stack, ∀ other, id ∉ run.graph.children other
  listed : ∀ id : Nat, id < run.graph.size → id ∉ question.created run.graph ++ stack →
    run.graph.Listed id
  unfinished : ∀ name id, id ∈ run.completed.named name → id ∉ question.created run.graph ++ stack
  completed : ∀ name id, id ∈ run.completed.named name → run.graph.Original name id

theorem Graph.line_append (graph : Graph) (front back : List NodeId)
    (line : graph.Line (front ++ back)) : graph.Line back := by
  induction front with
  | nil => exact line
  | cons id rest ih => exact ih (graph.line_tail id _ line)

theorem moment_of_standing (run : Run σ) (stack : List NodeId) (question : Question)
    (building : List (String × NodeId)) (shown : question.context? = run.shown stack.head?)
    (known : ∀ completed ∈ question.completed?, completed = run.completed)
    (nodes : building.map Prod.snd = question.created run.graph ++ stack)
    (standing : Standing run.graph run.completed building (question.created run.graph ++ stack)) :
    Moment run stack question := by
  have chain : ∀ context ∈ question.context?,
      context.node :: context.graph.ancestors context.node = stack ∧ stack.getLast? = some 0 := by
    intro context member
    have line := run.graph.line_append _ stack standing.line
    cases stack with
    | nil =>
      rw [shown] at member
      cases member
    | cons id rest =>
      rw [shown] at member
      cases member
      exact ⟨congrArg (id :: ·) (run.graph.line_ancestors id rest line),
        run.graph.line_bottom id rest line⟩
  refine ⟨shown, known, fun context member => (chain context member).1,
    fun context member => (chain context member).2, ?_, standing.apart, standing.listed, ?_, ?_⟩
  · intro context member
    exact congrArg List.length (chain context member).1
  · intro name id recorded
    rw [← nodes]
    exact (standing.recorded name id recorded).1
  · intro name id recorded
    exact (standing.recorded name id recorded).2

section

variable (definition : Definition) (strategy : Strategy σ)

def Asks (stage : Stage) (run : Run σ) (exchange : Exchange) : Prop :=
  (∃ next after, Step definition strategy stage run [exchange] next after) ∨
    ∃ cause after, Halts definition strategy stage run [exchange] cause after

theorem step_asks (stage next : Stage) (run after : Run σ) (asked : List Exchange)
    (step : Step definition strategy stage run asked next after) :
    asked = [] ∨ ∃ exchange, asked = [exchange] := by
  cases step with
  | leaf | only | one | completed | attached => exact .inl rfl
  | bare | begun | chosen | sized | fresh | reused => exact .inr ⟨_, rfl⟩

theorem halts_asks (stage : Stage) (run after : Run σ) (refused : List Exchange)
    (cause : GenerationError) (halts : Halts definition strategy stage run refused cause after) :
    refused = [] ∨ ∃ exchange, refused = [exchange] := by
  cases halts with
  | unknown => exact .inl rfl
  | alternative | size | target => exact .inr ⟨_, rfl⟩

theorem reaches_split (stage last : Stage) (run after : Run σ)
    (exchanges front back : List Exchange) (exchange : Exchange)
    (reaches : Reaches definition strategy stage run exchanges last after)
    (split : exchanges = front ++ exchange :: back) :
    ∃ middle between, Reaches definition strategy stage run front middle between ∧
      Asks definition strategy middle between exchange := by
  induction reaches generalizing front with
  | refl stage run =>
    cases front with
    | nil => cases split
    | cons => cases split
  | step stage next last run between after asked rest first onward ih =>
    rcases step_asks definition strategy stage next run between asked first with rfl | ⟨other, rfl⟩
    · obtain ⟨middle, there, reaches, asks⟩ := ih front split
      exact ⟨middle, there, .step _ _ _ _ _ _ [] front first reaches, asks⟩
    · cases front with
      | nil =>
        cases split
        exact ⟨stage, run, .refl stage run, .inl ⟨next, between, first⟩⟩
      | cons earlier front =>
        cases split
        obtain ⟨middle, there, reaches, asks⟩ := ih front rfl
        exact ⟨middle, there, .step _ _ _ _ _ _ [_] front first reaches, asks⟩

end

def Stage.Newest (stage : Stage) (run : Run σ) : Prop :=
  ∀ statement node stack, stage = .branch statement node stack → run.graph.size = node + 1

theorem step_newest (definition : Definition) (strategy : Strategy σ) (stage next : Stage)
    (run after : Run σ) (asked : List Exchange)
    (step : Step definition strategy stage run asked next after) : next.Newest after := by
  cases step with
  | begun statement stack run =>
    intro _ node _ same
    cases same
    exact run.graph.size_add statement.name _ none
  | leaf | bare | only | chosen | one | sized | fresh | reused | completed | attached => nofun

section

variable {run : Run σ} {stack : List Frame}

theorem shown_innermost : run.shown (innermost stack) = run.shown (stack.map Frame.node).head? := by
  rw [List.head?_map]
  rfl

theorem visit_moment (name : String) (statement : Statement)
    (stands : (Stage.visit name stack).Stands run) :
    Moment run (stack.map Frame.node) (.leaf statement (run.shown (innermost stack))) :=
  moment_of_standing run _ _ (Stage.entries stack) shown_innermost nofun (Stage.entries_nodes stack)
    stands

theorem branch_moment (statement : Statement) (node : Nat)
    (stands : (Stage.branch statement node stack).Stands run)
    (newest : (Stage.branch statement node stack).Newest run) :
    Moment run (stack.map Frame.node) (.alternative statement (run.shown (innermost stack))) := by
  have created : [run.graph.size - 1] ++ stack.map Frame.node = node :: stack.map Frame.node := by
    rw [newest statement node stack rfl, Nat.add_sub_cancel]
    rfl
  refine moment_of_standing run _ _ ((statement.name, node) :: Stage.entries stack) shown_innermost
    nofun ?_ ?_
  · rw [Question.created, created, List.map_cons, Stage.entries_nodes]
  · rw [Question.created, created]
    exact stands

theorem fill_moment (frame : Frame) (question : Question)
    (shown : question.context? = some ⟨run.graph, frame.node⟩)
    (known : ∀ completed ∈ question.completed?, completed = run.completed)
    (expanded : question.created run.graph = [])
    (stands : (Stage.fill frame stack).Stands run) :
    Moment run ((frame :: stack).map Frame.node) question := by
  refine moment_of_standing run _ question (Stage.entries (frame :: stack)) shown known ?_ ?_
  · rw [expanded, Stage.entries_nodes]
    rfl
  · rw [expanded]
    exact stands

end

theorem asks_moment (definition : Definition) (strategy : Strategy σ) (stage : Stage) (run : Run σ)
    (exchange : Exchange) (stands : stage.Stands run) (newest : stage.Newest run)
    (asks : Asks definition strategy stage run exchange) :
    Moment run stage.stack exchange.question := by
  have same : ∀ completed ∈ (some run.completed), completed = run.completed :=
    fun _ member => (Option.some.inj member).symm
  rcases asks with ⟨next, after, step⟩ | ⟨cause, after, halts⟩
  · cases step with
    | bare statement => exact visit_moment statement.name statement stands
    | begun statement => exact visit_moment statement.name statement stands
    | chosen statement node => exact branch_moment statement node stands newest
    | sized => exact fill_moment _ _ rfl nofun rfl stands
    | fresh => exact fill_moment _ _ rfl same rfl stands
    | reused => exact fill_moment _ _ rfl same rfl stands
  · cases halts with
    | alternative statement node => exact branch_moment statement node stands newest
    | size => exact fill_moment _ _ rfl nofun rfl stands
    | target => exact fill_moment _ _ rfl same rfl stands

namespace Generator

variable (generator : Generator σ) (root : String)

theorem comes_newest (exchanges : List Exchange) (stage : Stage) (run : Run (Array Exchange × σ))
    (comes : generator.Comes root exchanges stage run) : stage.Newest run :=
  reaches_invariant Stage.Newest
    (fun stage run asked next after step _ => step_newest _ _ stage next run after asked step) comes
    nofun

theorem transcript_asks (depth : Nat) (front back : List Exchange) (exchange : Exchange)
    (split : generator.transcript depth root = front ++ exchange :: back) :
    ∃ stage run, generator.Comes root front stage run ∧
      Asks generator.definition (generator.strategy.noting id) stage run exchange := by
  cases generator.generate_ending depth root with
  | grown exchanges node run comes transcript =>
    exact reaches_split _ _ _ _ _ run exchanges front back exchange comes (transcript.symm.trans split)
  | halted exchanges refused stage run after cause comes halts transcript =>
    rw [transcript] at split
    have refusing : ∀ rest, refused = exchange :: rest →
        Asks generator.definition (generator.strategy.noting id) stage run exchange := by
      intro rest same
      rcases halts_asks _ _ stage run after refused cause halts with rfl | ⟨other, rfl⟩
      · cases same
      · cases same
        exact .inr ⟨cause, after, halts⟩
    rcases List.append_eq_append_iff.1 split with ⟨more, rfl, final⟩ | ⟨more, rfl, final⟩
    · cases more with
      | nil =>
        rw [List.append_nil]
        exact ⟨stage, run, comes, refusing back final⟩
      | cons other more =>
        rcases halts_asks _ _ stage run after refused cause halts with rfl | ⟨only, rfl⟩
        · cases final
        · simp at final
    · cases more with
      | nil =>
        rw [List.append_nil] at comes
        exact ⟨stage, run, comes, refusing back final.symm⟩
      | cons other more =>
        cases final
        exact reaches_split _ _ _ _ _ run _ front more exchange comes rfl
  | deep exchanges name stack run comes limit transcript =>
    exact reaches_split _ _ _ _ _ run exchanges front back exchange comes (transcript.symm.trans split)

end Generator

theorem questions_show_stack (generator : Generator σ) (root : String) :
    (∀ exchanges stage run exchange, generator.Comes root exchanges stage run →
      Asks generator.definition (generator.strategy.noting id) stage run exchange →
      Moment run stage.stack exchange.question) ∧
    ∀ depth front exchange back, generator.transcript depth root = front ++ exchange :: back →
      ∃ stage run, generator.Comes root front stage run ∧
        Asks generator.definition (generator.strategy.noting id) stage run exchange := by
  refine ⟨?_, fun depth front exchange back => generator.transcript_asks root depth front back exchange⟩
  intro exchanges stage run exchange comes asks
  exact asks_moment _ _ stage run exchange (generator.comes_stands root exchanges stage run comes)
    (generator.comes_newest root exchanges stage run comes) asks

def begunBox : Graph := ⟨#[⟨"box", #[], none, none⟩, ⟨"item", #[], some 0, none⟩]⟩

theorem begun_box_shows_stack :
    boxGenerator.transcript 3 "box" = (boxGenerator.transcript 3 "box").take 4 ++
        ⟨.size ⟨"label", .atMostOne⟩ ⟨begunBox, 1⟩, (0 : Nat)⟩ ::
          (boxGenerator.transcript 3 "box").drop 5 ∧
      ∃ stage run, boxGenerator.Comes "box" ((boxGenerator.transcript 3 "box").take 4) stage run ∧
        Moment run stage.stack (.size ⟨"label", .atMostOne⟩ ⟨begunBox, 1⟩) ∧ stage.stack = [1, 0] := by
  have split : boxGenerator.transcript 3 "box" = (boxGenerator.transcript 3 "box").take 4 ++
      ⟨.size ⟨"label", .atMostOne⟩ ⟨begunBox, 1⟩, (0 : Nat)⟩ ::
        (boxGenerator.transcript 3 "box").drop 5 := by decide +kernel
  obtain ⟨moments, stages⟩ := questions_show_stack boxGenerator "box"
  obtain ⟨stage, run, comes, asks⟩ := stages 3 _ _ _ split
  have moment := moments _ stage run _ comes asks
  have above : begunBox.ancestors 1 = [0] := by decide +kernel
  refine ⟨split, stage, run, comes, moment, ?_⟩
  rw [← moment.chain ⟨begunBox, 1⟩ rfl, above]

end TreeGrammar
