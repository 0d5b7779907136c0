import TreeGrammar.Proofs.Strategy.Transcript
set_option autoImplicit false

namespace TreeGrammar

variable {σ : Type}

structure Frame where
  node : NodeId
  name : String
  lacking : List Reference
  slots : Alternative

-- Stacks are written innermost first.
inductive Stage where
  | visit (name : String) (stack : List Frame)
  | branch (statement : Statement) (node : NodeId) (stack : List Frame)
  | fill (frame : Frame) (stack : List Frame)
  -- The node and all below it are done, but its parent does not list it yet.
  | made (node : NodeId) (stack : List Frame)

namespace Stage

def frames : Stage → List Frame
  | visit _ stack => stack
  | branch _ _ stack => stack
  | fill frame stack => frame :: stack
  | made _ stack => stack

def stack (stage : Stage) : List NodeId := stage.frames.map Frame.node

end Stage

def innermost (stack : List Frame) : Option NodeId := stack.head?.map Frame.node

namespace Run

def shown (run : Run σ) (node : Option NodeId) : Option Context := node.map fun id => ⟨run.graph, id⟩

def visited (run : Run σ) (statement : Statement) (parent : Option NodeId) (state : σ) : Run σ :=
  { run with
    graph := run.graph.add statement.name parent none
    log := run.log.push (.visiting statement.name parent)
    state }

end Run

section

variable (definition : Definition) (strategy : Strategy σ)

-- A step asks at most one question and does not recurse, and there is no limit on the depth; so
-- what every step keeps is kept by every run, also by one that halts or never ends.
inductive Step : Stage → Run σ → List Exchange → Stage → Run σ → Prop where
  | leaf (statement : Statement) (stack : List Frame) (run : Run σ)
      (stated : definition.statement? statement.name = some statement)
      (childless : statement.isLeaf = true) :
      Step (.visit statement.name stack) run [] (.made run.graph.size stack)
        (run.visited statement (innermost stack) run.state)
  | bare (statement : Statement) (stack : List Frame) (run : Run σ) (state : σ)
      (stated : definition.statement? statement.name = some statement)
      (branching : statement.isLeaf = false)
      (answered : strategy.answer (.leaf statement (run.shown (innermost stack))) run.state =
        (true, state)) :
      Step (.visit statement.name stack) run
        [⟨.leaf statement (run.shown (innermost stack)), true⟩] (.made run.graph.size stack)
        (run.visited statement (innermost stack) state)
  | begun (statement : Statement) (stack : List Frame) (run : Run σ) (state : σ)
      (stated : definition.statement? statement.name = some statement)
      (branching : statement.isLeaf = false)
      (answered : strategy.answer (.leaf statement (run.shown (innermost stack))) run.state =
        (false, state)) :
      Step (.visit statement.name stack) run
        [⟨.leaf statement (run.shown (innermost stack)), false⟩]
        (.branch statement run.graph.size stack)
        (run.visited statement (innermost stack) state)
  | only (statement : Statement) (node : NodeId) (stack : List Frame) (run : Run σ)
      (alternative : Alternative) (single : statement.alternatives = [alternative]) :
      Step (.branch statement node stack) run []
        (.fill ⟨node, statement.name, [], alternative⟩ stack) run
  | chosen (statement : Statement) (node : NodeId) (stack : List Frame) (run : Run σ) (index : Nat)
      (state : σ) (alternative : Alternative) (several : statement.alternatives.length ≠ 1)
      (answered : strategy.answer (.alternative statement (run.shown (innermost stack))) run.state =
        (index, state))
      (found : statement.alternatives[index]? = some alternative) :
      Step (.branch statement node stack) run
        [⟨.alternative statement (run.shown (innermost stack)), index⟩]
        (.fill ⟨node, statement.name, [], alternative⟩ stack) { run with state }
  | one (node : NodeId) (name : String) (reference : Reference) (slots : Alternative)
      (stack : List Frame) (run : Run σ) (single : reference.multiplicity = .exactlyOne) :
      Step (.fill ⟨node, name, [], reference :: slots⟩ stack) run []
        (.fill ⟨node, name, [reference], slots⟩ stack) run
  | sized (node : NodeId) (name : String) (reference : Reference) (slots : Alternative)
      (stack : List Frame) (run : Run σ) (size : Nat) (state : σ)
      (several : reference.multiplicity ≠ .exactlyOne)
      (answered : strategy.answer (.size reference ⟨run.graph, node⟩) run.state = (size, state))
      (admitted : reference.multiplicity.admits size) :
      Step (.fill ⟨node, name, [], reference :: slots⟩ stack) run
        [⟨.size reference ⟨run.graph, node⟩, size⟩]
        (.fill ⟨node, name, List.replicate size reference, slots⟩ stack)
        { run with log := run.log.push (.sized reference node size), state }
  | fresh (node : NodeId) (name : String) (reference : Reference) (lacking : List Reference)
      (slots : Alternative) (stack : List Frame) (run : Run σ) (state : σ)
      (answered : strategy.answer (.target reference ⟨run.graph, node⟩ run.completed) run.state =
        (none, state)) :
      Step (.fill ⟨node, name, reference :: lacking, slots⟩ stack) run
        [⟨.target reference ⟨run.graph, node⟩ run.completed, none⟩]
        (.visit reference.name (⟨node, name, lacking, slots⟩ :: stack)) { run with state }
  | reused (node : NodeId) (name : String) (reference : Reference) (lacking : List Reference)
      (slots : Alternative) (stack : List Frame) (run : Run σ) (target : NodeId) (state : σ)
      (answered : strategy.answer (.target reference ⟨run.graph, node⟩ run.completed) run.state =
        (some target, state))
      (known : target ∈ run.completed.named reference.name) :
      Step (.fill ⟨node, name, reference :: lacking, slots⟩ stack) run
        [⟨.target reference ⟨run.graph, node⟩ run.completed, some target⟩]
        (.made run.graph.size (⟨node, name, lacking, slots⟩ :: stack))
        { run with
          graph := run.graph.add reference.name (some node) (some target)
          log := run.log.push (.reusing target node)
          state }
  | completed (node : NodeId) (name : String) (stack : List Frame) (run : Run σ) :
      Step (.fill ⟨node, name, [], []⟩ stack) run [] (.made node stack)
        { run with completed := run.completed.record name node }
  | attached (child : NodeId) (frame : Frame) (stack : List Frame) (run : Run σ) :
      Step (.made child (frame :: stack)) run [] (.fill frame stack)
        { run with graph := run.graph.attach frame.node child }

inductive Halts : Stage → Run σ → List Exchange → GenerationError → Run σ → Prop where
  | unknown (name : String) (stack : List Frame) (run : Run σ)
      (missing : definition.statement? name = none) :
      Halts (.visit name stack) run [] (.unknownStatement name)
        { run with log := run.log.push (.visiting name (innermost stack)) }
  | alternative (statement : Statement) (node : NodeId) (stack : List Frame) (run : Run σ)
      (index : Nat) (state : σ) (several : statement.alternatives.length ≠ 1)
      (answered : strategy.answer (.alternative statement (run.shown (innermost stack))) run.state =
        (index, state))
      (missing : statement.alternatives[index]? = none) :
      Halts (.branch statement node stack) run
        [⟨.alternative statement (run.shown (innermost stack)), index⟩]
        (.alternativeOutOfRange statement.name index statement.alternatives.length)
        { run with state }
  | size (node : NodeId) (name : String) (reference : Reference) (slots : Alternative)
      (stack : List Frame) (run : Run σ) (size : Nat) (state : σ)
      (several : reference.multiplicity ≠ .exactlyOne)
      (answered : strategy.answer (.size reference ⟨run.graph, node⟩) run.state = (size, state))
      (refused : ¬ reference.multiplicity.admits size) :
      Halts (.fill ⟨node, name, [], reference :: slots⟩ stack) run
        [⟨.size reference ⟨run.graph, node⟩, size⟩] (.sizeOutOfRange reference size)
        { run with state }
  | target (node : NodeId) (name : String) (reference : Reference) (lacking : List Reference)
      (slots : Alternative) (stack : List Frame) (run : Run σ) (target : NodeId) (state : σ)
      (cause : GenerationError)
      (answered : strategy.answer (.target reference ⟨run.graph, node⟩ run.completed) run.state =
        (some target, state))
      (refused : Growth.checkTarget reference target { run with state } =
        .error (.error cause) { run with state }) :
      Halts (.fill ⟨node, name, reference :: lacking, slots⟩ stack) run
        [⟨.target reference ⟨run.graph, node⟩ run.completed, some target⟩] cause
        { run with state }

inductive Reaches : Stage → Run σ → List Exchange → Stage → Run σ → Prop where
  | refl (stage : Stage) (run : Run σ) : Reaches stage run [] stage run
  | step (stage next last : Stage) (run between after : Run σ) (asked rest : List Exchange)
      (first : Step definition strategy stage run asked next between)
      (onward : Reaches next between rest last after) :
      Reaches stage run (asked ++ rest) last after

end

section

variable {definition : Definition} {strategy : Strategy σ} {stage middle last : Stage}
  {run between after : Run σ} {asked more : List Exchange}

theorem reaches_step (step : Step definition strategy stage run asked last after) :
    Reaches definition strategy stage run asked last after := by
  have whole := Reaches.step stage last last run after after asked [] step (.refl last after)
  rwa [List.append_nil] at whole

theorem reaches_trans (first : Reaches definition strategy stage run asked middle between)
    (second : Reaches definition strategy middle between more last after) :
    Reaches definition strategy stage run (asked ++ more) last after := by
  induction first with
  | refl stage run => exact second
  | step stage next middle run next_run between asked rest step _ ih =>
    rw [List.append_assoc]
    exact .step stage next last run next_run after asked _ step (ih second)

theorem reaches_invariant (keeps : Stage → Run σ → Prop)
    (kept : ∀ stage run asked next after, Step definition strategy stage run asked next after →
      keeps stage run → keeps next after)
    (reaches : Reaches definition strategy stage run asked last after) (start : keeps stage run) :
    keeps last after := by
  induction reaches with
  | refl stage run => exact start
  | step stage next last run between after asked rest step _ ih =>
    exact ih (kept stage run asked next between step start)

theorem plays_one (question : Question) (state next : σ) (answer : question.Answer)
    (answered : strategy.answer question state = (answer, next)) :
    strategy.Plays state [⟨question, answer⟩] next := by
  have plays : strategy.Plays state [⟨question, (strategy.answer question state).1⟩]
      (strategy.answer question state).2 := .cons question state _ [] (.nil _)
  rwa [answered] at plays

theorem step_plays (step : Step definition strategy stage run asked last after) :
    strategy.Plays run.state asked after.state := by
  cases step with
  | leaf | only | one | completed | attached => exact .nil _
  | bare _ _ _ _ _ _ answered => exact plays_one _ _ _ _ answered
  | begun _ _ _ _ _ _ answered => exact plays_one _ _ _ _ answered
  | chosen _ _ _ _ _ _ _ _ answered => exact plays_one _ _ _ _ answered
  | sized _ _ _ _ _ _ _ _ _ answered => exact plays_one _ _ _ _ answered
  | fresh _ _ _ _ _ _ _ _ answered => exact plays_one _ _ _ _ answered
  | reused _ _ _ _ _ _ _ _ _ answered => exact plays_one _ _ _ _ answered

theorem halts_plays {cause : GenerationError}
    (halts : Halts definition strategy stage run asked cause after) :
    strategy.Plays run.state asked after.state := by
  cases halts with
  | unknown => exact .nil _
  | alternative _ _ _ _ _ _ _ answered => exact plays_one _ _ _ _ answered
  | size _ _ _ _ _ _ _ _ _ answered => exact plays_one _ _ _ _ answered
  | target _ _ _ _ _ _ _ _ _ _ answered => exact plays_one _ _ _ _ answered

theorem reaches_plays (reaches : Reaches definition strategy stage run asked last after) :
    strategy.Plays run.state asked after.state := by
  induction reaches with
  | refl stage run => exact .nil _
  | step stage next last run between after asked rest step _ ih =>
    exact plays_append strategy _ _ _ asked rest (step_plays step) ih

end

end TreeGrammar
