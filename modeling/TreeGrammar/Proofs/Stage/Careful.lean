import TreeGrammar.Proofs.Stage.Moment
import TreeGrammar.Proofs.Stage.Refusal
import TreeGrammar.Strategy.Random
set_option autoImplicit false

namespace TreeGrammar

variable {σ : Type}

def Question.Branching : Question → Prop
  | alternative statement _ => statement.isLeaf = false
  | _ => True

structure Strategy.Careful (strategy : Strategy σ) (limit : Nat) : Prop where
  accepted : ∀ question state, question.Branching →
    Exchange.Accepted ⟨question, (strategy.answer question state).1⟩
  bare : ∀ statement context state, limit ≤ RandomChoice.childDepth context →
    (strategy.answer (.leaf statement context) state).1 = true

theorem careful_noting {ω : Type} (note : Exchange → ω) (strategy : Strategy σ) (limit : Nat)
    (careful : strategy.Careful limit) : (strategy.noting note).Careful limit :=
  ⟨fun question state => careful.accepted question state.2,
    fun statement context state => careful.bare statement context state.2⟩

theorem plays_answered (strategy : Strategy σ) (state last : σ) (exchange : Exchange)
    (plays : strategy.Plays state [exchange] last) :
    exchange.answer = (strategy.answer exchange.question state).1 := by
  cases plays
  rfl

section

variable (definition : Definition) (strategy : Strategy σ) (stage : Stage) (run : Run σ)
  (exchange : Exchange)

theorem asks_answered (asks : Asks definition strategy stage run exchange) :
    exchange.answer = (strategy.answer exchange.question run.state).1 := by
  rcases asks with ⟨next, after, step⟩ | ⟨cause, after, halts⟩
  · exact plays_answered strategy _ _ exchange (step_plays step)
  · exact plays_answered strategy _ _ exchange (halts_plays halts)

theorem asks_branching (asks : Asks definition strategy stage run exchange)
    (declared : stage.Declared definition) : exchange.question.Branching := by
  rcases asks with ⟨next, after, step⟩ | ⟨cause, after, halts⟩
  · cases step with
    | chosen => exact declared.1.2
    | bare | begun | sized | fresh | reused => trivial
  · cases halts with
    | alternative => exact declared.1.2
    | size | target => trivial

theorem asks_accepted (limit : Nat) (careful : strategy.Careful limit)
    (asks : Asks definition strategy stage run exchange) (declared : stage.Declared definition) :
    exchange.Accepted := by
  have accepted := careful.accepted exchange.question run.state
    (asks_branching definition strategy stage run exchange asks declared)
  rwa [← asks_answered definition strategy stage run exchange asks] at accepted

end

-- The root is visited even where the limit is 0.
def Stage.Within (limit : Nat) : Stage → Prop
  | branch _ _ stack => stack.length + 1 < max limit 1
  | stage => stage.frames.length < max limit 1

theorem moment_child_depth (run : Run σ) (stack : List NodeId) (question : Question)
    (moment : Moment run stack question) :
    RandomChoice.childDepth question.context? = stack.length + 1 := by
  have depth := moment.depth
  rw [moment.shown] at depth ⊢
  cases stack with
  | nil => rfl
  | cons id rest => exact congrArg (· + 1) (depth ⟨run.graph, id⟩ rfl)

theorem visit_child_depth (statement : Statement) (stack : List Frame) (run : Run σ)
    (stands : (Stage.visit statement.name stack).Stands run) :
    RandomChoice.childDepth (run.shown (innermost stack)) = stack.length + 1 := by
  have depth := moment_child_depth run _ _ (visit_moment statement.name statement stands)
  rwa [List.length_map] at depth

theorem step_within (definition : Definition) (strategy : Strategy σ) (limit : Nat)
    (careful : strategy.Careful limit) (stage next : Stage) (run after : Run σ)
    (asked : List Exchange) (step : Step definition strategy stage run asked next after)
    (stands : stage.Stands run) (within : stage.Within limit) : next.Within limit := by
  cases step with
  | begun statement stack run state _ _ answered =>
    have depth := visit_child_depth statement stack run stands
    have above : ¬ limit ≤ stack.length + 1 := by
      intro deep
      have bare := careful.bare statement (run.shown (innermost stack)) run.state
        (Nat.le_trans deep (Nat.le_of_eq depth.symm))
      rw [answered] at bare
      cases bare
    exact lt_max_of_lt_left (Nat.lt_of_not_le above)
  | completed => exact Nat.lt_of_succ_lt within
  | leaf | bare | only | chosen | one | sized | fresh | reused | attached => exact within

namespace Generator

variable (generator : Generator σ) (limit : Nat) (careful : generator.strategy.Careful limit)
  (root : String)

include careful

theorem comes_within (exchanges : List Exchange) (stage : Stage) (run : Run (Array Exchange × σ))
    (comes : generator.Comes root exchanges stage run) : stage.Within limit := by
  have kept := reaches_invariant (fun stage run => stage.Stands run ∧ stage.Within limit)
    (fun stage run asked next after step ⟨stands, within⟩ =>
      ⟨step_stands _ _ stage next run after asked step stands,
        step_within _ _ limit (careful_noting id generator.strategy limit careful) stage next run after
          asked step stands within⟩)
    comes ⟨standing_empty, lt_max_of_lt_right Nat.zero_lt_one⟩
  exact kept.2

variable (depth : Nat) (known : generator.definition.Declares root)

include known

theorem careful_accepted (exchange : Exchange) (member : exchange ∈ generator.transcript depth root) :
    exchange.Accepted := by
  obtain ⟨front, back, split⟩ := List.append_of_mem member
  obtain ⟨stage, run, comes, asks⟩ := generator.transcript_asks root depth front back exchange split
  exact asks_accepted _ _ stage run exchange limit
    (careful_noting id generator.strategy limit careful) asks
    (generator.comes_declared root front stage run known comes)

theorem careful_succeeds (cause : GenerationError) :
    (generator.generate depth root).1.result ≠ .error (.error cause) := by
  rcases generator.known_root_ends root depth known with ⟨never, _⟩ |
    ⟨front, last, _, transcript, _, refused, _⟩
  · exact never cause
  · have member : last ∈ generator.transcript depth root := by
      rw [transcript]
      exact List.mem_append_right front (.head _)
    have accepted := generator.careful_accepted limit careful root depth known last member
    rw [last.refusal_none_iff.2 accepted] at refused
    cases refused

theorem careful_ends (enough : max limit 1 ≤ depth) :
    ∃ graph, (generator.generate depth root).1.result = .ok graph := by
  cases generator.generate_ending depth root with
  | grown exchanges node run comes transcript result => exact ⟨run.graph, result⟩
  | halted exchanges refused stage run after cause comes halts transcript result =>
    exact absurd result (generator.careful_succeeds limit careful root depth known cause)
  | deep exchanges name stack run comes deepest =>
    have within : stack.length < max limit 1 :=
      generator.comes_within limit careful root exchanges _ run comes
    omega

end Generator

end TreeGrammar
