import TreeGrammar.Proofs.Growth.Leads
import TreeGrammar.Proofs.Stage
import TreeGrammar.Proofs.Strategy.Simulation
set_option autoImplicit false

namespace TreeGrammar

variable {σ : Type}

namespace Growth

section

variable {α β : Type} (definition : Definition) (strategy : Strategy σ)

def Retraced (stage : Stage) (run : Run σ) (limit : Nat) (finish : α → Stage) :
    EStateM.Result Halt (Run σ) α → Prop
  | .ok value after => ∃ asked, Reaches definition strategy stage run asked (finish value) after
  | .error (.error cause) after => ∃ asked last middle refused,
      Reaches definition strategy stage run asked last middle ∧
        Halts definition strategy last middle refused cause after
  | .error .depthExceeded after => ∃ asked name stack,
      Reaches definition strategy stage run asked (.visit name stack) after ∧ stack.length = limit

theorem retraced_after (stage middle : Stage) (run between : Run σ) (limit : Nat)
    (finish : α → Stage) (asked : List Exchange) (result : EStateM.Result Halt (Run σ) α)
    (first : Reaches definition strategy stage run asked middle between)
    (rest : Retraced definition strategy middle between limit finish result) :
    Retraced definition strategy stage run limit finish result := by
  cases result with
  | ok value after =>
    obtain ⟨more, onward⟩ := rest
    exact ⟨_, reaches_trans first onward⟩
  | error halt after =>
    cases halt with
    | error cause =>
      obtain ⟨more, last, place, refused, onward, halts⟩ := rest
      exact ⟨_, last, place, refused, reaches_trans first onward, halts⟩
    | depthExceeded =>
      obtain ⟨more, name, stack, onward, deep⟩ := rest
      exact ⟨_, name, stack, reaches_trans first onward, deep⟩

theorem retraced_bind (stage : Stage) (run : Run σ) (limit : Nat) (middle : α → Stage)
    (finish : β → Stage) (part : Growth σ α) (next : α → Growth σ β)
    (start : Retraced definition strategy stage run limit middle (part run))
    (onward : ∀ value between,
      Retraced definition strategy (middle value) between limit finish (next value between)) :
    Retraced definition strategy stage run limit finish ((part >>= next) run) := by
  simp only [bind, EStateM.bind]
  cases ended : part run with
  | ok value between =>
    rw [ended] at start
    obtain ⟨asked, first⟩ := start
    exact retraced_after definition strategy stage _ run between limit finish asked _ first
      (onward value between)
  | error halt after =>
    rw [ended] at start
    cases halt with
    | error cause => exact start
    | depthExceeded => exact start

theorem retraced_step (stage : Stage) (run after : Run σ) (limit : Nat) (finish : α → Stage)
    (value : α) (asked : List Exchange)
    (step : Step definition strategy stage run asked (finish value) after) :
    Retraced definition strategy stage run limit finish (.ok value after) :=
  ⟨asked, reaches_step step⟩

theorem retraced_halt (stage : Stage) (run after : Run σ) (limit : Nat) (finish : α → Stage)
    (cause : GenerationError) (refused : List Exchange)
    (halts : Halts definition strategy stage run refused cause after) :
    Retraced definition strategy stage run limit finish (.error (.error cause) after) :=
  ⟨[], stage, run, refused, .refl stage run, halts⟩

theorem context_bind (node : NodeId) (next : Context → Growth σ α) (run : Run σ) :
    (contextOf node >>= next) run = next ⟨run.graph, node⟩ run := rfl

theorem parent_context_bind (parent : Option NodeId) (next : Option Context → Growth σ α)
    (run : Run σ) : (contextOf? parent >>= next) run = next (run.shown parent) run := rfl

theorem get_bind (next : Run σ → Growth σ α) (run : Run σ) :
    (get >>= next : Growth σ α) run = next run run := rfl

theorem retraced_ask (stage : Stage) (run asking : Run σ) (limit : Nat) (finish : α → Stage)
    (question : Question) (next : question.Answer → Growth σ α)
    (onward : ∀ answer state, strategy.answer question asking.state = (answer, state) →
      Retraced definition strategy stage run limit finish (next answer { asking with state })) :
    Retraced definition strategy stage run limit finish ((ask strategy question >>= next) asking) :=
  onward _ _ rfl

theorem pick_alternative_retraced (statement : Statement) (node : NodeId) (stack : List Frame)
    (run : Run σ) (limit : Nat) :
    Retraced definition strategy (.branch statement node stack) run limit
      (fun alternative => .fill ⟨node, statement.name, [], alternative⟩ stack)
      (pickAlternative strategy statement (innermost stack) run) := by
  by_cases single : statement.alternatives.length = 1
  · obtain ⟨only, alternatives⟩ := List.length_eq_one_iff.1 single
    rw [pickAlternative, alternatives]
    exact retraced_step definition strategy _ _ _ _ _ _ _ (.only statement node stack run only alternatives)
  · rw [pick_alternative_asked strategy statement _ single, parent_context_bind]
    refine retraced_ask definition strategy _ run run limit _
      (.alternative statement (run.shown (innermost stack))) _ ?_
    intro (index : Nat) state answered
    cases found : statement.alternatives[index]? with
    | none =>
      exact retraced_halt definition strategy _ _ _ _ _ _ _
        (.alternative statement node stack run index state single answered found)
    | some alternative =>
      exact retraced_step definition strategy _ _ _ _ _ _ _
        (.chosen statement node stack run index state alternative single answered found)

theorem pick_size_retraced (node : NodeId) (name : String) (reference : Reference)
    (slots : Alternative) (stack : List Frame) (run : Run σ) (limit : Nat) :
    Retraced definition strategy (.fill ⟨node, name, [], reference :: slots⟩ stack) run limit
      (fun size => .fill ⟨node, name, List.replicate size reference, slots⟩ stack)
      (pickSize strategy reference node run) := by
  by_cases single : reference.multiplicity = .exactlyOne
  · rw [pickSize, single]
    exact retraced_step definition strategy _ _ _ _ _ _ _ (.one node name reference slots stack run single)
  · rw [pick_size_asked strategy reference node single, context_bind]
    refine retraced_ask definition strategy _ run run limit _ (.size reference ⟨run.graph, node⟩) _ ?_
    intro (size : Nat) state answered
    by_cases admitted : reference.multiplicity.admits size
    · rw [if_pos admitted]
      exact retraced_step definition strategy _ _ _ _ _ _ _
        (.sized node name reference slots stack run size state single answered admitted)
    · rw [if_neg admitted]
      exact retraced_halt definition strategy _ _ _ _ _ _ _
        (.size node name reference slots stack run size state single answered admitted)

theorem check_target_run (reference : Reference) (target : NodeId) (run : Run σ) :
    checkTarget reference target run = (match run.graph.node? target with
      | none => fail (.unknownTarget target reference.name)
      | some found =>
        if found.name ≠ reference.name then
          fail (.targetNameMismatch target found.name reference.name)
        else if (run.completed.named reference.name).contains target then return ()
        else fail (.unknownTarget target reference.name)) run := rfl

theorem check_target_ends (reference : Reference) (target : NodeId) (run : Run σ) :
    (target ∈ run.completed.named reference.name ∧
      checkTarget reference target run = .ok () run) ∨
    ∃ cause, checkTarget reference target run = .error (.error cause) run := by
  cases found : run.graph.node? target with
  | none =>
    rw [check_target_run, found]
    exact .inr ⟨_, rfl⟩
  | some node =>
    rw [check_target_run, found]
    by_cases other : node.name ≠ reference.name
    · simp only [if_pos other]
      exact .inr ⟨_, rfl⟩
    · by_cases known : (run.completed.named reference.name).contains target
      · simp only [if_neg other, if_pos known]
        exact .inl ⟨Array.contains_iff_mem.1 known, rfl⟩
      · simp only [if_neg other, if_neg known]
        exact .inr ⟨_, rfl⟩

theorem attach_retraced (child : NodeId) (frame : Frame) (stack : List Frame) (run : Run σ)
    (limit : Nat) :
    Retraced definition strategy (.made child (frame :: stack)) run limit
      (fun _ => .fill frame stack) (attach frame.node child run) :=
  retraced_step definition strategy _ _ _ _ _ () _ (.attached child frame stack run)

section

variable (limit : Nat) (grow : String → Option NodeId → Growth σ NodeId)
  (node : NodeId) (name : String) (stack : List Frame)
  (grows : ∀ lacking slots (other : String) run,
    Retraced definition strategy (.visit other (⟨node, name, lacking, slots⟩ :: stack)) run limit
      (fun child => .made child (⟨node, name, lacking, slots⟩ :: stack))
      (grow other (some node) run))

include grows

theorem add_child_retraced (reference : Reference) (lacking : List Reference) (slots : Alternative)
    (run : Run σ) :
    Retraced definition strategy (.fill ⟨node, name, reference :: lacking, slots⟩ stack) run limit
      (fun _ => .fill ⟨node, name, lacking, slots⟩ stack)
      (addChild strategy grow reference node run) := by
  rw [addChild, context_bind, get_bind]
  refine retraced_ask definition strategy _ run run limit _
    (.target reference ⟨run.graph, node⟩ run.completed) _ ?_
  intro (answer : Option NodeId) state answered
  cases answer with
  | none =>
    refine retraced_after definition strategy _ _ run { run with state } limit _ _ _
      (reaches_step (.fresh node name reference lacking slots stack run state answered)) ?_
    refine retraced_bind definition strategy _ _ limit _ _ _ _
      (grows lacking slots reference.name { run with state }) ?_
    intro child between
    exact attach_retraced definition strategy child ⟨node, name, lacking, slots⟩ stack between limit
  | some target =>
    rcases check_target_ends reference target { run with state } with ⟨known, checked⟩ | ⟨cause, checked⟩
    · refine retraced_after definition strategy _ _ run _ limit _ _ _
        (reaches_step (.reused node name reference lacking slots stack run target state answered known)) ?_
      have attached := attach_retraced definition strategy run.graph.size
        ⟨node, name, lacking, slots⟩ stack
        { run with
          graph := run.graph.add reference.name (some node) (some target)
          log := run.log.push (.reusing target node)
          state } limit
      simp only [bind, EStateM.bind, checked]
      exact attached
    · simp only [bind, EStateM.bind, checked]
      exact retraced_halt definition strategy _ _ _ _ _ _ _
        (.target node name reference lacking slots stack run target state cause answered checked)

theorem add_children_retraced (reference : Reference) (count : Nat) (slots : Alternative)
    (run : Run σ) :
    Retraced definition strategy (.fill ⟨node, name, List.replicate count reference, slots⟩ stack) run
      limit (fun _ => .fill ⟨node, name, [], slots⟩ stack)
      (addChildren strategy grow reference node count run) := by
  induction count generalizing run with
  | zero => exact ⟨[], .refl _ run⟩
  | succ count ih =>
    refine retraced_bind definition strategy _ _ limit _ _ _ _
      (add_child_retraced definition strategy limit grow node name stack grows reference _ slots run) ?_
    intro _ between
    exact ih between

theorem fill_slots_retraced (slots : Alternative) (run : Run σ) :
    Retraced definition strategy (.fill ⟨node, name, [], slots⟩ stack) run limit
      (fun _ => .fill ⟨node, name, [], []⟩ stack) (fillSlots strategy grow node slots run) := by
  induction slots generalizing run with
  | nil => exact ⟨[], .refl _ run⟩
  | cons reference rest ih =>
    refine retraced_bind definition strategy _ _ limit _ _ _ _
      (pick_size_retraced definition strategy node name reference rest stack run limit) ?_
    intro size sized
    refine retraced_bind definition strategy _ _ limit _ _ _ _
      (add_children_retraced definition strategy limit grow node name stack grows reference size rest
        sized) ?_
    intro _ between
    exact ih between

end

theorem note_bind (record : LogRecord) (next : Unit → Growth σ α) (run : Run σ) :
    (note record >>= next) run = next () { run with log := run.log.push record } := rfl

theorem expand_retraced (depth : Nat) (name : String) (stack : List Frame) (run : Run σ) :
    Retraced definition strategy (.visit name stack) run (stack.length + depth)
      (fun node => .made node stack)
      (expand definition strategy depth name (innermost stack) run) := by
  -- On the depth that is left; the stack takes up what is used of it.
  induction depth generalizing name stack run with
  | zero => exact ⟨[], name, stack, .refl _ run, rfl⟩
  | succ depth ih =>
    rw [expand, note_bind]
    cases stated : definition.statement? name with
    | none => exact retraced_halt definition strategy _ _ _ _ _ _ _ (.unknown name stack run stated)
    | some statement =>
      have sameName : statement.name = name := by
        obtain ⟨alternatives, _, rfl⟩ := Option.map_eq_some_iff.1 stated
        rfl
      subst sameName
      dsimp only
      by_cases childless : statement.isLeaf
      · rw [decideLeaf, if_pos childless]
        exact retraced_step definition strategy _ _ _ _ _ _ _ (.leaf statement stack run stated childless)
      · have branching : statement.isLeaf = false := Bool.eq_false_iff.2 childless
        rw [decideLeaf, if_neg childless, bind_assoc, parent_context_bind]
        refine retraced_ask definition strategy _ _ _ _ _
          (.leaf statement (run.shown (innermost stack))) _ ?_
        intro (leaf : Bool) state answered
        cases leaf with
        | true =>
          exact retraced_step definition strategy _ _ _ _ _ _ _
            (.bare statement stack run state stated branching answered)
        | false =>
          refine retraced_after definition strategy _ _ run _ _ _ _ _
            (reaches_step (.begun statement stack run state stated branching answered)) ?_
          refine retraced_bind definition strategy _ _ _ _ _ _ _
            (pick_alternative_retraced definition strategy statement run.graph.size stack _ _) ?_
          intro alternative picked
          refine retraced_bind definition strategy _ _ _ _ _ _ _
            (fill_slots_retraced definition strategy _ _ run.graph.size statement.name stack ?_
              alternative picked) ?_
          · intro lacking slots other between
            have deeper := ih other (⟨run.graph.size, statement.name, lacking, slots⟩ :: stack) between
            rwa [List.length_cons, Nat.add_right_comm] at deeper
          · intro _ filled
            exact retraced_step definition strategy _ _ _ _ _ _ _
              (.completed run.graph.size statement.name stack filled)

end

end Growth

namespace Generator

variable (generator : Generator σ) (depth : Nat) (root : String)

def start : Run (Array Exchange × σ) := ⟨.empty, ∅, #[.started root], (#[], generator.state)⟩

-- Runs without an end are not left out.
def Comes (exchanges : List Exchange) (stage : Stage) (run : Run (Array Exchange × σ)) : Prop :=
  Reaches generator.definition (generator.strategy.noting id) (.visit root []) (generator.start root)
    exchanges stage run

inductive Ending : Prop where
  | grown (exchanges : List Exchange) (node : NodeId) (run : Run (Array Exchange × σ))
      (comes : generator.Comes root exchanges (.made node []) run)
      (transcript : generator.transcript depth root = exchanges)
      (result : (generator.generate depth root).1.result = .ok run.graph)
  | halted (exchanges refused : List Exchange) (stage : Stage) (run after : Run (Array Exchange × σ))
      (cause : GenerationError) (comes : generator.Comes root exchanges stage run)
      (halts : Halts generator.definition (generator.strategy.noting id) stage run refused cause after)
      (transcript : generator.transcript depth root = exchanges ++ refused)
      (result : (generator.generate depth root).1.result = .error (.error cause))
  | deep (exchanges : List Exchange) (name : String) (stack : List Frame)
      (run : Run (Array Exchange × σ))
      (comes : generator.Comes root exchanges (.visit name stack) run) (limit : stack.length = depth)
      (transcript : generator.transcript depth root = exchanges)
      (result : (generator.generate depth root).1.result = .error .depthExceeded)

theorem generate_ok_result (node : NodeId) (after : Run (Array Exchange × σ))
    (ended : Growth.expand generator.definition (generator.strategy.noting id) depth root none
      (generator.start root) = .ok node after) :
    (generator.generate depth root).1.result = .ok after.graph ∧
      generator.transcript depth root = after.state.1.toList := by
  obtain ⟨sameOutcome, _⟩ := generate_noting id generator depth root
  rw [start] at ended
  rw [sameOutcome, transcript, generate]
  dsimp only [new]
  rw [ended]
  exact ⟨rfl, rfl⟩

theorem generate_error_result (halt : Halt) (after : Run (Array Exchange × σ))
    (ended : Growth.expand generator.definition (generator.strategy.noting id) depth root none
      (generator.start root) = .error halt after) :
    (generator.generate depth root).1.result = .error halt ∧
      generator.transcript depth root = after.state.1.toList := by
  obtain ⟨sameOutcome, _⟩ := generate_noting id generator depth root
  rw [start] at ended
  rw [sameOutcome, transcript, generate]
  dsimp only [new]
  rw [ended]
  cases halt with
  | error cause => exact ⟨rfl, rfl⟩
  | depthExceeded => exact ⟨rfl, rfl⟩

theorem start_exchanges (exchanges : List Exchange) (after : Run (Array Exchange × σ))
    (plays : (generator.strategy.noting id).Plays (generator.start root).state exchanges after.state) :
    after.state.1.toList = exchanges := by
  rw [plays_noting id generator.strategy _ after.state exchanges plays, List.map_id]
  rfl

theorem generate_ending : generator.Ending depth root := by
  have retraced : Growth.Retraced generator.definition (generator.strategy.noting id) (.visit root [])
      (generator.start root) (0 + depth) (fun node => .made node [])
      (Growth.expand generator.definition (generator.strategy.noting id) depth root none
        (generator.start root)) :=
    Growth.expand_retraced generator.definition _ depth root [] (generator.start root)
  rw [Nat.zero_add] at retraced
  cases ended : Growth.expand generator.definition (generator.strategy.noting id) depth root none
      (generator.start root) with
  | ok node after =>
    rw [ended] at retraced
    obtain ⟨exchanges, comes⟩ := retraced
    obtain ⟨result, transcript⟩ := generator.generate_ok_result depth root node after ended
    exact .grown exchanges node after comes
      (transcript.trans (generator.start_exchanges root exchanges after (reaches_plays comes))) result
  | error halt after =>
    rw [ended] at retraced
    obtain ⟨result, transcript⟩ := generator.generate_error_result depth root halt after ended
    cases halt with
    | error cause =>
      obtain ⟨exchanges, last, middle, refused, comes, halts⟩ := retraced
      have plays := plays_append _ _ _ _ exchanges refused (reaches_plays comes) (halts_plays halts)
      exact .halted exchanges refused last middle after cause comes halts
        (transcript.trans (generator.start_exchanges root _ after plays)) result
    | depthExceeded =>
      obtain ⟨exchanges, name, stack, comes, limit⟩ := retraced
      exact .deep exchanges name stack after comes limit
        (transcript.trans (generator.start_exchanges root exchanges after (reaches_plays comes))) result

theorem success_comes (graph : Graph) (success : (generator.generate depth root).1.result = .ok graph) :
    ∃ exchanges node run, generator.Comes root exchanges (.made node []) run ∧
      generator.transcript depth root = exchanges ∧ graph = run.graph := by
  cases generator.generate_ending depth root with
  | grown exchanges node run comes transcript result =>
    rw [success] at result
    cases result
    exact ⟨exchanges, node, run, comes, transcript, rfl⟩
  | halted exchanges refused stage run after cause comes halts transcript result =>
    rw [success] at result
    cases result
  | deep exchanges name stack run comes limit transcript result =>
    rw [success] at result
    cases result

end Generator

end TreeGrammar
