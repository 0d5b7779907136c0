import TreeGrammar.Proofs.Stage.Ending
set_option autoImplicit false

namespace TreeGrammar

variable {σ τ : Type}

namespace Generator

theorem generate_state (generator : Generator σ) (depth : Nat) (root : String) :
    (generator.generate depth root).2.state =
      (Growth.endOf (Growth.expand generator.definition generator.strategy depth root none
        ⟨.empty, ∅, #[.started root], generator.state⟩)).state := by
  obtain ⟨node, after, ended, whole⟩ | ⟨halt, after, log, ended, whole⟩ :=
    generator.generate_cases depth root
  · rw [whole, ended]
    rfl
  · rw [whole, ended]
    rfl

theorem transcript_end (generator : Generator σ) (depth : Nat) (root : String) :
    generator.transcript depth root =
      (Growth.endOf (Growth.expand generator.definition (generator.strategy.noting id) depth root none
        (generator.start root))).state.1.toList := by
  rw [transcript, generate_state]
  rfl

theorem transcript_plays (generator : Generator σ) (depth : Nat) (root : String) :
    generator.strategy.Plays generator.state (generator.transcript depth root)
      (generator.generate depth root).2.state := by
  obtain ⟨exchanges, _, plays, _⟩ :=
    Growth.abreast_expand (generator.strategy.noting id) generator.strategy False generator.definition
      depth root none (generator.start root) ⟨.empty, ∅, #[.started root], generator.state⟩
      ⟨rfl, rfl, rfl, trivial⟩
  have noted := generator.start_exchanges root exchanges _ plays
  rw [← transcript_end] at noted
  obtain ⟨after, follows, reached⟩ :=
    simulates_plays (fun noted state => noted.2 = state) (generator.strategy.noting id)
      generator.strategy (fun question noted state same => same ▸ ⟨rfl, rfl⟩) _ _ generator.state rfl
      exchanges plays
  obtain ⟨_, _, states⟩ := generate_alike _ generator (generator.strategy.noting id)
    (#[], generator.state) (noting_simulates id generator.strategy) rfl depth root
  rw [noted, ← states, generate_state]
  exact reached ▸ follows

structure Coincide (first : Generator σ) (second : Generator τ) (depth limit : Nat)
    (root : String) : Prop where
  transcript : first.transcript depth root = second.transcript limit root
  outcome : (first.generate depth root).1 = (second.generate limit root).1
  completed : (first.generate depth root).2.completed = (second.generate limit root).2.completed

inductive Courses (first : Generator σ) (second : Generator τ) (depth limit : Nat)
    (root : String) : Prop where
  | together (same : first.Coincide second depth limit root)
  | parted (fork : Parted (first.transcript depth root) (second.transcript limit root))
  | cut (below : depth < limit)
      (deep : (first.generate depth root).1.result = .error .depthExceeded)
      (begins : first.transcript depth root <+: second.transcript limit root)

theorem courses (first : Generator σ) (second : Generator τ)
    (shared : first.definition = second.definition) (depth limit : Nat) (lower : depth ≤ limit)
    (root : String) : first.Courses second depth limit root := by
  obtain ⟨mine, yours, plays, replays, pace⟩ :=
    Growth.abreast_expand_deeper (first.strategy.noting id) (second.strategy.noting id)
      (depth < limit) first.definition depth limit lower id root none (first.start root)
      (second.start root) ⟨rfl, rfl, rfl, trivial⟩
  have asked := first.start_exchanges root mine _ plays
  have also := second.start_exchanges root yours _ replays
  rw [← transcript_end] at asked
  rw [shared, ← transcript_end] at also
  cases pace with
  | together ends =>
    obtain ⟨outcome, completed, -⟩ := generate_ends Anyhow
      (new first.definition (first.strategy.noting id) (#[], first.state))
      (new second.definition (second.strategy.noting id) (#[], second.state)) depth limit root
      (shared ▸ ends)
    obtain ⟨firstOutcome, firstCompleted⟩ := generate_noting id first depth root
    obtain ⟨secondOutcome, secondCompleted⟩ := generate_noting id second limit root
    exact .together ⟨asked.trans also.symm, firstOutcome.trans (outcome.trans secondOutcome.symm),
      firstCompleted.trans (completed.trans secondCompleted.symm)⟩
  | parted fork =>
    rw [← asked, ← also] at fork
    exact .parted fork
  | cut more run allowed deep =>
    refine .cut allowed (first.generate_error_result depth root .depthExceeded run deep).1 ?_
    rw [asked, also]
    exact List.prefix_append mine more

theorem same_depth_courses (first : Generator σ) (second : Generator τ)
    (shared : first.definition = second.definition) (depth : Nat) (root : String) :
    first.Coincide second depth depth root ∨
      Parted (first.transcript depth root) (second.transcript depth root) := by
  cases courses first second shared depth depth (Nat.le_refl depth) root with
  | together same => exact .inl same
  | parted fork => exact .inr fork
  | cut below deep begins => exact absurd below (Nat.lt_irrefl depth)

theorem deeper_courses (generator : Generator σ) (depth limit : Nat) (lower : depth ≤ limit)
    (root : String) :
    generator.Coincide generator depth limit root ∨
      ((generator.generate depth root).1.result = .error .depthExceeded ∧
        generator.transcript depth root <+: generator.transcript limit root) := by
  cases courses generator generator rfl depth limit lower root with
  | together same => exact .inl same
  | parted fork =>
    exact absurd fork (never_parted generator.strategy generator.state _ _ _ _
      (generator.transcript_plays depth root) (generator.transcript_plays limit root))
  | cut below deep begins => exact .inr ⟨deep, begins⟩

theorem transcript_deeper (generator : Generator σ) (depth limit : Nat) (lower : depth ≤ limit)
    (root : String) : generator.transcript depth root <+: generator.transcript limit root := by
  rcases deeper_courses generator depth limit lower root with same | ⟨_, begins⟩
  · exact same.transcript ▸ List.prefix_refl _
  · exact begins

theorem generate_deeper (generator : Generator σ) (depth limit : Nat) (lower : depth ≤ limit)
    (root : String) (ends : (generator.generate depth root).1.result ≠ .error .depthExceeded) :
    generator.Coincide generator depth limit root := by
  rcases deeper_courses generator depth limit lower root with same | ⟨deep, _⟩
  · exact same
  · exact absurd deep ends

end Generator

def Stage.Asked (run : Run (Array Exchange × σ)) : Stage → Prop
  | branch _ _ stack => stack.length + 1 ≤ run.state.1.size
  | stage => stage.frames.length ≤ run.state.1.size

theorem noting_size (strategy : Strategy σ) (question : Question) (answer : question.Answer)
    (state next : Array Exchange × σ)
    (answered : (strategy.noting id).answer question state = (answer, next)) :
    next.1.size = state.1.size + 1 := by
  have reached : ((strategy.noting id).answer question state).2 = next := by rw [answered]
  rw [← reached]
  exact Array.size_push _

theorem step_asked (definition : Definition) (strategy : Strategy σ) (stage next : Stage)
    (run after : Run (Array Exchange × σ)) (exchanges : List Exchange)
    (step : Step definition (strategy.noting id) stage run exchanges next after)
    (asked : stage.Asked run) : next.Asked after := by
  cases step with
  | leaf | only | one | attached => exact asked
  | completed => exact Nat.le_of_succ_le asked
  | begun statement stack run state _ _ answered =>
    have more := noting_size strategy _ _ _ _ answered
    exact Nat.le_trans (Nat.succ_le_succ asked) (Nat.le_of_eq more.symm)
  | bare _ _ _ _ _ _ answered | chosen _ _ _ _ _ _ _ _ answered | sized _ _ _ _ _ _ _ _ _ answered
  | fresh _ _ _ _ _ _ _ _ answered | reused _ _ _ _ _ _ _ _ _ answered =>
    have more := noting_size strategy _ _ _ _ answered
    exact Nat.le_trans (Nat.le_succ_of_le asked) (Nat.le_of_eq more.symm)

theorem Generator.deep_exchanges (generator : Generator σ) (depth : Nat) (root : String)
    (deep : (generator.generate depth root).1.result = .error .depthExceeded) :
    depth ≤ (generator.transcript depth root).length := by
  cases generator.generate_ending depth root with
  | grown exchanges node run comes transcript result =>
    rw [deep] at result
    cases result
  | halted exchanges refused stage run after cause comes halts transcript result =>
    rw [deep] at result
    cases result
  | deep exchanges name stack run comes limit transcript =>
    have asked : stack.length ≤ run.state.1.size :=
      reaches_invariant (fun stage run => stage.Asked run)
        (fun stage run asked next after => step_asked _ _ stage next run after asked) comes
        (Nat.zero_le _)
    rw [transcript, ← generator.start_exchanges root exchanges run (reaches_plays comes),
      Array.length_toList, ← limit]
    exact asked

end TreeGrammar
