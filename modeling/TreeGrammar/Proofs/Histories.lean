import Mathlib.Data.List.Induction
import TreeGrammar.Proofs.Growth
import TreeGrammar.Proofs.Strategy.Depth
set_option autoImplicit false

namespace TreeGrammar

-- The limit of the depth stands for the space that the call has; it may differ from call to call.
structure Call where
  depth : Nat
  root : String

namespace Generator

variable {σ τ : Type}

def after (generator : Generator σ) : List Call → Generator σ
  | [] => generator
  | call :: rest => (generator.generate call.depth call.root).2.after rest

def recorded (generator : Generator σ) (calls : List Call) : List Exchange :=
  ((new generator.definition (generator.strategy.noting id) (#[], generator.state)).after
    calls).state.1.toList

def renewed (generator : Generator σ) (calls : List Call) : Generator σ :=
  new generator.definition generator.strategy (generator.after calls).state

theorem after_append (generator : Generator σ) (front back : List Call) :
    generator.after (front ++ back) = (generator.after front).after back := by
  induction front generalizing generator with
  | nil => rfl
  | cons call rest ih => exact ih _

theorem generate_keeps (generator : Generator σ) (depth : Nat) (root : String) :
    (generator.generate depth root).2.definition = generator.definition ∧
      (generator.generate depth root).2.strategy = generator.strategy := by
  obtain ⟨_, _, _, whole⟩ | ⟨_, _, _, _, whole⟩ := generator.generate_cases depth root
  · rw [whole]
    exact ⟨rfl, rfl⟩
  · rw [whole]
    exact ⟨rfl, rfl⟩

theorem after_keeps (generator : Generator σ) (calls : List Call) :
    (generator.after calls).definition = generator.definition ∧
      (generator.after calls).strategy = generator.strategy := by
  induction calls generalizing generator with
  | nil => exact ⟨rfl, rfl⟩
  | cons call rest ih =>
    obtain ⟨definition, strategy⟩ := generator.generate_keeps call.depth call.root
    obtain ⟨same, alike⟩ := ih (generator.generate call.depth call.root).2
    exact ⟨same.trans definition, alike.trans strategy⟩

theorem generate_new (generator : Generator σ) (depth : Nat) (root : String) :
    generator.generate depth root =
      (new generator.definition generator.strategy generator.state).generate depth root := rfl

theorem failed_empty (generator : Generator σ) (depth : Nat) (root : String) (halt : Halt)
    (failed : (generator.generate depth root).1.result = .error halt) :
    (generator.generate depth root).2.completed = ∅ := by
  obtain ⟨_, _, _, whole⟩ | ⟨_, _, _, _, whole⟩ := generator.generate_cases depth root
  · rw [whole] at failed
    cases failed
  · rw [whole]

theorem after_renewed (generator : Generator σ) (earlier : List Call) (depth : Nat) (root : String) :
    (generator.after earlier).generate depth root = (generator.renewed earlier).generate depth root := by
  obtain ⟨definition, strategy⟩ := generator.after_keeps earlier
  rw [generate_new, definition, strategy, renewed]

theorem after_related (related : σ → τ → Prop) (first : Generator σ) (second : Generator τ)
    (same : first.definition = second.definition)
    (simulates : first.strategy.Simulates related second.strategy)
    (states : related first.state second.state) (calls : List Call) :
    related (first.after calls).state (second.after calls).state := by
  induction calls generalizing first second with
  | nil => exact states
  | cons call rest ih =>
    obtain ⟨definition, strategy⟩ := first.generate_keeps call.depth call.root
    obtain ⟨other, alike⟩ := second.generate_keeps call.depth call.root
    have step := (generate_alike related first second.strategy second.state simulates states call.depth
      call.root).2.2
    rw [same, ← generate_new] at step
    exact ih _ _ (by rw [definition, other, same]) (by rwa [strategy, alike]) step

theorem noted_generate (strategy : Strategy σ) (noted : Generator (Array Exchange × σ))
    (notes : noted.strategy = strategy.noting id) (depth : Nat) (root : String) :
    (noted.generate depth root).2.state.1.toList =
      noted.state.1.toList ++ (new noted.definition strategy noted.state.2).transcript depth root := by
  have simulates : noted.strategy.Simulates
      (fun long short => long.1.toList = noted.state.1.toList ++ short.1.toList ∧ long.2 = short.2)
      (strategy.noting id) := by
    rw [notes]
    rintro question ⟨long, state⟩ ⟨short, other⟩ ⟨further, same⟩
    dsimp only at further same
    subst same
    exact ⟨rfl, by simp [Strategy.noting, further], rfl⟩
  exact (generate_alike _ noted (strategy.noting id) (#[], noted.state.2) simulates
    ⟨(List.append_nil _).symm, rfl⟩ depth root).2.2.1

theorem recorded_next (generator : Generator σ) (earlier : List Call) (call : Call) :
    generator.recorded (earlier ++ [call]) =
      generator.recorded earlier ++ (generator.renewed earlier).transcript call.depth call.root := by
  let recorder := new generator.definition (generator.strategy.noting id) (#[], generator.state)
  obtain ⟨definition, strategy⟩ := recorder.after_keeps earlier
  have state := after_related _ generator recorder rfl (noting_simulates id generator.strategy) rfl earlier
  have noted := noted_generate generator.strategy (recorder.after earlier) strategy call.depth call.root
  rw [definition, state] at noted
  rw [recorded, after_append]
  exact noted

theorem recorded_plays (generator : Generator σ) (calls : List Call) :
    generator.strategy.Plays generator.state (generator.recorded calls) (generator.after calls).state := by
  induction calls using List.reverseRecOn with
  | nil => exact .nil generator.state
  | append_singleton earlier call ih =>
    have onward := (generator.renewed earlier).transcript_plays call.depth call.root
    rw [← after_renewed] at onward
    rw [recorded_next, after_append]
    exact plays_append generator.strategy _ _ _ _ _ ih onward

structure Anew (generator : Generator σ) (earlier : List Call) (call : Call) : Prop where
  state : generator.strategy.Plays generator.state (generator.recorded earlier)
    (generator.renewed earlier).state
  outcome : ((generator.after earlier).generate call.depth call.root).1 =
    ((generator.renewed earlier).generate call.depth call.root).1
  exchanges : generator.recorded (earlier ++ [call]) =
    generator.recorded earlier ++ (generator.renewed earlier).transcript call.depth call.root
  completed : (generator.after (earlier ++ [call])).completed =
    ((generator.renewed earlier).generate call.depth call.root).2.completed
  failed : ∀ halt, ((generator.after earlier).generate call.depth call.root).1.result = .error halt →
    (generator.after (earlier ++ [call])).completed = ∅

end Generator

theorem calls_are_independent {σ : Type} (generator : Generator σ) (earlier : List Call) (call : Call) :
    generator.Anew earlier call := by
  have whole := generator.after_renewed earlier call.depth call.root
  have last : generator.after (earlier ++ [call]) =
      ((generator.after earlier).generate call.depth call.root).2 := generator.after_append earlier [call]
  refine ⟨generator.recorded_plays earlier, congrArg Prod.fst whole, generator.recorded_next earlier call,
    ?_, ?_⟩
  · rw [last, whole]
  · intro halt failed
    rw [last]
    exact (generator.after earlier).failed_empty call.depth call.root halt failed

theorem crate_fails_after_box :
    (boxGenerator.after [⟨3, "box"⟩]).completed.named "item" = #[1] ∧
      ((boxGenerator.after [⟨3, "box"⟩]).generate 3 "crate").1.result =
        .error (.error (.unknownStatement "crate")) ∧
      (boxGenerator.after [⟨3, "box"⟩, ⟨3, "crate"⟩]).completed = ∅ := by
  have refused : ((boxGenerator.after [⟨3, "box"⟩]).generate 3 "crate").1.result =
      .error (.error (.unknownStatement "crate")) := by decide +kernel
  have emptied := (calls_are_independent boxGenerator [⟨3, "box"⟩] ⟨3, "crate"⟩).failed
  simp only [List.singleton_append] at emptied
  exact ⟨by decide +kernel, refused, emptied _ refused⟩

end TreeGrammar
