import TreeGrammar.Proofs.Strategy.Lockstep
set_option autoImplicit false

namespace TreeGrammar

variable {σ τ : Type}

def Strategy.Simulates (related : σ → τ → Prop) (first : Strategy σ) (second : Strategy τ) : Prop :=
  ∀ question s t, related s t →
    (first.answer question s).1 = (second.answer question t).1 ∧
      related (first.answer question s).2 (second.answer question t).2

theorem plays_unique (strategy : Strategy σ) (state last other : σ) (exchanges : List Exchange)
    (plays : strategy.Plays state exchanges last) (again : strategy.Plays state exchanges other) :
    last = other := by
  induction plays with
  | nil =>
    cases again
    rfl
  | cons question state last rest _ ih =>
    cases again with
    | cons _ _ _ _ onward => exact ih onward

theorem simulates_plays (related : σ → τ → Prop) (first : Strategy σ) (second : Strategy τ)
    (simulates : first.Simulates related second) (s last : σ) (t : τ) (states : related s t)
    (exchanges : List Exchange) (plays : first.Plays s exchanges last) :
    ∃ after, second.Plays t exchanges after ∧ related last after := by
  induction plays generalizing t with
  | nil state => exact ⟨t, .nil t, states⟩
  | cons question state last rest _ ih =>
    obtain ⟨answer, next⟩ := simulates question state t states
    obtain ⟨after, onward, reached⟩ := ih _ next
    rw [answer]
    exact ⟨after, .cons question t after rest onward, reached⟩

namespace Growth

variable {α : Type}

theorem ends_related (related : σ → τ → Prop) (first : EStateM.Result Halt (Run σ) α)
    (second : EStateM.Result Halt (Run τ) α) (ends : Ends Anyhow Eq first second)
    (states : related (endOf first).state (endOf second).state) : Ends related Eq first second := by
  cases first with
  | ok a before =>
    cases second with
    | ok b after => exact ⟨ends.1, ends.2.graph, ends.2.completed, ends.2.log, states⟩
    | error other after => exact ends
  | error cause before =>
    cases second with
    | ok b after => exact ends
    | error other after => exact ⟨ends.1, ends.2.graph, ends.2.completed, ends.2.log, states⟩

theorem expand_alike (related : σ → τ → Prop) (first : Strategy σ) (second : Strategy τ)
    (simulates : first.Simulates related second) (definition : Definition) (depth : Nat)
    (name : String) (parent : Option NodeId) (s : Run σ) (t : Run τ) (alike : Run.Alike related s t) :
    Ends related Eq (expand definition first depth name parent s)
      (expand definition second depth name parent t) := by
  obtain ⟨mine, yours, plays, replays, pace⟩ :=
    abreast_expand first second False definition depth name parent s t
      ⟨alike.graph, alike.completed, alike.log, trivial⟩
  obtain ⟨after, follows, states⟩ :=
    simulates_plays related first second simulates _ _ _ alike.state mine plays
  cases pace with
  | together ends =>
    obtain rfl := plays_unique second _ _ _ mine follows replays
    exact ends_related related _ _ ends states
  | parted fork => exact absurd fork (never_parted second _ _ _ mine yours follows replays)
  | cut more run allowed deep => exact allowed.elim

end Growth

namespace Generator

theorem generate_cases (generator : Generator σ) (depth : Nat) (root : String) :
    (∃ node after, Growth.expand generator.definition generator.strategy depth root none
        ⟨.empty, ∅, #[.started root], generator.state⟩ = .ok node after ∧
      generator.generate depth root =
        (⟨.ok after.graph, after.log.push (.finished root after.graph.size)⟩,
          { generator with state := after.state, completed := after.completed })) ∨
    ∃ halt after log, Growth.expand generator.definition generator.strategy depth root none
        ⟨.empty, ∅, #[.started root], generator.state⟩ = .error halt after ∧
      generator.generate depth root =
        (⟨.error halt, log⟩, { generator with state := after.state, completed := ∅ }) := by
  rw [generate]
  cases Growth.expand generator.definition generator.strategy depth root none _ with
  | ok node after => exact .inl ⟨node, after, rfl, rfl⟩
  | error halt after =>
    right
    cases halt with
    | error cause => exact ⟨_, after, _, rfl, rfl⟩
    | depthExceeded => exact ⟨_, after, _, rfl, rfl⟩

theorem generate_ends (related : σ → τ → Prop) (generator : Generator σ) (other : Generator τ)
    (depth limit : Nat) (root : String)
    (ends : Growth.Ends related Eq
      (Growth.expand generator.definition generator.strategy depth root none
        ⟨.empty, ∅, #[.started root], generator.state⟩)
      (Growth.expand other.definition other.strategy limit root none
        ⟨.empty, ∅, #[.started root], other.state⟩)) :
    (generator.generate depth root).1 = (other.generate limit root).1 ∧
      (generator.generate depth root).2.completed = (other.generate limit root).2.completed ∧
      related (generator.generate depth root).2.state (other.generate limit root).2.state := by
  simp only [generate]
  revert ends
  cases Growth.expand generator.definition generator.strategy depth root none _ with
  | ok node after =>
    cases Growth.expand other.definition other.strategy limit root none _ with
    | ok same later =>
      rintro ⟨-, graph, completed, log, state⟩
      exact ⟨by simp only [graph, log], completed, state⟩
    | error cause later => exact False.elim
  | error cause after =>
    cases Growth.expand other.definition other.strategy limit root none _ with
    | ok node later => exact False.elim
    | error same later =>
      rintro ⟨rfl, -, -, log, state⟩
      cases cause with
      | error cause => exact ⟨by simp only [log], rfl, state⟩
      | depthExceeded => exact ⟨by simp only [log], rfl, state⟩

theorem generate_alike (related : σ → τ → Prop) (generator : Generator σ) (other : Strategy τ)
    (state : τ) (simulates : generator.strategy.Simulates related other)
    (states : related generator.state state) (depth : Nat) (root : String) :
    (generator.generate depth root).1 = ((new generator.definition other state).generate depth root).1 ∧
      (generator.generate depth root).2.completed =
        ((new generator.definition other state).generate depth root).2.completed ∧
      related (generator.generate depth root).2.state
        ((new generator.definition other state).generate depth root).2.state := by
  refine generate_ends related generator (new generator.definition other state) depth depth root ?_
  exact Growth.expand_alike related generator.strategy other simulates generator.definition depth root
    none _ _ ⟨rfl, rfl, rfl, states⟩

theorem noting_simulates {ω : Type} (note : Exchange → ω) (strategy : Strategy σ) :
    strategy.Simulates (fun state noted => noted.2 = state) (strategy.noting note) := by
  intro question state noted same
  subst same
  exact ⟨rfl, rfl⟩

theorem generate_noting {ω : Type} (note : Exchange → ω) (generator : Generator σ) (depth : Nat)
    (root : String) :
    (generator.generate depth root).1 =
        ((new generator.definition (generator.strategy.noting note)
          (#[], generator.state)).generate depth root).1 ∧
      (generator.generate depth root).2.completed =
        ((new generator.definition (generator.strategy.noting note)
          (#[], generator.state)).generate depth root).2.completed := by
  have alike := generate_alike _ generator (generator.strategy.noting note) (#[], generator.state)
    (noting_simulates note generator.strategy) rfl depth root
  exact ⟨alike.1, alike.2.1⟩

end Generator

end TreeGrammar
