import TreeGrammar.Generation
set_option autoImplicit false

namespace TreeGrammar

-- A statement is asked about before its node exists and again when the node is the newest one,
-- so the graph that is shown tells the number of the node. At the root no graph is shown and the
-- node is 0.
inductive Decision where
  | leaf (statement : Statement) (node : NodeId) (answer : Bool)
  | alternative (statement : Statement) (node : NodeId) (answer : Nat)
  | size (node : NodeId) (reference : Reference) (answer : Nat)
  | target (node : NodeId) (reference : Reference) (child : NodeId) (answer : Option NodeId)
deriving DecidableEq

namespace Decision

def node : Decision → Nat
  | leaf _ node _ => node
  | alternative _ node _ => node
  | size node _ _ => node
  | target node _ _ _ => node

def leafAnswer? (id : NodeId) : Decision → Option Bool
  | leaf _ node answer => if node = id then some answer else none
  | _ => none

def alternativeAnswer? (id : NodeId) : Decision → Option Nat
  | alternative _ node answer => if node = id then some answer else none
  | _ => none

def sizeAnswer? (id : NodeId) : Decision → Option (Reference × Nat)
  | size node reference answer => if node = id then some (reference, answer) else none
  | _ => none

theorem leaf_answer_elsewhere (id : NodeId) (decision : Decision) (elsewhere : decision.node ≠ id) :
    decision.leafAnswer? id = none := by
  cases decision with
  | leaf statement node answer => exact if_neg elsewhere
  | _ => rfl

theorem alternative_answer_elsewhere (id : NodeId) (decision : Decision)
    (elsewhere : decision.node ≠ id) : decision.alternativeAnswer? id = none := by
  cases decision with
  | alternative statement node answer => exact if_neg elsewhere
  | _ => rfl

theorem size_answer_elsewhere (id : NodeId) (decision : Decision) (elsewhere : decision.node ≠ id) :
    decision.sizeAnswer? id = none := by
  cases decision with
  | size node reference answer => exact if_neg elsewhere
  | _ => rfl

end Decision

def Exchange.decision : Exchange → Decision
  | ⟨.leaf statement context, answer⟩ =>
    .leaf statement ((context.map fun seen => seen.graph.size).getD 0) answer
  | ⟨.alternative statement context, answer⟩ =>
    .alternative statement ((context.map fun seen => seen.graph.size - 1).getD 0) answer
  | ⟨.size reference context, answer⟩ => .size context.node reference answer
  | ⟨.target reference context _, answer⟩ =>
    .target context.node reference context.graph.size answer

inductive Strategy.Plays {σ : Type} (strategy : Strategy σ) : σ → List Exchange → σ → Prop where
  | nil (state : σ) : Plays strategy state [] state
  | cons (question : Question) (state last : σ) (rest : List Exchange)
      (onward : Plays strategy (strategy.answer question state).2 rest last) :
      Plays strategy state (⟨question, (strategy.answer question state).1⟩ :: rest) last

theorem plays_append {σ : Type} (strategy : Strategy σ) (state middle last : σ)
    (front back : List Exchange) (first : strategy.Plays state front middle)
    (second : strategy.Plays middle back last) : strategy.Plays state (front ++ back) last := by
  induction first with
  | nil => exact second
  | cons question state middle rest _ ih => exact .cons question state last _ (ih second)

theorem plays_member {σ : Type} (strategy : Strategy σ) (state last : σ) (exchanges : List Exchange)
    (plays : strategy.Plays state exchanges last) (exchange : Exchange)
    (member : exchange ∈ exchanges) :
    ∃ between, (strategy.answer exchange.question between).1 = exchange.answer := by
  induction plays with
  | nil => cases member
  | cons question state last rest _ ih =>
    rcases List.mem_cons.1 member with rfl | later
    · exact ⟨state, rfl⟩
    · exact ih later

theorem plays_noting {σ ω : Type} (note : Exchange → ω) (strategy : Strategy σ)
    (state last : Array ω × σ) (exchanges : List Exchange)
    (plays : (strategy.noting note).Plays state exchanges last) :
    last.1.toList = state.1.toList ++ exchanges.map note := by
  induction plays with
  | nil => simp
  | cons question state last rest _ ih => simpa [Strategy.noting] using ih

namespace Generator

variable {σ : Type}

def transcript (generator : Generator σ) (depth : Nat) (root : String) : List Exchange :=
  ((new generator.definition (generator.strategy.noting id) (#[], generator.state)).generate
    depth root).2.state.1.toList

def decisions (generator : Generator σ) (depth : Nat) (root : String) : List Decision :=
  (generator.transcript depth root).map Exchange.decision

end Generator

def leafAnswers (decisions : List Decision) (id : NodeId) : List Bool :=
  decisions.filterMap (Decision.leafAnswer? id)

def alternativeAnswers (decisions : List Decision) (id : NodeId) : List Nat :=
  decisions.filterMap (Decision.alternativeAnswer? id)

def sizeAnswers (decisions : List Decision) (id : NodeId) : List (Reference × Nat) :=
  decisions.filterMap (Decision.sizeAnswer? id)

end TreeGrammar
