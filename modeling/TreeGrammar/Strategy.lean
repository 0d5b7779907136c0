import TreeGrammar.Graph
import TreeGrammar.NameMap
import TreeGrammar.Statement
set_option autoImplicit false

namespace TreeGrammar

abbrev Completed := NameMap (Array NodeId)

namespace Completed

def named (completed : Completed) (name : String) : Array NodeId :=
  (completed.get? name).getD #[]

def record (completed : Completed) (name : String) (id : NodeId) : Completed :=
  completed.alter name fun ids => (ids.getD #[]).push id

def total (completed : Completed) : Nat :=
  completed.entries.foldl (fun sum entry => sum + entry.2.size) 0

end Completed

structure Context where
  graph : Graph
  node : NodeId
deriving DecidableEq

namespace Context

def depth (context : Context) : Nat := context.graph.depth context.node

end Context

inductive Question where
  -- Asked before the node exists.
  | leaf (statement : Statement) (context : Option Context)
  | alternative (statement : Statement) (context : Option Context)
  | size (reference : Reference) (context : Context)
  | target (reference : Reference) (context : Context) (completed : Completed)
deriving DecidableEq

namespace Question

abbrev Answer : Question → Type
  | leaf _ _ => Bool
  | alternative _ _ => Nat
  | size _ _ => Nat
  | target _ _ _ => Option NodeId

instance : (question : Question) → DecidableEq question.Answer
  | leaf _ _ => inferInstanceAs (DecidableEq Bool)
  | alternative _ _ => inferInstanceAs (DecidableEq Nat)
  | size _ _ => inferInstanceAs (DecidableEq Nat)
  | target _ _ _ => inferInstanceAs (DecidableEq (Option NodeId))

end Question

structure Strategy (σ : Type) where
  answer : (question : Question) → σ → question.Answer × σ

structure Exchange where
  question : Question
  answer : question.Answer
deriving DecidableEq

namespace Strategy

variable {σ ω : Type}

def noting (note : Exchange → ω) (strategy : Strategy σ) : Strategy (Array ω × σ) where
  answer question state :=
    let (answer, next) := strategy.answer question state.2
    (answer, (state.1.push (note ⟨question, answer⟩), next))

def capped (limit : Nat) (strategy : Strategy σ) : Strategy σ where
  answer question state :=
    match question with
    | .size reference context =>
      let (answer, next) := strategy.answer (.size reference context) state
      (Nat.min answer limit, next)
    | question => strategy.answer question state

end Strategy

end TreeGrammar
