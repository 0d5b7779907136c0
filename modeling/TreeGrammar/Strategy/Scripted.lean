import TreeGrammar.Strategy
set_option autoImplicit false

namespace TreeGrammar

structure Queue (α : Type) where
  pending : List α
  fallback : α

def Queue.next {α : Type} (queue : Queue α) : α × Queue α :=
  match queue.pending with
  | [] => (queue.fallback, queue)
  | first :: rest => (first, { queue with pending := rest })

inductive TargetRule where
  | noAlias
  | given (id : NodeId)
  | firstCompleted
  | lastCompleted
  | firstCompletedNamed (name : String)
  | context
  | contextParent
  | firstNamed
  | firstAlias

def TargetRule.choose (rule : TargetRule) (reference : Reference) (context : Context)
    (completed : Completed) : Option NodeId :=
  match rule with
  | noAlias => none
  | given id => some id
  | firstCompleted => (completed.named reference.name)[0]?
  | lastCompleted => (completed.named reference.name).back?
  | firstCompletedNamed name => (completed.named name)[0]?
  | .context => some context.node
  | contextParent => context.graph.parent? context.node
  | firstNamed => (context.graph.named reference.name).head?
  | firstAlias => context.graph.ids.find? fun id => (context.graph.target? id).isSome

structure Script where
  leaf : Queue Bool
  alternative : Queue Nat
  size : Queue Nat
  target : Queue TargetRule

def Script.empty : Script := ⟨⟨[], false⟩, ⟨[], 0⟩, ⟨[], 0⟩, ⟨[], .noAlias⟩⟩

def Strategy.scripted : Strategy Script where
  answer question script :=
    match question with
    | .leaf _ _ =>
      let (answer, leaf) := script.leaf.next
      (answer, { script with leaf })
    | .alternative _ _ =>
      let (answer, alternative) := script.alternative.next
      (answer, { script with alternative })
    | .size _ _ =>
      let (answer, size) := script.size.next
      (answer, { script with size })
    | .target reference context completed =>
      let (rule, target) := script.target.next
      (rule.choose reference context completed, { script with target })

end TreeGrammar
