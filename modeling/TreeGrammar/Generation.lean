import TreeGrammar.Definition
import TreeGrammar.Generation.Log
import TreeGrammar.Strategy
set_option autoImplicit false

namespace TreeGrammar

inductive Halt where
  | error (cause : GenerationError)
  | depthExceeded
deriving DecidableEq

structure Run (σ : Type) where
  graph : Graph
  completed : Completed
  log : Array LogRecord
  state : σ

abbrev Growth (σ α : Type) := EStateM Halt (Run σ) α

namespace Growth

variable {σ : Type}

def fail {α : Type} (cause : GenerationError) : Growth σ α := throw (.error cause)

def note (record : LogRecord) : Growth σ Unit :=
  modify fun run => { run with log := run.log.push record }

def ask (strategy : Strategy σ) (question : Question) : Growth σ question.Answer := fun run =>
  let (answer, state) := strategy.answer question run.state
  .ok answer { run with state }

def contextOf (node : NodeId) : Growth σ Context := do
  let run ← get
  return ⟨run.graph, node⟩

def contextOf? (parent : Option NodeId) : Growth σ (Option Context) := do
  let run ← get
  return parent.map fun node => ⟨run.graph, node⟩

def addNode (name : String) (parent target : Option NodeId) : Growth σ NodeId :=
  modifyGet fun run => (run.graph.size, { run with graph := run.graph.add name parent target })

def attach (parent child : NodeId) : Growth σ Unit :=
  modify fun run => { run with graph := run.graph.attach parent child }

def complete (name : String) (node : NodeId) : Growth σ Unit :=
  modify fun run => { run with completed := run.completed.record name node }

def decideLeaf (strategy : Strategy σ) (statement : Statement) (parent : Option NodeId) :
    Growth σ Bool :=
  if statement.isLeaf then return true
  else do ask strategy (.leaf statement (← contextOf? parent))

def pickAlternative (strategy : Strategy σ) (statement : Statement) (parent : Option NodeId) :
    Growth σ Alternative :=
  match statement.alternatives with
  | [only] => return only
  | alternatives => do
    let index : Nat ← ask strategy (.alternative statement (← contextOf? parent))
    match alternatives[index]? with
    | some alternative => return alternative
    | none => fail (.alternativeOutOfRange statement.name index alternatives.length)

def pickSize (strategy : Strategy σ) (reference : Reference) (node : NodeId) : Growth σ Nat :=
  match reference.multiplicity with
  | .exactlyOne => return 1
  | multiplicity => do
    let size : Nat ← ask strategy (.size reference (← contextOf node))
    if multiplicity.admits size then
      note (.sized reference node size)
      return size
    else fail (.sizeOutOfRange reference size)

def checkTarget (reference : Reference) (target : NodeId) : Growth σ Unit := do
  let run ← get
  match run.graph.node? target with
  | none => fail (.unknownTarget target reference.name)
  | some found =>
    if found.name ≠ reference.name then
      fail (.targetNameMismatch target found.name reference.name)
    else if (run.completed.named reference.name).contains target then return ()
    else fail (.unknownTarget target reference.name)

def addChild (strategy : Strategy σ) (grow : String → Option NodeId → Growth σ NodeId)
    (reference : Reference) (node : NodeId) : Growth σ Unit := do
  let context ← contextOf node
  let child ←
    match ← ask strategy (.target reference context (← get).completed) with
    | some target => do
      checkTarget reference target
      note (.reusing target node)
      addNode reference.name (some node) (some target)
    | none => grow reference.name (some node)
  attach node child

def addChildren (strategy : Strategy σ) (grow : String → Option NodeId → Growth σ NodeId)
    (reference : Reference) (node : NodeId) : Nat → Growth σ Unit
  | 0 => return ()
  | count + 1 => do
    addChild strategy grow reference node
    addChildren strategy grow reference node count

def fillSlots (strategy : Strategy σ) (grow : String → Option NodeId → Growth σ NodeId)
    (node : NodeId) : Alternative → Growth σ Unit
  | [] => return ()
  | reference :: rest => do
    let size ← pickSize strategy reference node
    addChildren strategy grow reference node size
    fillSlots strategy grow node rest

-- Statements may reference themselves, so a run also carries a limit on the depth of the tree.
-- Reaching it is an outcome of its own, which a larger limit may avoid.
def expand (definition : Definition) (strategy : Strategy σ) :
    (depth : Nat) → String → Option NodeId → Growth σ NodeId
  | 0, _, _ => throw .depthExceeded
  | depth + 1, name, parent => do
    note (.visiting name parent)
    match definition.statement? name with
    | none => fail (.unknownStatement name)
    | some statement =>
      let leaf ← decideLeaf strategy statement parent
      let node ← addNode statement.name parent none
      if leaf then return node
      else do
        let alternative ← pickAlternative strategy statement parent
        fillSlots strategy (expand definition strategy depth) node alternative
        complete statement.name node
        return node

end Growth

structure Generator (σ : Type) where
  definition : Definition
  strategy : Strategy σ
  state : σ
  completed : Completed

structure Outcome where
  result : Except Halt Graph
  log : Array LogRecord

namespace Generator

variable {σ : Type}

def new (definition : Definition) (strategy : Strategy σ) (state : σ) : Generator σ :=
  ⟨definition, strategy, state, ∅⟩

def generate (generator : Generator σ) (depth : Nat) (root : String) : Outcome × Generator σ :=
  let before : Run σ := ⟨.empty, ∅, #[.started root], generator.state⟩
  match Growth.expand generator.definition generator.strategy depth root none before with
  | .ok _ after =>
    (⟨.ok after.graph, after.log.push (.finished root after.graph.size)⟩,
      { generator with state := after.state, completed := after.completed })
  | .error (.error cause) after =>
    (⟨.error (.error cause), after.log.push (.failed root cause)⟩,
      { generator with state := after.state, completed := ∅ })
  | .error .depthExceeded after =>
    (⟨.error .depthExceeded, after.log⟩, { generator with state := after.state, completed := ∅ })

end Generator

end TreeGrammar
