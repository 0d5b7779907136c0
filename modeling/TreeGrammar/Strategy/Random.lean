import TreeGrammar.Random.Stream
import TreeGrammar.Settings
import TreeGrammar.Strategy
set_option autoImplicit false

namespace TreeGrammar

namespace RandomChoice

def childDepth : Option Context → Nat
  | none => 1
  | some context => context.depth + 1

def leaf (settings : Settings) (context : Option Context) (stream : RandomStream) :
    Bool × RandomStream :=
  if settings.maxDepth ≤ childDepth context then (true, stream)
  else stream.chance settings.leafProbability

def alternative (statement : Statement) (stream : RandomStream) : Nat × RandomStream :=
  if statement.isLeaf then (0, stream) else stream.below 64 statement.alternatives.length

def greatestSize (settings : Settings) (multiplicity : Multiplicity) : Nat :=
  if multiplicity.repeats then max settings.maxSize multiplicity.least else 1

def size (settings : Settings) (reference : Reference) (context : Context)
    (stream : RandomStream) : Nat × RandomStream :=
  let least := reference.multiplicity.least
  if settings.maxDepth ≤ context.depth + 1 then (least, stream)
  else
    let (more, after) :=
      stream.below 64 (greatestSize settings reference.multiplicity - least + 1)
    (least + more, after)

def target (settings : Settings) (reference : Reference) (completed : Completed)
    (stream : RandomStream) : Option NodeId × RandomStream :=
  let candidates := completed.named reference.name
  if reference.name ∈ settings.noAlias ∨ candidates.isEmpty then (none, stream)
  else
    let (reuse, after) := stream.chance settings.aliasProbability
    if reuse then
      let (index, after) := after.below 32 candidates.size
      (candidates[index]?, after)
    else (none, after)

end RandomChoice

def Strategy.random (settings : Settings) : Strategy RandomStream where
  answer question stream :=
    match question with
    | .leaf _ context => RandomChoice.leaf settings context stream
    | .alternative statement _ => RandomChoice.alternative statement stream
    | .size reference context => RandomChoice.size settings reference context stream
    | .target reference _ completed => RandomChoice.target settings reference completed stream

end TreeGrammar
