import TreeGrammar.Proofs.Strategy.Transcript
set_option autoImplicit false

namespace TreeGrammar

structure Slot where
  reference : Reference
  size : Nat
deriving DecidableEq

namespace Slot

-- A slot for exactly one child is neither asked about nor recorded.
def decisions (node : NodeId) (slot : Slot) : List Decision :=
  if slot.reference.multiplicity = .exactlyOne then []
  else [.size node slot.reference slot.size]

def records (node : NodeId) (slot : Slot) : List LogRecord :=
  if slot.reference.multiplicity = .exactlyOne then []
  else [.sized slot.reference node slot.size]

end Slot

inductive Part where
  | proxy (name : String) (target : NodeId)
  | bare (statement : Statement)
  | full (statement : Statement) (index : Nat) (slots : List Slot)
deriving DecidableEq

namespace Part

def name : Part → String
  | proxy name _ => name
  | bare statement => statement.name
  | full statement _ _ => statement.name

def target? : Part → Option NodeId
  | proxy _ target => some target
  | _ => none

def slots : Part → List Slot
  | full _ _ slots => slots
  | _ => []

def opening (node : NodeId) : Part → List Decision
  | proxy _ _ => []
  | bare statement => if statement.isLeaf then [] else [.leaf statement node true]
  | full statement index _ =>
    .leaf statement node false ::
      if statement.alternatives.length = 1 then [] else [.alternative statement node index]

def record (parent : Option NodeId) : Part → LogRecord
  | proxy _ target => .reusing target (parent.getD 0)
  | bare statement => .visiting statement.name parent
  | full statement _ _ => .visiting statement.name parent

def completion (node : NodeId) : Part → List (String × NodeId)
  | full statement _ _ => [(statement.name, node)]
  | _ => []

end Part

inductive Sprout where
  | grown (part : Part) (children : List Sprout)

-- The mark of each slot, and then for each of its children what is said of a child there.
def weave {α : Type} (mark : Slot → List α) : List Slot → List (Reference → List α) → List α
  | [], _ => []
  | slot :: rest, sayings =>
    mark slot ++ (sayings.take slot.size).flatMap (fun saying => saying slot.reference) ++
      weave mark rest (sayings.drop slot.size)

namespace Sprout

def part : Sprout → Part
  | grown part _ => part

def children : Sprout → List Sprout
  | grown _ children => children

def name (sprout : Sprout) : String := sprout.part.name

mutual

def size : Sprout → Nat
  | .grown _ children => sizeAll children + 1

def sizeAll : List Sprout → Nat
  | [] => 0
  | first :: rest => first.size + sizeAll rest

end

def starts (id : Nat) : List Sprout → List NodeId
  | [] => []
  | first :: rest => id :: starts (id + first.size) rest

mutual

def completions (id : Nat) : Sprout → List (String × NodeId)
  | .grown part children => completionsAll (id + 1) children ++ part.completion id

def completionsAll (id : Nat) : List Sprout → List (String × NodeId)
  | [] => []
  | first :: rest => first.completions id ++ completionsAll (id + first.size) rest

end

mutual

def decisions (id : Nat) : Sprout → List Decision
  | .grown part children =>
    part.opening id ++ weave (Slot.decisions id) part.slots (choices id (id + 1) children)

def choices (node id : Nat) : List Sprout → List (Reference → List Decision)
  | [] => []
  | first :: rest =>
    (fun reference => .target node reference id first.part.target? :: first.decisions id) ::
      choices node (id + first.size) rest

end

mutual

def records (id : Nat) (parent : Option NodeId) : Sprout → List LogRecord
  | .grown part children =>
    part.record parent :: weave (Slot.records id) part.slots (reports id (id + 1) children)

def reports (node id : Nat) : List Sprout → List (Reference → List LogRecord)
  | [] => []
  | first :: rest => (fun _ => first.records id (some node)) :: reports node (id + first.size) rest

end

end Sprout

structure Place where
  id : Nat
  parent : Option NodeId
  sprout : Sprout

namespace Place

def node (place : Place) : Node :=
  ⟨place.sprout.name, (Sprout.starts (place.id + 1) place.sprout.children).toArray, place.parent,
    place.sprout.part.target?⟩

end Place

namespace Sprout

mutual

def places (id : Nat) (parent : Option NodeId) : Sprout → List Place
  | .grown part children => ⟨id, parent, .grown part children⟩ :: placesAll (id + 1) (some id) children

def placesAll (id : Nat) (parent : Option NodeId) : List Sprout → List Place
  | [] => []
  | first :: rest => first.places id parent ++ placesAll (id + first.size) parent rest

end

def nodes (id : Nat) (parent : Option NodeId) (sprout : Sprout) : List Node :=
  (sprout.places id parent).map Place.node

def nodesAll (id : Nat) (parent : Option NodeId) (sprouts : List Sprout) : List Node :=
  (placesAll id parent sprouts).map Place.node

end Sprout

end TreeGrammar
