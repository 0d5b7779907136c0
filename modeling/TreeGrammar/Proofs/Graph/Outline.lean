import TreeGrammar.Graph.Outline
import TreeGrammar.Proofs.Graph.Planted
import TreeGrammar.Token.Lexer
set_option autoImplicit false

namespace TreeGrammar

namespace Sprout

mutual

def outline (id : Nat) : Sprout → Outline
  | .grown part children => .node id part.name part.target? (outlines (id + 1) children)

def outlines (id : Nat) : List Sprout → List Outline
  | [] => []
  | first :: rest => first.outline id :: outlines (id + first.size) rest

end

theorem outline_id (id : Nat) (sprout : Sprout) : (sprout.outline id).id = id := by
  cases sprout with
  | grown part children => rfl

theorem outlines_starts (id : Nat) (sprouts : List Sprout) :
    (outlines id sprouts).map Outline.id = starts id sprouts := by
  induction sprouts generalizing id with
  | nil => rfl
  | cons first rest ih => rw [outlines, List.map_cons, outline_id, ih, starts]

theorem outlines_found (find : NodeId → Option Outline) (id : Nat) (parent : Option NodeId)
    (sprouts : List Sprout)
    (each : ∀ place ∈ siblings id parent sprouts, find place.id = some (place.sprout.outline place.id)) :
    (starts id sprouts).filterMap find = outlines id sprouts := by
  induction sprouts generalizing id with
  | nil => rfl
  | cons first rest ih =>
    have here : find id = some (first.outline id) := each _ (.head _)
    have later := ih (id + first.size) fun place member => each place (.tail _ member)
    rw [starts, List.filterMap_cons_some here, later, outlines]

end Sprout

namespace Outline

mutual

def nodes (parent : Option NodeId) : Outline → List Node
  | .node id name target children =>
    ⟨name, (children.map Outline.id).toArray, parent, target⟩ :: nodesAll (some id) children

def nodesAll (parent : Option NodeId) : List Outline → List Node
  | [] => []
  | first :: rest => first.nodes parent ++ nodesAll parent rest

end

mutual

def size : Outline → Nat
  | .node _ _ _ children => sizeAll children + 1

def sizeAll : List Outline → Nat
  | [] => 0
  | first :: rest => first.size + sizeAll rest

end

mutual

def Regular (id : Nat) : Outline → Prop
  | .node number name target children =>
    number = id ∧ isIdentifier name = true ∧ (target ≠ none → children = []) ∧
      RegularAll (id + 1) children

def RegularAll (id : Nat) : List Outline → Prop
  | [] => True
  | first :: rest => first.Regular id ∧ RegularAll (id + first.size) rest

end

end Outline

namespace Sprout

mutual

theorem outline_nodes (id : Nat) (parent : Option NodeId) (sprout : Sprout) :
    (sprout.outline id).nodes parent = sprout.nodes id parent := by
  cases sprout with
  | grown part children =>
    rw [outline, Outline.nodes, outlines_starts, outlines_nodes (id + 1) (some id) children]
    rfl

theorem outlines_nodes (id : Nat) (parent : Option NodeId) (sprouts : List Sprout) :
    Outline.nodesAll parent (outlines id sprouts) = nodesAll id parent sprouts := by
  cases sprouts with
  | nil => rfl
  | cons first rest =>
    rw [outlines, Outline.nodesAll, outline_nodes id parent first,
      outlines_nodes (id + first.size) parent rest]
    exact List.map_append.symm

end

mutual

theorem outline_size (id : Nat) (sprout : Sprout) : (sprout.outline id).size = sprout.size := by
  cases sprout with
  | grown part children => rw [outline, Outline.size, outlines_size (id + 1) children, size_grown]

theorem outlines_size (id : Nat) (sprouts : List Sprout) :
    Outline.sizeAll (outlines id sprouts) = sizeAll sprouts := by
  cases sprouts with
  | nil => rfl
  | cons first rest =>
    rw [outlines, Outline.sizeAll, outline_size id first, outlines_size (id + first.size) rest, sizeAll]

end

def Plain (sprout : Sprout) : Prop :=
  isIdentifier sprout.name = true ∧ (sprout.part.target? ≠ none → sprout.children = [])

mutual

theorem outline_regular (id : Nat) (parent : Option NodeId) (sprout : Sprout)
    (plain : ∀ place ∈ sprout.places id parent, place.sprout.Plain) :
    (sprout.outline id).Regular id := by
  cases sprout with
  | grown part children =>
    obtain ⟨identifier, bare⟩ := plain ⟨id, parent, .grown part children⟩ (.head _)
    refine ⟨rfl, identifier, ?_, outlines_regular (id + 1) (some id) children
      fun place member => plain place (.tail _ member)⟩
    intro proxy
    rw [show children = [] from bare proxy]
    rfl

theorem outlines_regular (id : Nat) (parent : Option NodeId) (sprouts : List Sprout)
    (plain : ∀ place ∈ placesAll id parent sprouts, place.sprout.Plain) :
    Outline.RegularAll id (outlines id sprouts) := by
  cases sprouts with
  | nil => trivial
  | cons first rest =>
    refine ⟨outline_regular id parent first fun place member => plain place (List.mem_append_left _ member),
      ?_⟩
    rw [outline_size]
    exact outlines_regular (id + first.size) parent rest fun place member =>
      plain place (List.mem_append_right _ member)

end

end Sprout

namespace Graph

section

variable (graph : Graph) (sprout : Sprout) (planted : graph.Planted sprout)
  (targets : ∀ place ∈ sprout.places 0 none, ∀ target,
    place.sprout.part.target? = some target → graph.contains target = true)

include planted targets

theorem outline_within (depth : Nat) (place : Place) (member : place ∈ sprout.places 0 none)
    (enough : place.sprout.size ≤ depth) :
    graph.outlineWithin depth place.id = some (place.sprout.outline place.id) := by
  induction depth generalizing place with
  | zero => exact absurd enough (Nat.not_le_of_gt (Sprout.size_pos place.sprout))
  | succ depth ih =>
    have below := Sprout.outlines_found (graph.outlineWithin depth) (place.id + 1) (some place.id)
      place.sprout.children (by
        intro inner beside
        obtain ⟨inside, smaller⟩ := Sprout.sibling_below 0 none sprout place inner member beside
        exact ih inner inside (by omega))
    have found := node_of_place graph sprout planted place member
    have kept : place.node.target.filter graph.contains = place.sprout.part.target? := by
      change place.sprout.part.target?.filter graph.contains = _
      cases targeted : place.sprout.part.target? with
      | none => rfl
      | some target => rw [Option.filter_some, if_pos (targets place member target targeted)]
    rw [outlineWithin, found]
    change some (Outline.node place.id place.sprout.name (place.node.target.filter graph.contains)
      ((Sprout.starts (place.id + 1) place.sprout.children).filterMap (graph.outlineWithin depth))) = _
    rw [below, kept]
    obtain ⟨id, parent, part, children⟩ := place
    rfl

theorem planted_outline : graph.outline? = some (sprout.outline 0) := by
  have size := planted_size graph sprout planted
  exact outline_within graph sprout planted targets graph.size ⟨0, none, sprout⟩
    (Sprout.place_self 0 none sprout) (Nat.le_of_eq size.symm)

theorem nodes_of_outline (outline : Outline) (outlined : graph.outline? = some outline) :
    graph.nodes.toList = outline.nodes none := by
  rw [planted_outline graph sprout planted targets] at outlined
  cases outlined
  rw [Sprout.outline_nodes]
  exact planted

end

end Graph

end TreeGrammar
