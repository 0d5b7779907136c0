import TreeGrammar.Proofs.Sprout.Lawful
import TreeGrammar.Proofs.Sprout.Places
set_option autoImplicit false

namespace TreeGrammar

namespace Sprout

theorem place_index (id : Nat) (parent : Option NodeId) (sprout : Sprout) (place : Place)
    (member : place ∈ sprout.places id parent) :
    (sprout.places id parent)[place.id - id]? = some place := by
  obtain ⟨index, found⟩ := List.mem_iff_getElem?.1 member
  have numbered := congrArg (fun ids : List Nat => ids[index]?) (place_ids id parent sprout)
  simp only [List.getElem?_map, found, Option.map_some] at numbered
  have number : place.id = id + index := by
    obtain ⟨bound, same⟩ := List.getElem?_eq_some_iff.1 numbered.symm
    rw [← same, List.getElem_range', Nat.one_mul]
  rw [number, Nat.add_sub_cancel_left]
  exact found

theorem place_exists (id : Nat) (parent : Option NodeId) (sprout : Sprout) (number : Nat)
    (above : id ≤ number) (below : number < id + sprout.size) :
    ∃ place ∈ sprout.places id parent, place.id = number := by
  have listed : number ∈ (sprout.places id parent).map Place.id := by
    rw [place_ids]
    exact List.mem_range'_1.2 ⟨above, below⟩
  exact List.mem_map.1 listed

mutual

theorem place_conforms (definition : Definition) (id : Nat) (parent : Option NodeId)
    (sprout : Sprout) (place : Place) (conforms : sprout.Conforms definition)
    (member : place ∈ sprout.places id parent) : place.sprout.Conforms definition := by
  cases sprout with
  | grown part children =>
    rcases List.mem_cons.1 member with same | deeper
    · rw [same]
      exact conforms
    · cases conforms with
      | grown _ _ fits below =>
        exact place_conforms_all definition (id + 1) (some id) children place below deeper

theorem place_conforms_all (definition : Definition) (id : Nat) (parent : Option NodeId)
    (sprouts : List Sprout) (place : Place) (conform : ∀ sprout ∈ sprouts, sprout.Conforms definition)
    (member : place ∈ placesAll id parent sprouts) : place.sprout.Conforms definition := by
  cases sprouts with
  | nil => cases member
  | cons first rest =>
    rcases List.mem_append.1 member with left | right
    · exact place_conforms definition id parent first place (conform first (.head _)) left
    · exact place_conforms_all definition (id + first.size) parent rest place
        (fun sprout listed => conform sprout (.tail _ listed)) right

end

theorem place_fits (definition : Definition) (id : Nat) (parent : Option NodeId) (sprout : Sprout)
    (place : Place) (conforms : sprout.Conforms definition)
    (member : place ∈ sprout.places id parent) :
    place.sprout.part.Fits definition place.sprout.children :=
  conforms_fits definition place.sprout
    (place_conforms definition id parent sprout place conforms member)

end Sprout

theorem fresh_target (node : Node) (fresh : node.isAlias = false) : node.target = none :=
  Option.isNone_iff_eq_none.1 (Option.isSome_eq_false_iff.1 fresh)

namespace Graph

def Planted (graph : Graph) (sprout : Sprout) : Prop := graph.nodes.toList = sprout.nodes 0 none

section

variable (graph : Graph) (sprout : Sprout) (planted : graph.Planted sprout)

include planted

theorem planted_size : graph.size = sprout.size := by
  have lengths := congrArg List.length planted
  have ids := congrArg List.length (Sprout.place_ids 0 none sprout)
  simp only [List.length_map, List.length_range', Array.length_toList, Sprout.nodes] at lengths ids
  exact lengths.trans ids

theorem node_of_place (place : Place) (member : place ∈ sprout.places 0 none) :
    graph.node? place.id = some place.node := by
  have found := Sprout.place_index 0 none sprout place member
  rw [Nat.sub_zero] at found
  rw [node?, ← Array.getElem?_toList, planted, Sprout.nodes, List.getElem?_map, found]
  rfl

theorem place_of_id (id : Nat) (present : id < graph.size) :
    ∃ place ∈ sprout.places 0 none, place.id = id := by
  rw [planted_size graph sprout planted] at present
  exact Sprout.place_exists 0 none sprout id (Nat.zero_le _) (by omega)

theorem place_of_node (id : Nat) (node : Node) (found : graph.node? id = some node) :
    ∃ place ∈ sprout.places 0 none, place.id = id ∧ place.node = node := by
  obtain ⟨present, _⟩ := Array.getElem?_eq_some_iff.1 found
  obtain ⟨place, member, same⟩ := place_of_id graph sprout planted id present
  refine ⟨place, member, same, ?_⟩
  have here := node_of_place graph sprout planted place member
  rw [same, found] at here
  exact (Option.some.inj here).symm

theorem planted_children (place : Place) (member : place ∈ sprout.places 0 none) :
    graph.children place.id =
      (Sprout.starts (place.id + 1) place.sprout.children).toArray := by
  rw [Graph.children, node_of_place graph sprout planted place member]
  rfl

theorem planted_parent (place : Place) (member : place ∈ sprout.places 0 none) :
    graph.parent? place.id = place.parent := by
  rw [Graph.parent?, node_of_place graph sprout planted place member]
  rfl

theorem planted_target (place : Place) (member : place ∈ sprout.places 0 none) :
    graph.target? place.id = place.sprout.part.target? := by
  rw [Graph.target?, node_of_place graph sprout planted place member]
  rfl

theorem edge_place (parent child : Nat) (edge : child ∈ graph.children parent) :
    ∃ place ∈ sprout.places 0 none, place.id = parent ∧
      child ∈ Sprout.starts (place.id + 1) place.sprout.children := by
  cases found : graph.node? parent with
  | none =>
    rw [Graph.children, found] at edge
    exact absurd edge (Array.not_mem_empty child)
  | some node =>
    obtain ⟨place, member, rfl, rfl⟩ := place_of_node graph sprout planted parent node found
    rw [planted_children graph sprout planted place member] at edge
    exact ⟨place, member, rfl, List.mem_toArray.1 edge⟩

theorem parent_of_child (parent child : Nat) (edge : child ∈ graph.children parent) :
    graph.parent? child = some parent := by
  obtain ⟨place, member, rfl, listed⟩ := edge_place graph sprout planted parent child edge
  obtain ⟨below, _, inner⟩ := Sprout.child_place 0 child none sprout place member listed
  exact planted_parent graph sprout planted _ inner

theorem child_of_parent (parent child : Nat) (above : graph.parent? child = some parent) :
    child ∈ graph.children parent := by
  cases found : graph.node? child with
  | none =>
    rw [Graph.parent?, found] at above
    cases above
  | some node =>
    obtain ⟨place, member, rfl, rfl⟩ := place_of_node graph sprout planted child node found
    rw [planted_parent graph sprout planted place member] at above
    rcases Sprout.place_attached 0 none sprout place member with topmost | ⟨owner, among, owned, listed⟩
    · rw [topmost] at above
      cases above
    · rw [above] at owned
      rw [Option.some.inj owned, planted_children graph sprout planted owner among]
      exact List.mem_toArray.2 listed

end

end Graph

end TreeGrammar
