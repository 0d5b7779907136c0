import TreeGrammar.Proofs.Growth
set_option autoImplicit false

namespace TreeGrammar

namespace Graph

-- There is no walk if a child is missing or if it gets deeper than `depth`.
def walk (graph : Graph) : (depth : Nat) → NodeId → Option (List NodeId)
  | 0, _ => none
  | depth + 1, id => do
    let node ← graph.node? id
    let below ← node.children.toList.mapM (graph.walk depth)
    return id :: below.flatten

structure OrderedTree (graph : Graph) (root : String) : Prop where
  nonempty : 0 < graph.size
  root : ∃ node, graph.node? 0 = some node ∧ node.name = root ∧ node.parent = none
  walk : graph.walk graph.size 0 = some graph.ids
  attached : ∀ child : Nat, 0 < child → child < graph.size →
    ∃ parent : Nat, parent < child ∧ graph.parent? child = some parent ∧
      (graph.children parent).toList.count child = 1 ∧
      ∀ other : Nat, other ≠ parent → child ∉ graph.children other
  aliases : ∀ id node, graph.node? id = some node → node.isAlias → node.children = #[]

end Graph

namespace Sprout

theorem starts_increasing (id : Nat) (sprouts : List Sprout) :
    (starts id sprouts).Pairwise (fun a b : Nat => a < b) := by
  induction sprouts generalizing id with
  | nil => exact .nil
  | cons first rest ih =>
    refine List.pairwise_cons.2 ⟨?_, ih (id + first.size)⟩
    intro later member
    have above := starts_above (id + first.size) rest later member
    have positive := size_pos first
    omega

theorem count_starts (id : Nat) (sprouts : List Sprout) (child : Nat)
    (member : child ∈ starts id sprouts) : (starts id sprouts).count child = 1 := by
  have distinct : (starts id sprouts).Nodup :=
    (starts_increasing id sprouts).imp fun less same => Nat.ne_of_lt less same
  rw [distinct.count, if_pos member]

end Sprout

section

variable (graph : Graph) (sprout : Sprout) (planted : graph.Planted sprout)

include planted

theorem walk_place (depth : Nat) (place : Place) (member : place ∈ sprout.places 0 none)
    (enough : place.sprout.size ≤ depth) :
    graph.walk depth place.id = some (List.range' place.id place.sprout.size) := by
  induction depth generalizing place with
  | zero => exact absurd enough (Nat.not_le_of_gt (Sprout.size_pos place.sprout))
  | succ depth ih =>
    -- Siblings are walked one after the other, so their ranges join.
    have below := Sprout.mapM_starts (graph.walk depth)
      (fun inner => List.range' inner.id inner.sprout.size) (place.id + 1) (some place.id)
      place.sprout.children (by
        intro inner beside
        obtain ⟨inside, smaller⟩ := Sprout.sibling_below 0 none sprout place inner member beside
        exact ih inner inside (by omega))
    have found := Graph.node_of_place graph sprout planted place member
    rw [Graph.walk, found, Sprout.size_eq, List.range'_succ,
      ← Sprout.sibling_ids (place.id + 1) (some place.id)]
    change ((Sprout.starts (place.id + 1) place.sprout.children).mapM (graph.walk depth) >>= _) = _
    rw [below]
    rfl

theorem planted_attached (child : Nat) (positive : 0 < child) (present : child < graph.size) :
    ∃ parent : Nat, parent < child ∧ graph.parent? child = some parent ∧
      (graph.children parent).toList.count child = 1 ∧
      ∀ other : Nat, other ≠ parent → child ∉ graph.children other := by
  obtain ⟨place, member, rfl⟩ := Graph.place_of_id graph sprout planted child present
  rcases Sprout.place_attached 0 none sprout place member with topmost | ⟨owner, among, above, listed⟩
  · rw [topmost] at positive
    exact absurd positive (Nat.lt_irrefl 0)
  · have parent : graph.parent? place.id = some owner.id :=
      (Graph.planted_parent graph sprout planted place member).trans above
    refine ⟨owner.id, Sprout.starts_above _ _ _ listed, parent, ?_, ?_⟩
    · rw [Graph.planted_children graph sprout planted owner among]
      exact Sprout.count_starts _ _ _ listed
    · intro other different elsewhere
      have same := Graph.parent_of_child graph sprout planted other place.id elsewhere
      rw [parent] at same
      exact different (Option.some.inj same).symm

end

theorem alias_bare (definition : Definition) (place : Place)
    (fits : place.sprout.part.Fits definition place.sprout.children) (proxy : place.node.isAlias) :
    place.node.children = #[] := by
  cases place with
  | mk id parent sprout =>
    cases sprout with
    | grown part children =>
      cases part with
      | proxy name target =>
        have none : children = [] := fits
        rw [none]
        rfl
      | bare statement => cases proxy
      | full statement index slots => cases proxy

theorem generated_graph_ordered {σ : Type} (generator : Generator σ) (depth : Nat) (root : String)
    (graph : Graph) (success : (generator.generate depth root).1.result = .ok graph) :
    graph.OrderedTree root := by
  obtain ⟨sprout, grows⟩ := Generator.generate_grows generator depth root graph success
  have size := Graph.planted_size graph sprout grows.planted
  have topmost : (⟨0, none, sprout⟩ : Place) ∈ sprout.places 0 none := Sprout.place_self 0 none sprout
  refine ⟨?_, ?_, ?_, planted_attached graph sprout grows.planted, ?_⟩
  · rw [size]
    exact Sprout.size_pos sprout
  · exact ⟨_, Graph.node_of_place graph sprout grows.planted _ topmost, grows.name, rfl⟩
  · rw [walk_place graph sprout grows.planted graph.size _ topmost (Nat.le_of_eq size.symm),
      Graph.ids, size, List.range_eq_range']
  · intro id node found proxy
    obtain ⟨place, member, rfl, rfl⟩ := Graph.place_of_node graph sprout grows.planted id node found
    have fits := Sprout.place_fits generator.definition 0 none sprout place grows.conforms member
    exact alias_bare generator.definition place fits proxy

theorem generated_box_ordered :
    (boxGenerator.generate 3 "box").1.result = .ok boxGraph ∧ boxGraph.OrderedTree "box" :=
  ⟨box_generated, generated_graph_ordered boxGenerator 3 "box" boxGraph box_generated⟩

end TreeGrammar
