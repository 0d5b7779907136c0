import TreeGrammar.Proofs.Growth
import TreeGrammar.Proofs.Sprout.Decisions
set_option autoImplicit false

namespace TreeGrammar

namespace Graph

def postorder (graph : Graph) : (depth : Nat) → NodeId → Option (List NodeId)
  | 0, _ => none
  | depth + 1, id => do
    let node ← graph.node? id
    let below ← node.children.toList.mapM (graph.postorder depth)
    return below.flatten ++ [id]

def expanded (graph : Graph) (definition : Definition) (decisions : List Decision) (name : String)
    (id : NodeId) : Bool :=
  (graph.node? id).any (fun node => node.name = name && !node.isAlias) &&
    (definition.statement? name).any (fun statement => !statement.isLeaf) &&
    leafAnswers decisions id = [false]

end Graph

namespace Sprout

mutual

def rising (id : Nat) (parent : Option NodeId) : Sprout → List Place
  | .grown part children => risingAll (id + 1) (some id) children ++ [⟨id, parent, .grown part children⟩]

def risingAll (id : Nat) (parent : Option NodeId) : List Sprout → List Place
  | [] => []
  | first :: rest => first.rising id parent ++ risingAll (id + first.size) parent rest

end

theorem rising_eq (id : Nat) (parent : Option NodeId) (sprout : Sprout) :
    sprout.rising id parent = risingAll (id + 1) (some id) sprout.children ++ [⟨id, parent, sprout⟩] := by
  cases sprout with
  | grown part children => rfl

mutual

theorem rising_perm (id : Nat) (parent : Option NodeId) (sprout : Sprout) :
    (sprout.rising id parent).Perm (sprout.places id parent) := by
  cases sprout with
  | grown part children =>
    exact (List.perm_append_singleton _ _).trans
      ((rising_perm_all (id + 1) (some id) children).cons _)

theorem rising_perm_all (id : Nat) (parent : Option NodeId) (sprouts : List Sprout) :
    (risingAll id parent sprouts).Perm (placesAll id parent sprouts) := by
  cases sprouts with
  | nil => exact .nil
  | cons first rest =>
    exact (rising_perm id parent first).append (rising_perm_all (id + first.size) parent rest)

end

mutual

theorem completions_rising (id : Nat) (parent : Option NodeId) (sprout : Sprout) :
    sprout.completions id =
      (sprout.rising id parent).flatMap fun place => place.sprout.part.completion place.id := by
  cases sprout with
  | grown part children =>
    rw [completions, rising, List.flatMap_append, List.flatMap_singleton,
      completions_rising_all (id + 1) (some id) children]
    rfl

theorem completions_rising_all (id : Nat) (parent : Option NodeId) (sprouts : List Sprout) :
    completionsAll id sprouts =
      (risingAll id parent sprouts).flatMap fun place => place.sprout.part.completion place.id := by
  cases sprouts with
  | nil => rfl
  | cons first rest =>
    rw [completionsAll, risingAll, List.flatMap_append, completions_rising id parent first,
      completions_rising_all (id + first.size) parent rest]

end

theorem rising_siblings (id : Nat) (parent : Option NodeId) (sprouts : List Sprout) :
    (siblings id parent sprouts).flatMap (fun place => place.sprout.rising place.id place.parent) =
      risingAll id parent sprouts := by
  induction sprouts generalizing id with
  | nil => rfl
  | cons first rest ih => rw [siblings, List.flatMap_cons, ih, risingAll]

end Sprout

theorem postorder_place (graph : Graph) (sprout : Sprout) (planted : graph.Planted sprout)
    (depth : Nat) (place : Place) (member : place ∈ sprout.places 0 none)
    (enough : place.sprout.size ≤ depth) :
    graph.postorder depth place.id =
      some ((place.sprout.rising place.id place.parent).map Place.id) := by
  induction depth generalizing place with
  | zero => exact absurd enough (Nat.not_le_of_gt (Sprout.size_pos place.sprout))
  | succ depth ih =>
    have below := Sprout.mapM_starts (graph.postorder depth)
      (fun inner => (inner.sprout.rising inner.id inner.parent).map Place.id) (place.id + 1)
      (some place.id) place.sprout.children (by
        intro inner beside
        obtain ⟨inside, smaller⟩ := Sprout.sibling_below 0 none sprout place inner member beside
        exact ih inner inside (by omega))
    have found := Graph.node_of_place graph sprout planted place member
    rw [Graph.postorder, found, Sprout.rising_eq, List.map_append, ← Sprout.rising_siblings,
      List.map_flatMap, List.flatMap_def]
    change ((Sprout.starts (place.id + 1) place.sprout.children).mapM (graph.postorder depth) >>= _) = _
    rw [below]
    rfl

theorem completions_named (places : List Place) (name : String) (keep : NodeId → Bool)
    (each : ∀ place ∈ places,
      ((place.sprout.part.completion place.id).filter fun entry => entry.1 = name).map (·.2) =
        if keep place.id then [place.id] else []) :
    ((places.flatMap fun place => place.sprout.part.completion place.id).filter
      fun entry => entry.1 = name).map (·.2) = (places.map Place.id).filter keep := by
  induction places with
  | nil => rfl
  | cons first rest ih =>
    have later := ih fun place member => each place (.tail _ member)
    rw [List.flatMap_cons, List.filter_append, List.map_append, each first (.head _), later,
      List.map_cons, List.filter_cons]
    split <;> rfl

section

variable {σ : Type} (generator : Generator σ) (depth : Nat) (root : String) (graph : Graph)
  (sprout : Sprout) (grows : generator.Grows depth root graph sprout)

include grows

theorem place_expanded (name : String) (place : Place) (member : place ∈ sprout.places 0 none) :
    ((place.sprout.part.completion place.id).filter fun entry => entry.1 = name).map (·.2) =
      if graph.expanded generator.definition (generator.decisions depth root) name place.id
      then [place.id] else [] := by
  have found := Graph.node_of_place graph sprout grows.planted place member
  have fits := Sprout.place_fits generator.definition 0 none sprout place grows.conforms member
  have leafs := leaf_answers_at generator.definition 0 none sprout place grows.conforms member
  rw [← grows.decisions] at leafs
  rw [Graph.expanded, found, leafs]
  cases place with
  | mk id parent planted =>
    cases planted with
    | grown part children =>
      cases part with
      | proxy other target =>
        simp [Sprout.part, Part.completion, Place.node, Node.isAlias, Part.target?]
      | bare statement =>
        have unanswered : (Part.bare statement).leafs ≠ [false] := by
          rw [Part.leafs]
          split <;> simp
        simp [Sprout.part, Part.completion, unanswered]
      | full statement index slots =>
        have branches := full_branches generator.definition children statement index slots fits
        have stated : generator.definition.statement? statement.name = some statement := fits.1
        by_cases same : statement.name = name
        · simp [Sprout.part, Part.completion, Place.node, Sprout.name, Part.name, Node.isAlias,
            Part.target?, Part.leafs, ← same, stated, branches]
        · simp [Sprout.part, Part.completion, Place.node, Sprout.name, Part.name, same]

theorem grown_postorder : graph.postorder graph.size 0 = some ((sprout.rising 0 none).map Place.id) := by
  have size := Graph.planted_size graph sprout grows.planted
  exact postorder_place graph sprout grows.planted graph.size ⟨0, none, sprout⟩
    (Sprout.place_self 0 none sprout) (Nat.le_of_eq size.symm)

theorem rising_ids : ((sprout.rising 0 none).map Place.id).Perm graph.ids := by
  have size := Graph.planted_size graph sprout grows.planted
  have risen := (Sprout.rising_perm 0 none sprout).map Place.id
  rwa [Sprout.place_ids, ← size, ← List.range_eq_range'] at risen

theorem completed_rising (name : String) :
    ((generator.generate depth root).2.completed.named name).toList =
      ((sprout.rising 0 none).map Place.id).filter
        (graph.expanded generator.definition (generator.decisions depth root) name) := by
  have found := Completed.named_record_all ∅ (sprout.completions 0) name
  have risen := completions_named (sprout.rising 0 none) name
    (graph.expanded generator.definition (generator.decisions depth root) name) fun place member =>
      place_expanded generator depth root graph sprout grows name place
        ((Sprout.rising_perm 0 none sprout).mem_iff.1 member)
  rw [grows.completed, found, Sprout.completions_rising 0 none, risen]
  rfl

end

theorem completed_in_postorder {σ : Type} (generator : Generator σ) (depth : Nat) (root : String)
    (graph : Graph) (success : (generator.generate depth root).1.result = .ok graph) :
    ∃ order, graph.postorder graph.size 0 = some order ∧ order.Perm graph.ids ∧
      (∀ name, ((generator.generate depth root).2.completed.named name).toList =
        order.filter
          (graph.expanded generator.definition (generator.decisions depth root) name)) ∧
      (∀ name, ((generator.generate depth root).2.completed.named name).toList.Nodup) ∧
      ∀ name, (generator.generate depth root).2.completed.get? name ≠ some #[] := by
  obtain ⟨sprout, grows⟩ := Generator.generate_grows generator depth root graph success
  have listed := completed_rising generator depth root graph sprout grows
  have every := rising_ids generator depth root graph sprout grows
  refine ⟨_, grown_postorder generator depth root graph sprout grows, every, listed, ?_, ?_⟩
  · intro name
    rw [listed name]
    exact (every.nodup_iff.2 List.nodup_range).filter _
  · rw [grows.completed]
    exact Completed.record_all_nonempty ∅ _ fun name => nofun

theorem box_completed_in_postorder :
    (boxGenerator.generate 3 "box").1.result = .ok boxGraph ∧
      ((boxGenerator.generate 3 "box").2.completed.named "item").toList =
        [1, 2, 0].filter
          (boxGraph.expanded boxGenerator.definition (boxGenerator.decisions 3 "box") "item") := by
  obtain ⟨order, walked, _, listed, _⟩ :=
    completed_in_postorder boxGenerator 3 "box" boxGraph box_generated
  have risen : boxGraph.postorder 3 0 = some [1, 2, 0] := by decide
  have same : order = [1, 2, 0] := Option.some.inj (walked.symm.trans risen)
  exact ⟨box_generated, same ▸ listed "item"⟩

end TreeGrammar
