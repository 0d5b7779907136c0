import TreeGrammar.Proofs.Sprout
set_option autoImplicit false

namespace TreeGrammar

namespace Sprout

theorem size_grown (part : Part) (children : List Sprout) :
    (grown part children).size = sizeAll children + 1 := rfl

theorem size_pos (sprout : Sprout) : 0 < sprout.size := by
  cases sprout with
  | grown part children => exact Nat.succ_pos _

theorem size_eq (sprout : Sprout) : sprout.size = sizeAll sprout.children + 1 := by
  cases sprout with
  | grown part children => rfl

theorem places_eq (id : Nat) (parent : Option NodeId) (sprout : Sprout) :
    sprout.places id parent = ⟨id, parent, sprout⟩ :: placesAll (id + 1) (some id) sprout.children := by
  cases sprout with
  | grown part children => rfl

theorem place_self (id : Nat) (parent : Option NodeId) (sprout : Sprout) :
    (⟨id, parent, sprout⟩ : Place) ∈ sprout.places id parent := by
  rw [places_eq]
  exact .head _

theorem starts_append (id : Nat) (front back : List Sprout) :
    starts id (front ++ back) = starts id front ++ starts (id + sizeAll front) back := by
  induction front generalizing id with
  | nil => rfl
  | cons first rest ih => simp only [List.cons_append, starts, ih, sizeAll, Nat.add_assoc]

theorem places_all_append (id : Nat) (parent : Option NodeId) (front back : List Sprout) :
    placesAll id parent (front ++ back) =
      placesAll id parent front ++ placesAll (id + sizeAll front) parent back := by
  induction front generalizing id with
  | nil => rfl
  | cons first rest ih =>
    simp only [List.cons_append, placesAll, ih, sizeAll, List.append_assoc, Nat.add_assoc]

mutual

theorem place_ids (id : Nat) (parent : Option NodeId) (sprout : Sprout) :
    (sprout.places id parent).map Place.id = List.range' id sprout.size := by
  cases sprout with
  | grown part children =>
    simp only [places, List.map_cons, size_grown, List.range'_succ,
      place_ids_all (id + 1) (some id) children]

theorem place_ids_all (id : Nat) (parent : Option NodeId) (sprouts : List Sprout) :
    (placesAll id parent sprouts).map Place.id = List.range' id (sizeAll sprouts) := by
  cases sprouts with
  | nil => rfl
  | cons first rest =>
    rw [placesAll, List.map_append, place_ids id parent first,
      place_ids_all (id + first.size) parent rest, sizeAll]
    simp

end

theorem place_range (id : Nat) (parent : Option NodeId) (sprout : Sprout) (place : Place)
    (member : place ∈ sprout.places id parent) : id ≤ place.id ∧ place.id < id + sprout.size := by
  have listed := List.mem_map_of_mem (f := Place.id) member
  rw [place_ids, List.mem_range'_1] at listed
  exact listed

theorem place_range_all (id : Nat) (parent : Option NodeId) (sprouts : List Sprout) (place : Place)
    (member : place ∈ placesAll id parent sprouts) :
    id ≤ place.id ∧ place.id < id + sizeAll sprouts := by
  have listed := List.mem_map_of_mem (f := Place.id) member
  rw [place_ids_all, List.mem_range'_1] at listed
  exact listed

mutual

theorem places_nested (id : Nat) (parent : Option NodeId) (sprout : Sprout) (outer inner : Place)
    (here : outer ∈ sprout.places id parent)
    (below : inner ∈ outer.sprout.places outer.id outer.parent) :
    inner ∈ sprout.places id parent := by
  cases sprout with
  | grown part children =>
    rcases List.mem_cons.1 here with rfl | deeper
    · exact below
    · exact .tail _ (places_nested_all (id + 1) (some id) children outer inner deeper below)

theorem places_nested_all (id : Nat) (parent : Option NodeId) (sprouts : List Sprout)
    (outer inner : Place) (here : outer ∈ placesAll id parent sprouts)
    (below : inner ∈ outer.sprout.places outer.id outer.parent) :
    inner ∈ placesAll id parent sprouts := by
  cases sprouts with
  | nil => cases here
  | cons first rest =>
    rcases List.mem_append.1 here with left | right
    · exact List.mem_append_left _ (places_nested id parent first outer inner left below)
    · exact List.mem_append_right _
        (places_nested_all (id + first.size) parent rest outer inner right below)

end

theorem place_end (id : Nat) (parent : Option NodeId) (sprout : Sprout) (place : Place)
    (member : place ∈ sprout.places id parent) : place.id + place.sprout.size ≤ id + sprout.size := by
  have last : place.id + place.sprout.size - 1 ∈ (sprout.places id parent).map Place.id := by
    have inner : place.id + place.sprout.size - 1 ∈
        (place.sprout.places place.id place.parent).map Place.id := by
      rw [place_ids, List.mem_range'_1]
      have := size_pos place.sprout
      omega
    obtain ⟨deep, below, same⟩ := List.mem_map.1 inner
    exact List.mem_map.2 ⟨deep, places_nested id parent sprout place deep member below, same⟩
  rw [place_ids, List.mem_range'_1] at last
  have := size_pos place.sprout
  omega

theorem starts_place (id child : Nat) (parent : Option NodeId) (sprouts : List Sprout)
    (member : child ∈ starts id sprouts) :
    ∃ sprout ∈ sprouts, (⟨child, parent, sprout⟩ : Place) ∈ placesAll id parent sprouts := by
  induction sprouts generalizing id with
  | nil => cases member
  | cons first rest ih =>
    rcases List.mem_cons.1 member with rfl | later
    · exact ⟨first, .head _, List.mem_append_left _ (place_self child parent first)⟩
    · obtain ⟨sprout, listed, place⟩ := ih (id + first.size) later
      exact ⟨sprout, .tail _ listed, List.mem_append_right _ place⟩

theorem starts_above (id : Nat) (sprouts : List Sprout) (child : Nat)
    (member : child ∈ starts id sprouts) : id ≤ child := by
  obtain ⟨sprout, listed, place⟩ := starts_place id child none sprouts member
  exact (place_range_all id none sprouts _ place).1

def siblings (id : Nat) (parent : Option NodeId) : List Sprout → List Place
  | [] => []
  | first :: rest => ⟨id, parent, first⟩ :: siblings (id + first.size) parent rest

theorem sibling_starts (id : Nat) (parent : Option NodeId) (sprouts : List Sprout) :
    (siblings id parent sprouts).map Place.id = starts id sprouts := by
  induction sprouts generalizing id with
  | nil => rfl
  | cons first rest ih => rw [siblings, List.map_cons, ih, starts]

theorem sibling_place (id : Nat) (parent : Option NodeId) (sprouts : List Sprout) (place : Place)
    (member : place ∈ siblings id parent sprouts) : place ∈ placesAll id parent sprouts := by
  induction sprouts generalizing id with
  | nil => cases member
  | cons first rest ih =>
    rcases List.mem_cons.1 member with rfl | later
    · exact List.mem_append_left _ (place_self id parent first)
    · exact List.mem_append_right _ (ih (id + first.size) later)

theorem sibling_size (id : Nat) (parent : Option NodeId) (sprouts : List Sprout) (place : Place)
    (member : place ∈ siblings id parent sprouts) : place.sprout.size ≤ sizeAll sprouts := by
  induction sprouts generalizing id with
  | nil => cases member
  | cons first rest ih =>
    rw [sizeAll]
    rcases List.mem_cons.1 member with rfl | later
    · exact Nat.le_add_right _ _
    · exact Nat.le_add_left_of_le (ih (id + first.size) later)

theorem sibling_parent (id : Nat) (parent : Option NodeId) (sprouts : List Sprout) (place : Place)
    (member : place ∈ siblings id parent sprouts) : place.parent = parent := by
  induction sprouts generalizing id with
  | nil => cases member
  | cons first rest ih =>
    rcases List.mem_cons.1 member with rfl | later
    · rfl
    · exact ih (id + first.size) later

theorem size_all_le (id : Nat) (parent : Option NodeId) (sprouts : List Sprout) (most : Nat)
    (each : ∀ place ∈ siblings id parent sprouts, place.sprout.size ≤ most) :
    sizeAll sprouts ≤ sprouts.length * most := by
  induction sprouts generalizing id with
  | nil => exact Nat.zero_le _
  | cons first rest ih =>
    have here : first.size ≤ most := each _ (.head _)
    have later := ih (id + first.size) fun place member => each place (.tail _ member)
    rw [sizeAll, List.length_cons, Nat.succ_mul]
    omega

theorem sibling_below (id : Nat) (parent : Option NodeId) (sprout : Sprout) (place inner : Place)
    (member : place ∈ sprout.places id parent)
    (below : inner ∈ siblings (place.id + 1) (some place.id) place.sprout.children) :
    inner ∈ sprout.places id parent ∧ inner.sprout.size < place.sprout.size := by
  constructor
  · apply places_nested id parent sprout place inner member
    rw [places_eq]
    exact .tail _ (sibling_place _ _ _ inner below)
  · rw [size_eq place.sprout]
    exact Nat.lt_succ_of_le (sibling_size _ _ _ inner below)

theorem sibling_ids (id : Nat) (parent : Option NodeId) (sprouts : List Sprout) :
    ((siblings id parent sprouts).map fun place => List.range' place.id place.sprout.size).flatten =
      List.range' id (sizeAll sprouts) := by
  induction sprouts generalizing id with
  | nil => rfl
  | cons first rest ih => rw [siblings, List.map_cons, List.flatten_cons, ih, sizeAll, List.range'_append_1]

theorem mapM_starts {α : Type} (f : NodeId → Option α) (value : Place → α) (id : Nat)
    (parent : Option NodeId) (sprouts : List Sprout)
    (each : ∀ place ∈ siblings id parent sprouts, f place.id = some (value place)) :
    (starts id sprouts).mapM f = some ((siblings id parent sprouts).map value) := by
  induction sprouts generalizing id with
  | nil => rfl
  | cons first rest ih =>
    have here : f id = some (value ⟨id, parent, first⟩) := each _ (.head _)
    have later := ih (id + first.size) fun place member => each place (.tail _ member)
    rw [starts, List.mapM_cons, here, later]
    rfl

theorem child_place (id child : Nat) (parent : Option NodeId) (sprout : Sprout) (place : Place)
    (member : place ∈ sprout.places id parent)
    (attached : child ∈ starts (place.id + 1) place.sprout.children) :
    ∃ below ∈ place.sprout.children,
      (⟨child, some place.id, below⟩ : Place) ∈ sprout.places id parent := by
  obtain ⟨below, listed, deeper⟩ := starts_place (place.id + 1) child (some place.id) _ attached
  refine ⟨below, listed, places_nested id parent sprout place _ member ?_⟩
  rw [places_eq]
  exact .tail _ deeper

def Attached (places : List Place) (place : Place) : Prop :=
  ∃ owner ∈ places, place.parent = some owner.id ∧
    place.id ∈ starts (owner.id + 1) owner.sprout.children

mutual

theorem place_attached (id : Nat) (parent : Option NodeId) (sprout : Sprout) (place : Place)
    (member : place ∈ sprout.places id parent) :
    place = ⟨id, parent, sprout⟩ ∨ Attached (sprout.places id parent) place := by
  cases sprout with
  | grown part children =>
    rcases List.mem_cons.1 member with same | deeper
    · exact .inl same
    · right
      rcases place_attached_all (id + 1) (some id) children place deeper with
        ⟨above, listed⟩ | ⟨owner, among, above, listed⟩
      · exact ⟨⟨id, parent, .grown part children⟩, .head _, above, listed⟩
      · exact ⟨owner, .tail _ among, above, listed⟩

theorem place_attached_all (id : Nat) (parent : Option NodeId) (sprouts : List Sprout)
    (place : Place) (member : place ∈ placesAll id parent sprouts) :
    (place.parent = parent ∧ place.id ∈ starts id sprouts) ∨
      Attached (placesAll id parent sprouts) place := by
  cases sprouts with
  | nil => cases member
  | cons first rest =>
    rcases List.mem_append.1 member with left | right
    · rcases place_attached id parent first place left with rfl | ⟨owner, among, above, listed⟩
      · exact .inl ⟨rfl, .head _⟩
      · exact .inr ⟨owner, List.mem_append_left _ among, above, listed⟩
    · rcases place_attached_all (id + first.size) parent rest place right with
        ⟨above, listed⟩ | ⟨owner, among, above, listed⟩
      · exact .inl ⟨above, .tail _ listed⟩
      · exact .inr ⟨owner, List.mem_append_right _ among, above, listed⟩

end

end Sprout

end TreeGrammar
