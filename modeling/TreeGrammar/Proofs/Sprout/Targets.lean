import TreeGrammar.Proofs.Sprout.Lawful
import TreeGrammar.Proofs.Sprout.Places
set_option autoImplicit false

namespace TreeGrammar

def Place.Completes (place : Place) (name : String) (target : NodeId) : Prop :=
  (name, target) ∈ place.sprout.part.completion place.id

def Backed (places : List Place) (known : List (String × NodeId)) (id : Nat) : Prop :=
  ∀ name target, (name, target) ∈ known →
    ∃ place ∈ places, place.Completes name target ∧ place.id + place.sprout.size ≤ id

namespace Sprout

mutual

theorem completion_place (id : Nat) (parent : Option NodeId) (sprout : Sprout) (name : String)
    (target : NodeId) (member : (name, target) ∈ sprout.completions id) :
    ∃ place ∈ sprout.places id parent, place.Completes name target := by
  cases sprout with
  | grown part children =>
    rcases List.mem_append.1 member with below | here
    · obtain ⟨place, among, completes⟩ :=
        completion_place_all (id + 1) (some id) children name target below
      exact ⟨place, .tail _ among, completes⟩
    · exact ⟨⟨id, parent, .grown part children⟩, .head _, here⟩

theorem completion_place_all (id : Nat) (parent : Option NodeId) (sprouts : List Sprout)
    (name : String) (target : NodeId) (member : (name, target) ∈ completionsAll id sprouts) :
    ∃ place ∈ placesAll id parent sprouts, place.Completes name target := by
  cases sprouts with
  | nil => cases member
  | cons first rest =>
    rcases List.mem_append.1 member with left | right
    · obtain ⟨place, among, completes⟩ := completion_place id parent first name target left
      exact ⟨place, List.mem_append_left _ among, completes⟩
    · obtain ⟨place, among, completes⟩ :=
        completion_place_all (id + first.size) parent rest name target right
      exact ⟨place, List.mem_append_right _ among, completes⟩

end

end Sprout

theorem backed_later (places : List Place) (known : List (String × NodeId)) (id later : Nat)
    (backed : Backed places known id) (order : id ≤ later) : Backed places known later := by
  intro name target member
  obtain ⟨place, among, completes, ends⟩ := backed name target member
  exact ⟨place, among, completes, Nat.le_trans ends order⟩

theorem backed_grown (places : List Place) (known : List (String × NodeId)) (id : Nat)
    (parent : Option NodeId) (sprout : Sprout) (backed : Backed places known id)
    (inside : ∀ place ∈ sprout.places id parent, place ∈ places) :
    Backed places (known ++ sprout.completions id) (id + sprout.size) := by
  intro name target member
  rcases List.mem_append.1 member with before | grown
  · exact backed_later places known id _ backed (Nat.le_add_right _ _) name target before
  · obtain ⟨place, among, completes⟩ := Sprout.completion_place id parent sprout name target grown
    exact ⟨place, inside place among, completes, Sprout.place_end id parent sprout place among⟩

namespace Sprout

mutual

theorem target_place (places : List Place) (known : List (String × NodeId)) (id : Nat)
    (parent : Option NodeId) (sprout : Sprout) (sound : sprout.Sound known id)
    (backed : Backed places known id) (inside : ∀ place ∈ sprout.places id parent, place ∈ places)
    (proxy : Place) (member : proxy ∈ sprout.places id parent) (target : NodeId)
    (targeted : proxy.sprout.part.target? = some target) :
    ∃ place ∈ places, place.Completes proxy.sprout.name target ∧
      place.id + place.sprout.size ≤ proxy.id := by
  cases sprout with
  | grown part children =>
    obtain ⟨here, below⟩ := sound
    rcases List.mem_cons.1 member with rfl | deeper
    · exact backed part.name target (here target targeted)
    · exact target_place_all places known (id + 1) (some id) children below
        (backed_later places known id _ backed (Nat.le_succ id))
        (fun place among => inside place (.tail _ among)) proxy deeper target targeted

theorem target_place_all (places : List Place) (known : List (String × NodeId)) (id : Nat)
    (parent : Option NodeId) (sprouts : List Sprout) (sound : SoundAll known id sprouts)
    (backed : Backed places known id)
    (inside : ∀ place ∈ placesAll id parent sprouts, place ∈ places) (proxy : Place)
    (member : proxy ∈ placesAll id parent sprouts) (target : NodeId)
    (targeted : proxy.sprout.part.target? = some target) :
    ∃ place ∈ places, place.Completes proxy.sprout.name target ∧
      place.id + place.sprout.size ≤ proxy.id := by
  cases sprouts with
  | nil => cases member
  | cons first rest =>
    obtain ⟨here, later⟩ := sound
    have within : ∀ place ∈ first.places id parent, place ∈ places :=
      fun place among => inside place (List.mem_append_left _ among)
    rcases List.mem_append.1 member with left | right
    · exact target_place places known id parent first here backed within proxy left target targeted
    · exact target_place_all places _ (id + first.size) parent rest later
        (backed_grown places known id parent first backed within)
        (fun place among => inside place (List.mem_append_right _ among)) proxy right target targeted

end

end Sprout

end TreeGrammar
