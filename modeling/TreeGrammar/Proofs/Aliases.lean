import Mathlib.Order.WellFounded
import TreeGrammar.Proofs.Growth
import TreeGrammar.Proofs.Sprout.Decisions
import TreeGrammar.Proofs.Sprout.Targets
set_option autoImplicit false

namespace TreeGrammar

namespace Graph

def Leads (graph : Graph) (id next : NodeId) : Prop :=
  next ∈ graph.children id ∨ graph.target? id = some next

def Below (graph : Graph) : NodeId → NodeId → Prop :=
  Relation.ReflTransGen fun parent child => child ∈ graph.children parent

structure SoundAlias (graph : Graph) (definition : Definition) (decisions : List Decision)
    (id : Nat) (node : Node) (target : NodeId) : Prop where
  original : ∃ original, graph.node? target = some original ∧ original.isAlias = false ∧
    original.name = node.name ∧
    ∃ statement, definition.statement? original.name = some statement ∧ statement.isLeaf = false
  expanded : leafAnswers decisions target = [false]
  before : ∀ below : Nat, graph.Below target below → below < id
  apart : target ∉ graph.ancestors id

section

variable (graph : Graph) (sprout : Sprout) (planted : graph.Planted sprout)

include planted

theorem below_place (place : Place) (member : place ∈ sprout.places 0 none) (id : Nat)
    (below : graph.Below place.id id) :
    ∃ inner ∈ place.sprout.places place.id place.parent, inner.id = id := by
  induction below with
  | refl => exact ⟨place, Sprout.place_self place.id place.parent place.sprout, rfl⟩
  | tail _ edge ih =>
    obtain ⟨outer, inside, rfl⟩ := ih
    have outside := Sprout.places_nested 0 none sprout place outer member inside
    rw [planted_children graph sprout planted outer outside] at edge
    obtain ⟨child, _, inner⟩ := Sprout.child_place place.id _ place.parent place.sprout outer inside
      (List.mem_toArray.1 edge)
    exact ⟨_, inner, rfl⟩

theorem below_ancestor (id ancestor : Nat) (member : ancestor ∈ graph.ancestors id) :
    graph.Below ancestor id := by
  induction id using Nat.strongRecOn with
  | ind id ih =>
    rw [ancestors] at member
    cases above : graph.parent? id with
    | none =>
      simp only [above] at member
      cases member
    | some parent =>
      simp only [above] at member
      have edge := child_of_parent graph sprout planted parent id above
      split at member
      · rename_i smaller
        rcases List.mem_cons.1 member with rfl | higher
        · exact .single edge
        · exact (ih parent smaller higher).tail edge
      · cases member

theorem edge_ends (place : Place) (member : place ∈ sprout.places 0 none) (child : Nat)
    (edge : child ∈ graph.children place.id) :
    ∃ inner ∈ sprout.places 0 none, inner.id = child ∧ place.id < child ∧ child < sprout.size ∧
      child + inner.sprout.size ≤ place.id + place.sprout.size := by
  rw [planted_children graph sprout planted place member] at edge
  have listed := List.mem_toArray.1 edge
  obtain ⟨below, _, inner⟩ := Sprout.child_place place.id child place.parent place.sprout place
    (Sprout.place_self place.id place.parent place.sprout) listed
  have outer := Sprout.places_nested 0 none sprout place _ member inner
  have range := Sprout.place_range 0 none sprout _ outer
  exact ⟨_, outer, rfl, Sprout.starts_above _ _ _ listed, by simpa using range.2,
    Sprout.place_end place.id place.parent place.sprout _ inner⟩

variable (targets : ∀ proxy ∈ sprout.places 0 none, ∀ target,
  proxy.sprout.part.target? = some target →
    ∃ place ∈ sprout.places 0 none, place.id = target ∧ place.id + place.sprout.size ≤ proxy.id)

include targets

theorem place_unfolds (place : Place) (member : place ∈ sprout.places 0 none) :
    Acc (fun next id => graph.Leads id next) place.id := by
  constructor
  intro next edge
  -- The target of an alias ends before the alias. A child may end where its parent does, but starts
  -- later.
  rcases edge with child | proxy
  · obtain ⟨inner, outer, rfl, after, present, ends⟩ :=
      edge_ends graph sprout planted place member next child
    exact place_unfolds inner outer
  · rw [planted_target graph sprout planted place member] at proxy
    obtain ⟨original, among, rfl, ends⟩ := targets place member next proxy
    have positive := Sprout.size_pos place.sprout
    exact place_unfolds original among
termination_by (place.id + place.sprout.size, sprout.size - place.id)
decreasing_by
  · simp only [Prod.lex_def]
    omega
  · simp only [Prod.lex_def]
    omega

theorem leads_well_founded : WellFounded fun next id => graph.Leads id next := by
  constructor
  intro id
  cases found : graph.node? id with
  | none =>
    constructor
    intro next edge
    rw [Leads, Graph.children, Graph.target?, found] at edge
    rcases edge with child | proxy
    · exact absurd child (Array.not_mem_empty next)
    · cases proxy
  | some node =>
    obtain ⟨place, member, rfl, _⟩ := place_of_node graph sprout planted id node found
    exact place_unfolds graph sprout planted targets place member

end

theorem no_cycle (graph : Graph) (unfolds : WellFounded fun next id => graph.Leads id next)
    (id : NodeId) : ¬ Relation.TransGen graph.Leads id id := by
  intro cycle
  exact unfolds.transGen.irrefl.irrefl id (Relation.transGen_swap.2 cycle)

end Graph

theorem completes_full (place : Place) (name : String) (target : NodeId)
    (completes : place.Completes name target) :
    ∃ statement index slots, place.sprout.part = .full statement index slots ∧
      statement.name = name ∧ place.id = target := by
  rw [Place.Completes] at completes
  cases shape : place.sprout.part with
  | proxy other number =>
    rw [shape] at completes
    cases completes
  | bare statement =>
    rw [shape] at completes
    cases completes
  | full statement index slots =>
    rw [shape] at completes
    have same := List.mem_singleton.1 completes
    exact ⟨statement, index, slots, rfl, (congrArg Prod.fst same).symm, (congrArg Prod.snd same).symm⟩

section

variable {σ : Type} (generator : Generator σ) (depth : Nat) (root : String) (graph : Graph)
  (sprout : Sprout) (grows : generator.Grows depth root graph sprout)

include grows

theorem grown_targets (proxy : Place) (member : proxy ∈ sprout.places 0 none) (target : NodeId)
    (targeted : proxy.sprout.part.target? = some target) :
    ∃ place ∈ sprout.places 0 none, place.Completes proxy.sprout.name target ∧
      place.id + place.sprout.size ≤ proxy.id := by
  refine Sprout.target_place _ [] 0 none sprout grows.sound ?_ (fun _ among => among) proxy member
    target targeted
  intro name number known
  cases known

theorem grown_target_ends (proxy : Place) (member : proxy ∈ sprout.places 0 none) (target : NodeId)
    (targeted : proxy.sprout.part.target? = some target) :
    ∃ place ∈ sprout.places 0 none, place.id = target ∧
      place.id + place.sprout.size ≤ proxy.id := by
  obtain ⟨place, among, completes, ends⟩ :=
    grown_targets generator depth root graph sprout grows proxy member target targeted
  obtain ⟨_, _, _, _, _, same⟩ := completes_full place _ target completes
  exact ⟨place, among, same, ends⟩

theorem place_stated (place : Place) (member : place ∈ sprout.places 0 none) :
    ∃ statement, generator.definition.statement? place.sprout.name = some statement := by
  have fits := Sprout.place_fits generator.definition 0 none sprout place grows.conforms member
  cases shape : place.sprout.part with
  | bare statement =>
    rw [shape] at fits
    rw [Sprout.name, shape]
    exact ⟨statement, fits.1⟩
  | full statement index slots =>
    rw [shape] at fits
    rw [Sprout.name, shape]
    exact ⟨statement, fits.1⟩
  | proxy name target =>
    obtain ⟨original, among, completes, _⟩ := grown_targets generator depth root graph sprout grows
      place member target (by rw [shape]; rfl)
    obtain ⟨statement, index, slots, full, named, _⟩ := completes_full original _ target completes
    have original := Sprout.place_fits generator.definition 0 none sprout original grows.conforms among
    rw [full] at original
    exact ⟨statement, named ▸ original.1⟩

theorem place_sound (proxy : Place) (member : proxy ∈ sprout.places 0 none) (target : NodeId)
    (targeted : proxy.sprout.part.target? = some target) :
    graph.SoundAlias generator.definition (generator.decisions depth root) proxy.id proxy.node
      target := by
  obtain ⟨place, among, completes, ends⟩ :=
    grown_targets generator depth root graph sprout grows proxy member target targeted
  obtain ⟨statement, index, slots, shape, named, rfl⟩ := completes_full place _ target completes
  have name : place.node.name = proxy.node.name := by
    change place.sprout.part.name = proxy.sprout.name
    rw [shape]
    exact named
  have fits := Sprout.place_fits generator.definition 0 none sprout place grows.conforms among
  have leafs := leaf_answers_at generator.definition 0 none sprout place grows.conforms among
  rw [shape] at fits leafs
  have before : ∀ below : Nat, graph.Below place.id below → below < proxy.id := by
    intro below under
    obtain ⟨inner, inside, rfl⟩ := Graph.below_place graph sprout grows.planted place among below under
    have range := Sprout.place_range _ _ _ inner inside
    omega
  refine ⟨⟨place.node, ?_, ?_, name, statement, ?_, ?_⟩, ?_, before, ?_⟩
  · exact Graph.node_of_place graph sprout grows.planted place among
  · change place.sprout.part.target?.isSome = false
    rw [shape]
    rfl
  · rw [name, ← fits.1]
    exact congrArg generator.definition.statement? named.symm
  · exact full_branches generator.definition place.sprout.children statement index slots fits
  · rw [grows.decisions]
    exact leafs
  · intro above
    have under := Graph.below_ancestor graph sprout grows.planted proxy.id place.id above
    exact absurd (before proxy.id under) (Nat.lt_irrefl proxy.id)

theorem resolve_twice (id : Nat) : graph.resolve (graph.resolve id) = graph.resolve id := by
  cases target : graph.target? id with
  | none =>
    have here : graph.resolve id = id := by rw [Graph.resolve, target, Option.getD_none]
    rw [here, here]
  | some number =>
    have there : graph.resolve id = number := by rw [Graph.resolve, target, Option.getD_some]
    rw [there, Graph.resolve]
    cases found : graph.node? id with
    | none =>
      rw [Graph.target?, found] at target
      cases target
    | some node =>
      obtain ⟨place, member, rfl, _⟩ := Graph.place_of_node graph sprout grows.planted id node found
      rw [Graph.planted_target graph sprout grows.planted place member] at target
      obtain ⟨⟨original, present, fresh, _⟩, _⟩ :=
        place_sound generator depth root graph sprout grows place member number target
      rw [Graph.target?, present, Option.bind_some, fresh_target original fresh, Option.getD_none]

end

theorem generated_aliases_sound {σ : Type} (generator : Generator σ) (depth : Nat) (root : String)
    (graph : Graph) (success : (generator.generate depth root).1.result = .ok graph) :
    (∀ id node target, graph.node? id = some node → node.target = some target →
      graph.SoundAlias generator.definition (generator.decisions depth root) id node target) ∧
    (∀ id, graph.resolve (graph.resolve id) = graph.resolve id) ∧
    (∀ id, ¬ Relation.TransGen graph.Leads id id) ∧
    WellFounded fun next id => graph.Leads id next := by
  obtain ⟨sprout, grows⟩ := Generator.generate_grows generator depth root graph success
  have unfolds := Graph.leads_well_founded graph sprout grows.planted
    (grown_target_ends generator depth root graph sprout grows)
  refine ⟨?_, resolve_twice generator depth root graph sprout grows, Graph.no_cycle graph unfolds,
    unfolds⟩
  intro id node target found targeted
  obtain ⟨place, member, rfl, rfl⟩ := Graph.place_of_node graph sprout grows.planted id node found
  exact place_sound generator depth root graph sprout grows place member target targeted

theorem generated_box_aliases :
    (boxGenerator.generate 3 "box").1.result = .ok boxGraph ∧
      boxGraph.SoundAlias boxGenerator.definition (boxGenerator.decisions 3 "box") 2
        ⟨"item", #[], some 0, some 1⟩ 1 :=
  ⟨box_generated,
    (generated_aliases_sound boxGenerator 3 "box" boxGraph box_generated).1 2 _ 1 rfl rfl⟩

end TreeGrammar
