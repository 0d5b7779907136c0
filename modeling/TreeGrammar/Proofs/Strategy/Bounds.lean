import Mathlib.Algebra.Ring.GeomSum
import Mathlib.Data.List.MinMax
import TreeGrammar.Proofs.Conformance
import TreeGrammar.Proofs.Strategy.Depth
import TreeGrammar.Proofs.Strategy.Random
set_option autoImplicit false

namespace TreeGrammar

variable {σ : Type}

def Graph.Shallow (graph : Graph) (limit : Nat) : Prop :=
  ∀ id : Nat, id < graph.size → graph.depth id ≤ limit

theorem shallow_add (graph : Graph) (name : String) (parent target : Option NodeId)
    (unlisted : List NodeId) (limit : Nat) (shallow : graph.Shallow limit)
    (line : (graph.add name parent target).Line (graph.size :: unlisted))
    (room : unlisted.length < limit) : (graph.add name parent target).Shallow limit := by
  intro id present
  rw [graph.size_add] at present
  by_cases newest : id = graph.size
  · rw [newest, Graph.depth, Graph.line_ancestors _ _ _ line]
    exact room
  · have older : id < graph.size := by omega
    rw [graph.keeps_depth _ (graph.keeps_add name parent target) id older]
    exact shallow id older

theorem shallow_attach (graph : Graph) (parent child : NodeId) (limit : Nat)
    (shallow : graph.Shallow limit) : (graph.attach parent child).Shallow limit := by
  intro id present
  rw [graph.size_attach] at present
  rw [graph.keeps_depth _ (graph.keeps_attach parent child) id present]
  exact shallow id present

theorem step_shallow (definition : Definition) (strategy : Strategy σ) (limit : Nat)
    (stage next : Stage) (run after : Run σ) (asked : List Exchange)
    (step : Step definition strategy stage run asked next after) (stands : next.Stands after)
    (room : run.graph.size < after.graph.size → stage.frames.length < limit)
    (shallow : run.graph.Shallow limit) : after.graph.Shallow limit := by
  have above : ∀ name parent target, (run.graph.add name parent target).size = after.graph.size →
      (stage.frames.map Frame.node).length < limit := by
    intro name parent target same
    rw [run.graph.size_add] at same
    rw [List.length_map]
    exact room (by omega)
  cases step with
  | leaf statement stack => exact shallow_add _ _ _ none _ _ shallow stands.line (above _ _ _ rfl)
  | bare statement stack => exact shallow_add _ _ _ none _ _ shallow stands.line (above _ _ _ rfl)
  | begun statement stack => exact shallow_add _ _ _ none _ _ shallow stands.line (above _ _ _ rfl)
  | reused node name reference lacking slots stack run target =>
    exact shallow_add _ _ _ (some target) _ _ shallow stands.line (above _ _ _ rfl)
  | attached child frame => exact shallow_attach _ frame.node child _ shallow
  | only | chosen | one | sized | fresh | completed => exact shallow

theorem within_frames (limit : Nat) (stage : Stage) (within : stage.Within limit) :
    stage.frames.length < max limit 1 := by
  cases stage with
  | branch => exact Nat.lt_of_succ_lt within
  | visit | fill | made => exact within

def Strategy.Modest (strategy : Strategy σ) (most : Nat) : Prop :=
  ∀ reference context state size,
    (strategy.answer (.size reference context) state).1 = size → size ≤ most

def Definition.widest (definition : Definition) : Nat :=
  (definition.toList.flatMap fun statement => statement.alternatives.map List.length).foldr max 0

theorem length_le_widest (definition : Definition) (statement : Statement)
    (alternative : Alternative) (stated : definition.statement? statement.name = some statement)
    (listed : alternative ∈ statement.alternatives) : alternative.length ≤ definition.widest := by
  obtain ⟨alternatives, found, same⟩ := Option.map_eq_some_iff.1 stated
  have member : statement ∈ definition.toList :=
    List.mem_map.2 ⟨_, NameMap.mem_of_get? found, same⟩
  exact List.le_max_of_le
    (List.mem_flatMap.2 ⟨statement, member, List.mem_map_of_mem listed⟩) (le_refl _)

theorem full_children_le (slots : List Slot) (most : Nat) (few : ∀ slot ∈ slots, slot.size ≤ most) :
    (slots.flatMap fun slot => List.replicate slot.size slot.reference.name).length ≤
      slots.length * most := by
  induction slots with
  | nil => exact Nat.zero_le _
  | cons slot rest ih =>
    have here := few slot (.head _)
    have later := ih fun other member => few other (.tail _ member)
    rw [List.flatMap_cons, List.length_append, List.length_replicate, List.length_cons, Nat.succ_mul]
    omega

theorem shallow_size (graph : Graph) (sprout : Sprout) (planted : graph.Planted sprout)
    (limit width : Nat) (shallow : graph.Shallow limit)
    (narrow : ∀ place ∈ sprout.places 0 none, place.sprout.children.length ≤ width) (levels : Nat)
    (place : Place) (member : place ∈ sprout.places 0 none)
    (room : graph.depth place.id + levels = limit + 1) :
    place.sprout.size ≤ ∑ level ∈ Finset.range levels, width ^ level := by
  induction levels generalizing place with
  | zero =>
    have present : place.id < graph.size := by
      rw [graph.planted_size sprout planted]
      have range := Sprout.place_range 0 none sprout place member
      omega
    have bound := shallow place.id present
    omega
  | succ levels ih =>
    have below : ∀ inner ∈ Sprout.siblings (place.id + 1) (some place.id) place.sprout.children,
        inner.sprout.size ≤ ∑ level ∈ Finset.range levels, width ^ level := by
      intro inner beside
      obtain ⟨inside, _⟩ := Sprout.sibling_below 0 none sprout place inner member beside
      have lower := (Sprout.place_range_all _ _ _ inner (Sprout.sibling_place _ _ _ inner beside)).1
      have parent := graph.planted_parent sprout planted inner inside
      rw [Sprout.sibling_parent _ _ _ inner beside] at parent
      have deeper := graph.depth_under inner.id place.id parent (by omega)
      exact ih inner inside (by omega)
    have children := Sprout.size_all_le _ _ _ _ below
    calc place.sprout.size
        = Sprout.sizeAll place.sprout.children + 1 := Sprout.size_eq place.sprout
      _ ≤ place.sprout.children.length * (∑ level ∈ Finset.range levels, width ^ level) + 1 :=
          Nat.succ_le_succ children
      _ ≤ width * (∑ level ∈ Finset.range levels, width ^ level) + 1 :=
          Nat.succ_le_succ (Nat.mul_le_mul_right _ (narrow place member))
      _ = ∑ level ∈ Finset.range (levels + 1), width ^ level := geom_sum_succ.symm

namespace Generator

variable (generator : Generator σ) (limit most : Nat) (root : String)

section

variable (careful : generator.strategy.Careful limit)

include careful

theorem comes_shallow (exchanges : List Exchange) (stage : Stage) (run : Run (Array Exchange × σ))
    (comes : generator.Comes root exchanges stage run) : run.graph.Shallow (max limit 1) := by
  have kept := reaches_invariant
    (fun stage run => stage.Stands run ∧ stage.Within limit ∧ run.graph.Shallow (max limit 1))
    (fun stage run asked next after step ⟨stands, within, shallow⟩ =>
      have later := step_stands _ _ stage next run after asked step stands
      ⟨later, step_within _ _ limit (careful_noting id generator.strategy limit careful) stage next run
          after asked step stands within,
        step_shallow _ _ _ stage next run after asked step later
          (fun _ => within_frames limit stage within) shallow⟩)
    comes ⟨standing_empty, lt_max_of_lt_right Nat.zero_lt_one, nofun⟩
  exact kept.2.2

theorem careful_shallow (depth : Nat) (graph : Graph)
    (success : (generator.generate depth root).1.result = .ok graph) :
    graph.Shallow (max limit 1) := by
  obtain ⟨exchanges, node, run, comes, _, rfl⟩ := generator.success_comes depth root graph success
  exact generator.comes_shallow limit root careful exchanges _ run comes

end

section

variable (modest : generator.strategy.Modest most)

include modest

theorem modest_decisions (depth : Nat) (node : NodeId) (reference : Reference) (size : Nat)
    (decided : Decision.size node reference size ∈ generator.decisions depth root) :
    size ≤ most := by
  obtain ⟨⟨question, answer⟩, member, same⟩ := List.mem_map.1 decided
  obtain ⟨between, answered⟩ :=
    plays_member _ _ _ _ (generator.transcript_plays depth root) _ member
  cases question with
  | size asked context =>
    cases same
    exact modest reference context between size answered
  | leaf | alternative | target => cases same

theorem modest_sizes (depth : Nat) (node : NodeId) (reference : Reference) (size : Nat)
    (decided : (reference, size) ∈ sizeAnswers (generator.decisions depth root) node) :
    size ≤ most := by
  obtain ⟨decision, member, same⟩ := List.mem_filterMap.1 decided
  cases decision with
  | size id asked answer =>
    obtain ⟨here, same⟩ := Option.ite_none_right_eq_some.1 same
    cases same
    exact generator.modest_decisions most root modest depth id reference size member
  | leaf | alternative | target => cases same

theorem modest_narrow (positive : 0 < most) (depth : Nat) (graph : Graph) (sprout : Sprout)
    (grows : generator.Grows depth root graph sprout) (place : Place)
    (member : place ∈ sprout.places 0 none) :
    place.sprout.children.length ≤ most * generator.definition.widest := by
  have fits := Sprout.place_fits generator.definition 0 none sprout place grows.conforms member
  have sizes := size_answers_at generator.definition 0 none sprout place grows.conforms member
  rw [← grows.decisions, Part.sizes] at sizes
  cases part : place.sprout.part with
  | proxy name target =>
    rw [part] at fits
    rw [show place.sprout.children = [] from fits]
    exact Nat.zero_le _
  | bare statement =>
    rw [part] at fits
    rw [fits.2]
    exact Nat.zero_le _
  | full statement index slots =>
    rw [part] at fits sizes
    obtain ⟨stated, chosen, admits, names⟩ := fits
    have few : ∀ slot ∈ slots, slot.size ≤ most := by
      intro slot listed
      -- A slot for exactly one child is not asked about.
      by_cases single : slot.reference.multiplicity = .exactlyOne
      · have admitted := admits slot listed
        simp only [Multiplicity.admits, single, Multiplicity.least, Multiplicity.most?,
          Option.all_some, Bool.and_eq_true, decide_eq_true_eq] at admitted
        omega
      · refine generator.modest_sizes most root modest depth place.id slot.reference slot.size ?_
        rw [sizes]
        exact List.mem_flatMap.2 ⟨slot, listed, by rw [if_neg single]; exact .head _⟩
    have wide := length_le_widest generator.definition statement _ stated
      (List.mem_of_getElem? chosen)
    calc place.sprout.children.length
        = (place.sprout.children.map Sprout.name).length := (List.length_map _).symm
      _ ≤ slots.length * most := by
          rw [names]
          exact full_children_le slots most few
      _ = most * (slots.map Slot.reference).length := by rw [List.length_map, Nat.mul_comm]
      _ ≤ most * generator.definition.widest := Nat.mul_le_mul_left most wide

end

theorem careful_size (careful : generator.strategy.Careful limit)
    (modest : generator.strategy.Modest most) (positive : 0 < most) (depth : Nat) (graph : Graph)
    (success : (generator.generate depth root).1.result = .ok graph) :
    graph.size ≤
      ∑ level ∈ Finset.range (max limit 1), (most * generator.definition.widest) ^ level := by
  obtain ⟨sprout, grows⟩ := generator.generate_grows depth root graph success
  have topmost := Sprout.place_self 0 none sprout
  have parent := graph.planted_parent sprout grows.planted _ topmost
  rw [graph.planted_size sprout grows.planted]
  refine shallow_size graph sprout grows.planted (max limit 1) _
    (generator.careful_shallow limit root careful depth graph success)
    (generator.modest_narrow most root modest positive depth graph sprout grows) _ _ topmost ?_
  rw [graph.depth_topmost 0 parent, Nat.add_comm]

end Generator

theorem random_modest (settings : Settings) :
    (Strategy.random settings).Modest (max settings.maxSize 1) := by
  intro reference context stream size answered
  have greatest : RandomChoice.greatestSize settings reference.multiplicity ≤
      max settings.maxSize 1 := by
    cases reference.multiplicity <;>
      simp [RandomChoice.greatestSize, Multiplicity.repeats, Multiplicity.least]
  rw [← answered]
  exact Nat.le_trans (RandomChoice.size_between settings stream reference context).2 greatest

theorem random_grown (definition : Definition) (settings : Settings) (stream : RandomStream)
    (completed : Completed) (root : String) (declared : definition.contains root = true) :
    let generator : Generator RandomStream := ⟨definition, .random settings, stream, completed⟩
    ∃ graph, ∀ depth, max settings.maxDepth 1 ≤ depth →
      (generator.generate depth root).1.result = .ok graph := by
  intro generator
  have known := (declares_iff definition root).2 declared
  obtain ⟨graph, success⟩ := generator.careful_ends _ (random_careful settings) root _ known (le_refl _)
  refine ⟨graph, fun depth enough => ?_⟩
  have ends : (generator.generate (max settings.maxDepth 1) root).1.result ≠
      .error .depthExceeded := by
    rw [success]
    nofun
  rw [← (generator.generate_deeper _ depth enough root ends).outcome]
  exact success

theorem random_graphs_bounded (definition : Definition) (settings : Settings)
    (stream : RandomStream) (completed : Completed) (root : String)
    (declared : definition.contains root = true) :
    let generator : Generator RandomStream := ⟨definition, .random settings, stream, completed⟩
    let limit := max settings.maxDepth 1
    ∃ graph, (∀ depth, limit ≤ depth → (generator.generate depth root).1.result = .ok graph) ∧
      (∀ id : Nat, id < graph.size → graph.depth id ≤ limit) ∧
      graph.size ≤
        ∑ level ∈ Finset.range limit, (max settings.maxSize 1 * definition.widest) ^ level := by
  intro generator limit
  have careful := random_careful settings
  obtain ⟨graph, grown⟩ := random_grown definition settings stream completed root declared
  have success := grown limit (le_refl limit)
  exact ⟨graph, grown, generator.careful_shallow _ root careful limit graph success,
    generator.careful_size _ _ root careful (random_modest settings)
      (lt_max_of_lt_right Nat.zero_lt_one) limit graph success⟩

theorem random_chain_bounded :
    chainDefinition.contains "link" = true ∧
      ∃ graph, (∀ depth, 8 ≤ depth → ((Generator.mk chainDefinition (.random .standard) (.ofSeed 7)
          ∅).generate depth "link").1.result = .ok graph) ∧
        (∀ id : Nat, id < graph.size → graph.depth id ≤ 8) ∧
        graph.size ≤ ∑ level ∈ Finset.range 8, 5 ^ level :=
  ⟨by decide, random_graphs_bounded chainDefinition .standard (.ofSeed 7) ∅ "link" (by decide)⟩

end TreeGrammar
