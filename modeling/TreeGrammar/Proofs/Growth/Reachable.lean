import TreeGrammar.Proofs.Stage.Acyclic
set_option autoImplicit false

namespace TreeGrammar

variable {σ : Type}

namespace Definition

theorem reachable_refers (definition : Definition) (root name : String) (statement : Statement)
    (reached : name ∈ definition.reachable root)
    (stated : definition.statement? name = some statement) (alternative : Alternative)
    (among : alternative ∈ statement.alternatives) (reference : Reference)
    (referred : reference ∈ alternative) : reference.name ∈ definition.reachable root :=
  reached.tail ⟨reference.multiplicity, statement, stated, alternative, among, referred⟩

theorem reachable_within (definition : Definition) (root : String) (names : List String)
    (start : root ∈ names)
    (closed : ∀ site ∈ definition.sites, site.1 ∈ names → site.2.name ∈ names) :
    ∀ name ∈ definition.reachable root, name ∈ names := by
  intro name reached
  induction reached with
  | refl => exact start
  | tail _ refers ih =>
    obtain ⟨multiplicity, refers⟩ := refers
    exact closed _ ((definition.mem_sites _ _ multiplicity).2 refers) ih

end Definition

namespace Growth

variable {α β : Type}

theorem bind_agrees (part : Growth σ α) (next onto : α → Growth σ β) (run : Run σ)
    (agree : ∀ a after, part run = .ok a after → next a after = onto a after) :
    (part >>= next) run = (part >>= onto) run := by
  simp only [bind, EStateM.bind]
  cases ended : part run with
  | ok a after => exact agree a after ended
  | error halt after => rfl

section

variable (strategy : Strategy σ) (grow onto : String → Option NodeId → Growth σ NodeId)

theorem add_child_agrees (reference : Reference) (node : NodeId)
    (agree : ∀ parent, grow reference.name parent = onto reference.name parent) :
    addChild strategy grow reference node = addChild strategy onto reference node := by
  simp only [addChild, agree]

theorem add_children_agree (reference : Reference) (node : NodeId)
    (agree : ∀ parent, grow reference.name parent = onto reference.name parent) (count : Nat) :
    addChildren strategy grow reference node count =
      addChildren strategy onto reference node count := by
  induction count with
  | zero => rfl
  | succ count ih =>
    rw [addChildren, addChildren, add_child_agrees strategy grow onto reference node agree, ih]

theorem fill_slots_agree (node : NodeId) (alternative : Alternative)
    (agree : ∀ reference ∈ alternative, ∀ parent,
      grow reference.name parent = onto reference.name parent) :
    fillSlots strategy grow node alternative = fillSlots strategy onto node alternative := by
  induction alternative with
  | nil => rfl
  | cons reference rest ih =>
    obtain ⟨here, later⟩ := List.forall_mem_cons.1 agree
    simp only [fillSlots, add_children_agree strategy grow onto reference node here, ih later]

end

theorem pick_alternative_listed (strategy : Strategy σ) (statement : Statement)
    (parent : Option NodeId) (before after : Run σ) (alternative : Alternative)
    (picked : pickAlternative strategy statement parent before = .ok alternative after) :
    alternative ∈ statement.alternatives := by
  by_cases single : statement.alternatives.length = 1
  · obtain ⟨only, alternatives⟩ := List.length_eq_one_iff.1 single
    rw [pickAlternative, alternatives] at picked
    rw [alternatives, ← (pure_ok _ _ _ _ picked).1]
    exact .head _
  · rw [pick_alternative_asked strategy statement parent single, bind_ok] at picked
    obtain ⟨context, shown, looked, picked⟩ := picked
    rw [bind_ok] at picked
    obtain ⟨index, answered, asked, picked⟩ := picked
    cases found : statement.alternatives[index]? with
    | none =>
      rw [found] at picked
      cases picked
    | some chosen =>
      rw [found] at picked
      rw [← (pure_ok _ _ _ _ picked).1]
      exact List.mem_of_getElem? found

theorem expand_agrees (strategy : Strategy σ) (first second : Definition) (root : String)
    (agree : ∀ name ∈ first.reachable root, first.statement? name = second.statement? name)
    (depth : Nat) (name : String) (reached : name ∈ first.reachable root) (parent : Option NodeId) :
    expand first strategy depth name parent = expand second strategy depth name parent := by
  induction depth generalizing name parent with
  | zero => rfl
  | succ depth ih =>
    rw [expand, expand, ← agree name reached]
    cases stated : first.statement? name with
    | none => rfl
    | some statement =>
      funext run
      refine bind_agrees _ _ _ run ?_
      intro _ noted _
      refine bind_agrees _ _ _ noted ?_
      intro leaf decided _
      refine bind_agrees _ _ _ decided ?_
      intro node created _
      by_cases bare : leaf = true
      · simp only [bare, if_true]
      · simp only [bare]
        refine bind_agrees _ _ _ created ?_
        intro alternative chosen picked
        have among := pick_alternative_listed strategy statement parent _ _ alternative picked
        rw [fill_slots_agree strategy _ _ node alternative]
        intro reference referred above
        exact ih reference.name (first.reachable_refers root name statement reached stated alternative
          among reference referred) above

theorem ends_same (result : EStateM.Result Halt (Run σ) α) : Ends Eq Eq result result := by
  cases result with
  | ok a run => exact ⟨rfl, rfl, rfl, rfl, rfl⟩
  | error halt run => exact ⟨rfl, rfl, rfl, rfl, rfl⟩

end Growth

namespace Generator

theorem generate_agrees (first second : Generator σ) (strategies : first.strategy = second.strategy)
    (states : first.state = second.state) (root : String)
    (agree : ∀ name ∈ first.definition.reachable root,
      first.definition.statement? name = second.definition.statement? name) (depth : Nat) :
    (first.generate depth root).1 = (second.generate depth root).1 ∧
      (first.generate depth root).2.completed = (second.generate depth root).2.completed ∧
      (first.generate depth root).2.state = (second.generate depth root).2.state := by
  have expands := Growth.expand_agrees first.strategy first.definition second.definition root agree depth
    root .refl none
  refine generate_ends Eq first second depth depth root ?_
  rw [expands, strategies, states]
  exact Growth.ends_same _

end Generator

theorem runs_read_reachable (first second : Generator σ) (strategies : first.strategy = second.strategy)
    (states : first.state = second.state) (root : String)
    (agree : ∀ name ∈ first.definition.reachable root,
      first.definition.statement? name = second.definition.statement? name) (depth : Nat) :
    first.Coincide second depth depth root ∧
      (first.generate depth root).2.state = (second.generate depth root).2.state := by
  obtain ⟨outcome, completed, state⟩ :=
    Generator.generate_agrees first second strategies states root agree depth
  refine ⟨⟨?_, outcome, completed⟩, state⟩
  obtain ⟨_, _, noted⟩ := Generator.generate_agrees
    (.new first.definition (first.strategy.noting id) (#[], first.state))
    (.new second.definition (second.strategy.noting id) (#[], second.state))
    (congrArg (Strategy.noting id) strategies) (congrArg (Prod.mk #[]) states) root agree depth
  exact congrArg (fun state => state.1.toList) noted

def crateDefinition : Definition :=
  ⟨⟨[("box", []), ("crate", [[⟨"item", .atLeastOne⟩]]), ("item", [[⟨"label", .atMostOne⟩]]),
    ("label", [])], by decide⟩, by decide⟩

theorem items_read_reachable :
    (∀ name ∈ boxGenerator.definition.reachable "item",
      boxGenerator.definition.statement? name = crateDefinition.statement? name) ∧
    boxGenerator.definition.statement? "box" ≠ crateDefinition.statement? "box" ∧
    boxGenerator.Coincide { boxGenerator with definition := crateDefinition } 2 2 "item" := by
  have agree : ∀ name ∈ boxGenerator.definition.reachable "item",
      boxGenerator.definition.statement? name = crateDefinition.statement? name := by
    have same : ∀ name ∈ ["item", "label"],
        boxGenerator.definition.statement? name = crateDefinition.statement? name := by decide
    intro name reached
    exact same name
      (boxGenerator.definition.reachable_within "item" _ (by decide) (by decide) name reached)
  exact ⟨agree, by decide, (runs_read_reachable boxGenerator
    { boxGenerator with definition := crateDefinition } rfl rfl "item" agree 2).1⟩

end TreeGrammar
