import Mathlib.Data.Set.Card
import TreeGrammar.Proofs.Strategy.Bounds
set_option autoImplicit false

namespace TreeGrammar

variable {σ : Type}

namespace Definition

variable (definition : Definition) (root : String)

def Refers (source target : String) : Prop :=
  ∃ multiplicity, definition.References source target multiplicity

def reachable : Set String := {name | Relation.ReflTransGen definition.Refers root name}

def AcyclicFrom : Prop :=
  ∀ name ∈ definition.reachable root, ¬ Relation.TransGen definition.Refers name name

inductive Descends : List String → Prop where
  | nil : Descends []
  | root : Descends [root]
  | deeper (name above : String) (rest : List String) (refers : definition.Refers above name)
      (line : Descends (above :: rest)) : Descends (name :: above :: rest)

theorem descends_tail (name : String) (rest : List String)
    (descends : definition.Descends root (name :: rest)) : definition.Descends root rest := by
  cases descends with
  | root => exact .nil
  | deeper _ above rest refers line => exact line

theorem descends_reachable (names : List String) (descends : definition.Descends root names) :
    ∀ name ∈ names, name ∈ definition.reachable root := by
  induction descends with
  | nil => nofun
  | root => exact List.forall_mem_singleton.2 .refl
  | deeper name above rest refers _ ih =>
    exact List.forall_mem_cons.2 ⟨(ih above (.head _)).tail refers, ih⟩

theorem descends_leads (name : String) (rest : List String)
    (descends : definition.Descends root (name :: rest)) :
    ∀ above ∈ rest, Relation.TransGen definition.Refers above name := by
  induction rest generalizing name with
  | nil => nofun
  | cons above rest ih =>
    cases descends with
    | deeper _ _ _ refers line =>
      refine List.forall_mem_cons.2 ⟨.single refers, ?_⟩
      intro higher member
      exact (ih above line higher member).tail refers

theorem descends_distinct (acyclic : definition.AcyclicFrom root) (names : List String)
    (descends : definition.Descends root names) : names.Nodup := by
  induction names with
  | nil => exact .nil
  | cons name rest ih =>
    refine List.nodup_cons.2 ⟨?_, ih (definition.descends_tail root name rest descends)⟩
    intro again
    exact acyclic name (definition.descends_reachable root _ descends name (.head _))
      (definition.descends_leads root name rest descends name again)

theorem refers_declared (source target : String) (refers : definition.Refers source target) :
    definition.Declares target := by
  obtain ⟨multiplicity, statement, stated, alternative, among, referred⟩ := refers
  exact definition.reference_leads source statement stated alternative among _ referred

section

variable (declared : definition.Declares root)

include declared

theorem reachable_declared (name : String) (reached : name ∈ definition.reachable root) :
    name ∈ definition.statements.names := by
  have known : definition.Declares name := by
    cases reached with
    | refl => exact declared
    | tail _ refers => exact definition.refers_declared _ name refers
  exact NameMap.mem_names_of_contains _ name ((declares_iff definition name).1 known)

theorem reachable_finite : (definition.reachable root).Finite :=
  (List.finite_toSet definition.statements.names).subset
    (definition.reachable_declared root declared)

theorem reachable_count : (definition.reachable root).ncard ≤ definition.size := by
  calc (definition.reachable root).ncard
      ≤ (definition.statements.names.toFinset : Set String).ncard := by
        refine Set.ncard_le_ncard ?_ (Finset.finite_toSet _)
        intro name reached
        simpa using definition.reachable_declared root declared name reached
    _ = definition.statements.names.toFinset.card := Set.ncard_coe_finset _
    _ ≤ definition.statements.names.length := List.toFinset_card_le _
    _ = definition.size := List.length_map _

theorem descends_length (acyclic : definition.AcyclicFrom root) (names : List String)
    (descends : definition.Descends root names) :
    names.length ≤ (definition.reachable root).ncard := by
  calc names.length
      = names.toFinset.card :=
        (List.toFinset_card_of_nodup (definition.descends_distinct root acyclic names descends)).symm
    _ = (names.toFinset : Set String).ncard := (Set.ncard_coe_finset _).symm
    _ ≤ (definition.reachable root).ncard := by
        refine Set.ncard_le_ncard ?_ (definition.reachable_finite root declared)
        intro name member
        exact definition.descends_reachable root names descends name (by simpa using member)

end

end Definition

def Frame.Refers (definition : Definition) (frame : Frame) : Prop :=
  (∀ reference ∈ frame.lacking, definition.Refers frame.name reference.name) ∧
    ∀ reference ∈ frame.slots, definition.Refers frame.name reference.name

def Stage.names : Stage → List String
  | visit name stack => name :: stack.map Frame.name
  | branch statement _ stack => statement.name :: stack.map Frame.name
  | fill frame stack => (frame :: stack).map Frame.name
  | made _ stack => stack.map Frame.name

structure Stage.Descends (definition : Definition) (root : String) (stage : Stage) : Prop where
  names : definition.Descends root stage.names
  frames : ∀ frame ∈ stage.frames, frame.Refers definition

section

variable (definition : Definition) (strategy : Strategy σ) (root : String) (stage next : Stage)
  (run after : Run σ) (asked : List Exchange)

theorem step_descends (step : Step definition strategy stage run asked next after)
    (declared : stage.Declared definition) (descends : stage.Descends definition root) :
    next.Descends definition root := by
  have frames : ∀ frame ∈ next.frames, frame.Refers definition :=
    step_frames definition strategy stage next run after asked
      (fun name reference => definition.Refers name reference.name)
      (fun statement alternative stated among reference referred =>
        ⟨reference.multiplicity, statement, stated, alternative, among, referred⟩)
      step (declared_stated definition stage declared) descends.frames
  refine ⟨?_, frames⟩
  cases step with
  | leaf | bare | completed => exact definition.descends_tail root _ _ descends.names
  | begun | only | chosen | one | sized | reused | attached => exact descends.names
  -- Only a new child makes the line of names longer, and the name above references its name.
  | fresh node name reference lacking slots stack =>
    have refers := descends.frames _ (.head _)
    exact .deeper reference.name name _ (refers.1 reference (.head _)) descends.names

variable (known : definition.Declares root) (acyclic : definition.AcyclicFrom root)

include known acyclic

theorem step_room (step : Step definition strategy stage run asked next after)
    (descends : stage.Descends definition root) (grows : run.graph.size < after.graph.size) :
    stage.frames.length < (definition.reachable root).ncard := by
  have room : ∀ name, definition.Descends root (name :: stage.frames.map Frame.name) →
      stage.frames.length < (definition.reachable root).ncard := by
    intro name line
    have bound := definition.descends_length root known acyclic _ line
    rwa [List.length_cons, List.length_map] at bound
  cases step with
  | leaf statement | bare statement | begun statement => exact room statement.name descends.names
  | reused node name reference lacking slots stack =>
    have refers := descends.frames _ (.head _)
    exact room reference.name (.deeper _ name _ (refers.1 reference (.head _)) descends.names)
  | attached child frame =>
    rw [run.graph.size_attach] at grows
    exact absurd grows (Nat.lt_irrefl _)
  | only | chosen | one | sized | fresh | completed => exact absurd grows (Nat.lt_irrefl _)

end

namespace Generator

variable (generator : Generator σ) (root : String)
  (declared : generator.definition.contains root = true)

include declared

theorem comes_descends (exchanges : List Exchange) (stage : Stage) (run : Run (Array Exchange × σ))
    (comes : generator.Comes root exchanges stage run) :
    stage.Descends generator.definition root := by
  have known := (declares_iff generator.definition root).2 declared
  have kept := reaches_invariant
    (fun stage _ => stage.Declared generator.definition ∧ stage.Descends generator.definition root)
    (fun stage run asked next after step ⟨declared, descends⟩ =>
      ⟨step_declared _ _ stage next run after asked step declared,
        step_descends _ _ root stage next run after asked step declared descends⟩)
    comes ⟨⟨known, nofun⟩, .root, nofun⟩
  exact kept.2

variable (acyclic : generator.definition.AcyclicFrom root)

include acyclic

theorem acyclic_shallow (exchanges : List Exchange) (stage : Stage)
    (run : Run (Array Exchange × σ)) (comes : generator.Comes root exchanges stage run) :
    run.graph.Shallow (generator.definition.reachable root).ncard := by
  have known := (declares_iff generator.definition root).2 declared
  have kept := reaches_invariant
    (fun stage run => stage.Stands run ∧
      (stage.Declared generator.definition ∧ stage.Descends generator.definition root) ∧
        run.graph.Shallow (generator.definition.reachable root).ncard)
    (fun stage run asked next after step ⟨stands, ⟨declared, descends⟩, shallow⟩ =>
      have later := step_stands _ _ stage next run after asked step stands
      ⟨later, ⟨step_declared _ _ stage next run after asked step declared,
          step_descends _ _ root stage next run after asked step declared descends⟩,
        step_shallow _ _ _ stage next run after asked step later
          (step_room _ _ root stage next run after asked known acyclic step descends) shallow⟩)
    comes ⟨standing_empty, ⟨⟨known, nofun⟩, .root, nofun⟩, nofun⟩
  exact kept.2.2

theorem acyclic_ends (depth : Nat) (enough : (generator.definition.reachable root).ncard ≤ depth) :
    (generator.generate depth root).1.result ≠ .error .depthExceeded := by
  have known := (declares_iff generator.definition root).2 declared
  cases generator.generate_ending depth root with
  | grown exchanges node run comes transcript result =>
    rw [result]
    nofun
  | halted exchanges refused stage run after cause comes halts transcript result =>
    rw [result]
    nofun
  | deep exchanges name stack run comes deepest =>
    have descends := generator.comes_descends root declared exchanges _ run comes
    -- The statement that is to be expanded stands below as many others as the limit.
    have bound := generator.definition.descends_length root known acyclic _ descends.names
    rw [Stage.names, List.length_cons, List.length_map] at bound
    omega

end Generator

theorem acyclic_runs_end (generator : Generator σ) (root : String)
    (declared : generator.definition.contains root = true)
    (acyclic : generator.definition.AcyclicFrom root) :
    let count := (generator.definition.reachable root).ncard
    count ≤ generator.definition.size ∧
      (∀ depth, count ≤ depth →
        ((∃ graph, (generator.generate depth root).1.result = .ok graph) ∨
          ∃ cause, (generator.generate depth root).1.result = .error (.error cause)) ∧
        generator.Coincide generator count depth root) ∧
      (∀ exchanges stage run, generator.Comes root exchanges stage run →
        ∀ id : Nat, id < run.graph.size → run.graph.depth id ≤ count) ∧
      ∀ depth graph, (generator.generate depth root).1.result = .ok graph →
        ∀ id : Nat, id < graph.size → graph.depth id ≤ count := by
  intro count
  have known := (declares_iff generator.definition root).2 declared
  have shallow := generator.acyclic_shallow root declared acyclic
  have ends := generator.acyclic_ends root declared acyclic
  refine ⟨generator.definition.reachable_count root known, ?_, shallow, ?_⟩
  · intro depth enough
    refine ⟨?_, generator.generate_deeper count depth enough root (ends count (le_refl count))⟩
    cases result : (generator.generate depth root).1.result with
    | ok graph => exact .inl ⟨graph, rfl⟩
    | error halt =>
      cases halt with
      | error cause => exact .inr ⟨cause, rfl⟩
      | depthExceeded => exact absurd result (ends depth enough)
  · intro depth graph success
    obtain ⟨exchanges, node, run, comes, _, rfl⟩ := generator.success_comes depth root graph success
    exact shallow exchanges _ run comes

theorem acyclic_of_rising (definition : Definition) (root : String)
    (rising : ∀ site ∈ definition.sites, site.1 < site.2.name) : definition.AcyclicFrom root := by
  have step : ∀ source target, definition.Refers source target → source < target := by
    intro source target ⟨multiplicity, refers⟩
    exact rising _ ((definition.mem_sites source target multiplicity).2 refers)
  intro name _ cycle
  have above : ∀ last, Relation.TransGen definition.Refers name last → name < last := by
    intro last leads
    induction leads with
    | single refers => exact step _ _ refers
    | tail _ refers ih => exact ih.trans (step _ _ refers)
  exact String.lt_irrefl name (above name cycle)

theorem box_runs_end :
    boxGenerator.definition.contains "box" = true ∧ boxGenerator.definition.AcyclicFrom "box" ∧
      ((∃ graph, (boxGenerator.generate 3 "box").1.result = .ok graph) ∨
        ∃ cause, (boxGenerator.generate 3 "box").1.result = .error (.error cause)) ∧
      ∀ exchanges stage run, boxGenerator.Comes "box" exchanges stage run →
        ∀ id : Nat, id < run.graph.size → run.graph.depth id ≤ 3 := by
  have declared : boxGenerator.definition.contains "box" = true := by decide
  have acyclic := acyclic_of_rising boxGenerator.definition "box" (by decide)
  obtain ⟨count, ends, shallow, _⟩ := acyclic_runs_end boxGenerator "box" declared acyclic
  refine ⟨declared, acyclic, (ends 3 count).1, ?_⟩
  intro exchanges stage run comes id present
  exact (shallow exchanges stage run comes id present).trans count

end TreeGrammar
