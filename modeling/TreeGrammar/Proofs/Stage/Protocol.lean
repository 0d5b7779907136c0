import TreeGrammar.Proofs.Stage.Refusal
import TreeGrammar.Proofs.Stage.Seedlings
set_option autoImplicit false

namespace TreeGrammar

variable {σ : Type}

mutual

-- The node gets the number `id`, the size of the graph before; `next` is the size of the graph after
-- the last decision.
inductive Definition.Occurs (definition : Definition) :
    (id : NodeId) → String → List Decision → (next : NodeId) → Prop where
  | leaf (id : NodeId) (statement : Statement)
      (stated : definition.statement? statement.name = some statement)
      (childless : statement.alternatives = []) :
      Definition.Occurs definition id statement.name [] (id + 1)
  | bare (id : NodeId) (statement : Statement)
      (stated : definition.statement? statement.name = some statement)
      (branching : statement.alternatives ≠ []) :
      Definition.Occurs definition id statement.name [.leaf statement id true] (id + 1)
  | full (id next : NodeId) (statement : Statement) (rest : List Decision)
      (stated : definition.statement? statement.name = some statement)
      (branching : statement.alternatives ≠ [])
      (expanded : Definition.Expands definition statement id (id + 1) rest next) :
      Definition.Occurs definition id statement.name (.leaf statement id false :: rest) next

inductive Definition.Expands (definition : Definition) :
    Statement → (node id : NodeId) → List Decision → (next : NodeId) → Prop where
  | only (statement : Statement) (node id next : NodeId) (alternative : Alternative)
      (rest : List Decision) (single : statement.alternatives = [alternative])
      (filled : Definition.Fills definition node [] alternative id rest next) :
      Definition.Expands definition statement node id rest next
  | chosen (statement : Statement) (node id next : NodeId) (index : Nat) (alternative : Alternative)
      (rest : List Decision) (several : 2 ≤ statement.alternatives.length)
      (found : statement.alternatives[index]? = some alternative)
      (filled : Definition.Fills definition node [] alternative id rest next) :
      Definition.Expands definition statement node id (.alternative statement node index :: rest) next

inductive Definition.Fills (definition : Definition) : (node : NodeId) → (lacking : List Reference) →
    (slots : Alternative) → (id : NodeId) → List Decision → (next : NodeId) → Prop where
  | done (node id : NodeId) : Definition.Fills definition node [] [] id [] id
  | one (node id next : NodeId) (reference : Reference) (slots : Alternative) (rest : List Decision)
      (single : reference.multiplicity = .exactlyOne)
      (filled : Definition.Fills definition node [reference] slots id rest next) :
      Definition.Fills definition node [] (reference :: slots) id rest next
  | sized (node id next : NodeId) (reference : Reference) (slots : Alternative) (size : Nat)
      (rest : List Decision) (several : reference.multiplicity ≠ .exactlyOne)
      (admitted : reference.multiplicity.admits size)
      (filled : Definition.Fills definition node (List.replicate size reference) slots id rest next) :
      Definition.Fills definition node [] (reference :: slots) id (.size node reference size :: rest)
        next
  | reused (node id next : NodeId) (reference : Reference) (lacking : List Reference)
      (slots : Alternative) (target : NodeId) (rest : List Decision)
      (filled : Definition.Fills definition node lacking slots (id + 1) rest next) :
      Definition.Fills definition node (reference :: lacking) slots id
        (.target node reference id (some target) :: rest) next
  | fresh (node id middle next : NodeId) (reference : Reference) (lacking : List Reference)
      (slots : Alternative) (below rest : List Decision)
      (occurs : Definition.Occurs definition id reference.name below middle)
      (filled : Definition.Fills definition node lacking slots middle rest next) :
      Definition.Fills definition node (reference :: lacking) slots id
        (.target node reference id none :: (below ++ rest)) next

end

namespace Definition

variable (definition : Definition)

inductive Unwinds : List Frame → (id : NodeId) → List Decision → (next : NodeId) → Prop where
  | nil (id : NodeId) : Unwinds [] id [] id
  | cons (frame : Frame) (stack : List Frame) (id middle next : NodeId) (here rest : List Decision)
      (filled : definition.Fills frame.node frame.lacking frame.slots id here middle)
      (onward : Unwinds stack middle rest next) : Unwinds (frame :: stack) id (here ++ rest) next

end Definition

inductive Stage.Continues (definition : Definition) :
    Stage → (id : NodeId) → List Decision → (next : NodeId) → Prop where
  | visit (name : String) (stack : List Frame) (id middle next : NodeId) (here rest : List Decision)
      (occurs : definition.Occurs id name here middle)
      (onward : definition.Unwinds stack middle rest next) :
      Stage.Continues definition (.visit name stack) id (here ++ rest) next
  | branch (statement : Statement) (node : NodeId) (stack : List Frame) (id middle next : NodeId)
      (here rest : List Decision) (expanded : definition.Expands statement node id here middle)
      (onward : definition.Unwinds stack middle rest next) :
      Stage.Continues definition (.branch statement node stack) id (here ++ rest) next
  | fill (frame : Frame) (stack : List Frame) (id next : NodeId) (rest : List Decision)
      (onward : definition.Unwinds (frame :: stack) id rest next) :
      Stage.Continues definition (.fill frame stack) id rest next
  | made (node : NodeId) (stack : List Frame) (id next : NodeId) (rest : List Decision)
      (onward : definition.Unwinds stack id rest next) :
      Stage.Continues definition (.made node stack) id rest next

section

variable {definition : Definition} {strategy : Strategy σ} {run after : Run σ} {stack : List Frame}

theorem leaf_decision (name : String) (statement : Statement) (answer : Bool)
    (stands : (Stage.visit name stack).Stands run) :
    Exchange.decision ⟨.leaf statement (run.shown (innermost stack)), answer⟩ =
      .leaf statement run.graph.size answer := by
  cases stack with
  | nil =>
    rw [standing_rooted stands]
    rfl
  | cons frame rest => rfl

theorem alternative_decision (statement other : Statement) (node : NodeId) (answer : Nat)
    (stands : (Stage.branch other node stack).Stands run)
    (newest : (Stage.branch other node stack).Newest run) :
    Exchange.decision ⟨.alternative statement (run.shown (innermost stack)), answer⟩ =
      .alternative statement node answer := by
  cases stack with
  | nil =>
    have bottom := run.graph.line_bottom node [] stands.line
    rw [show node = 0 from Option.some.inj bottom]
    rfl
  | cons frame rest =>
    have before : run.graph.size - 1 = node := by
      rw [newest other node _ rfl]
      rfl
    exact congrArg (Decision.alternative statement · answer) before

theorem branching_alternatives (statement : Statement) (branching : statement.isLeaf = false) :
    statement.alternatives ≠ [] := by
  intro childless
  rw [Statement.isLeaf, childless] at branching
  cases branching

theorem several_alternatives (statement : Statement) (branching : statement.isLeaf = false)
    (several : statement.alternatives.length ≠ 1) : 2 ≤ statement.alternatives.length := by
  have nonempty := List.length_pos_iff.2 (branching_alternatives statement branching)
  omega

theorem step_continues (stage next : Stage) (asked : List Exchange)
    (step : Step definition strategy stage run asked next after) (stands : stage.Stands run)
    (newest : stage.Newest run) (declared : stage.Declared definition) (rest : List Decision)
    (final : NodeId) (continues : next.Continues definition after.graph.size rest final) :
    stage.Continues definition run.graph.size (asked.map Exchange.decision ++ rest) final := by
  cases step with
  | leaf statement stack run stated childless =>
    cases continues with
    | made _ _ _ _ _ onward =>
      rw [Run.visited, Graph.size_add] at onward
      exact .visit _ stack _ _ final [] rest
        (.leaf run.graph.size statement stated (List.isEmpty_iff.1 childless)) onward
  | bare statement stack run state stated branching =>
    cases continues with
    | made _ _ _ _ _ onward =>
      rw [Run.visited, Graph.size_add] at onward
      rw [List.map_singleton, leaf_decision _ _ _ stands]
      exact .visit _ stack _ _ final [_] rest
        (.bare run.graph.size statement stated (branching_alternatives statement branching)) onward
  | begun statement stack run state stated branching =>
    cases continues with
    | branch _ _ _ _ middle _ here later expanded onward =>
      rw [Run.visited, Graph.size_add] at expanded
      rw [List.map_singleton, leaf_decision _ _ _ stands]
      exact .visit _ stack _ middle final (_ :: here) later
        (.full run.graph.size middle statement here stated
          (branching_alternatives statement branching) expanded) onward
  | only statement node stack run alternative single =>
    cases continues with
    | fill _ _ _ _ _ onward =>
      cases onward with
      | cons _ _ _ middle _ here later filled onward =>
        exact .branch statement node stack _ middle final here later
          (.only statement node _ middle alternative here single filled) onward
  | chosen statement node stack run index state alternative several _ found =>
    cases continues with
    | fill _ _ _ _ _ onward =>
      cases onward with
      | cons _ _ _ middle _ here later filled onward =>
        rw [List.map_singleton, alternative_decision statement statement node index stands newest]
        exact .branch statement node stack _ middle final (_ :: here) later
          (.chosen statement node _ middle index alternative here
            (several_alternatives statement declared.1.2 several) found filled) onward
  | one node name reference slots stack run single =>
    cases continues with
    | fill _ _ _ _ _ onward =>
      cases onward with
      | cons _ _ _ middle _ here later filled onward =>
        exact .fill _ stack _ final _ (.cons _ stack _ middle final here later
          (.one node _ middle reference slots here single filled) onward)
  | sized node name reference slots stack run size state several _ admitted =>
    cases continues with
    | fill _ _ _ _ _ onward =>
      cases onward with
      | cons _ _ _ middle _ here later filled onward =>
        exact .fill _ stack _ final _ (.cons _ stack _ middle final (_ :: here) later
          (.sized node _ middle reference slots size here several admitted filled) onward)
  | fresh node name reference lacking slots stack run state =>
    cases continues with
    | visit _ _ _ middle _ below later occurs onward =>
      cases onward with
      | cons _ _ _ last _ here rest filled onward =>
        rw [← List.append_assoc, ← List.append_assoc]
        exact .fill _ stack _ final _ (.cons _ stack _ last final (_ :: (below ++ here)) rest
          (.fresh node _ middle last reference lacking slots below here occurs filled) onward)
  | reused node name reference lacking slots stack run target state =>
    cases continues with
    | made _ _ _ _ _ onward =>
      cases onward with
      | cons _ _ _ middle _ here later filled onward =>
        rw [Graph.size_add] at filled
        exact .fill _ stack _ final _ (.cons _ stack _ middle final (_ :: here) later
          (.reused node _ middle reference lacking slots target here filled) onward)
  | completed node name stack run =>
    cases continues with
    | made _ _ _ _ _ onward =>
      exact .fill _ stack _ final _ (.cons _ stack _ _ final [] rest (.done node _) onward)
  | attached child frame stack run =>
    cases continues with
    | fill _ _ _ _ _ onward =>
      rw [Graph.size_attach] at onward
      exact .made child _ _ final rest onward

theorem reaches_continues (stage last : Stage) (exchanges : List Exchange)
    (reaches : Reaches definition strategy stage run exchanges last after) (stands : stage.Stands run)
    (newest : stage.Newest run) (declared : stage.Declared definition) (rest : List Decision)
    (final : NodeId) (continues : last.Continues definition after.graph.size rest final) :
    stage.Continues definition run.graph.size (exchanges.map Exchange.decision ++ rest) final := by
  induction reaches with
  | refl stage run => exact continues
  | step stage next last run between after asked more step _ ih =>
    have onward := ih (step_stands definition strategy stage next run between asked step stands)
      (step_newest definition strategy stage next run between asked step)
      (step_declared definition strategy stage next run between asked step declared) continues
    rw [List.map_append, List.append_assoc]
    exact step_continues stage next asked step stands newest declared _ final onward

end

-- Every beginning can be gone on with: new children that are left bare, and as few as there may be.
section

variable (definition : Definition)

theorem occurs_some (name : String) (declared : definition.Declares name) (id : NodeId) :
    ∃ rest next, definition.Occurs id name rest next := by
  obtain ⟨statement, stated⟩ := declared
  have named := ((definition.statement_eq_some name statement).1 stated).1
  subst named
  by_cases childless : statement.alternatives = []
  · exact ⟨_, _, .leaf id statement stated childless⟩
  · exact ⟨_, _, .bare id statement stated childless⟩

theorem least_admitted (multiplicity : Multiplicity) :
    multiplicity.admits multiplicity.least = true := by
  cases multiplicity <;> rfl

section

variable (node : NodeId) (reference : Reference) (slots : Alternative) (id : NodeId)

theorem fills_fresh (lacking : List Reference) (declared : definition.Declares reference.name)
    (filled : ∀ id, ∃ rest next, definition.Fills node lacking slots id rest next) :
    ∃ rest next, definition.Fills node (reference :: lacking) slots id
      (.target node reference id none :: rest) next := by
  obtain ⟨below, middle, occurs⟩ := occurs_some definition reference.name declared id
  obtain ⟨rest, next, later⟩ := filled middle
  exact ⟨_, next, .fresh node id middle next reference lacking slots below rest occurs later⟩

theorem fills_lacking (lacking : List Reference)
    (declared : ∀ reference ∈ lacking, definition.Declares reference.name)
    (filled : ∀ id, ∃ rest next, definition.Fills node [] slots id rest next) :
    ∃ rest next, definition.Fills node lacking slots id rest next := by
  induction lacking generalizing id with
  | nil => exact filled id
  | cons reference lacking ih =>
    obtain ⟨here, later⟩ := List.forall_mem_cons.1 declared
    obtain ⟨rest, next, fills⟩ :=
      fills_fresh definition node reference slots id lacking here fun id => ih id later
    exact ⟨_, next, fills⟩

theorem fills_sized (declared : definition.Declares reference.name)
    (several : reference.multiplicity ≠ .exactlyOne)
    (filled : ∀ id, ∃ rest next, definition.Fills node [] slots id rest next) :
    ∃ rest next, definition.Fills node [] (reference :: slots) id
      (.size node reference reference.multiplicity.least :: rest) next := by
  have repeated : ∀ other ∈ List.replicate reference.multiplicity.least reference,
      definition.Declares other.name := by
    intro other member
    rw [List.eq_of_mem_replicate member]
    exact declared
  obtain ⟨rest, next, fills⟩ := fills_lacking definition node slots id _ repeated filled
  exact ⟨rest, next, .sized node id next reference slots _ rest several
    (least_admitted reference.multiplicity) fills⟩

theorem fills_slots_left (declared : ∀ reference ∈ slots, definition.Declares reference.name) :
    ∃ rest next, definition.Fills node [] slots id rest next := by
  induction slots generalizing id with
  | nil => exact ⟨[], id, .done node id⟩
  | cons reference slots ih =>
    obtain ⟨here, later⟩ := List.forall_mem_cons.1 declared
    by_cases single : reference.multiplicity = .exactlyOne
    · obtain ⟨rest, next, fills⟩ := fills_lacking definition node slots id [reference]
        (List.forall_mem_singleton.2 here) fun id => ih id later
      exact ⟨rest, next, .one node id next reference slots rest single fills⟩
    · obtain ⟨rest, next, fills⟩ :=
        fills_sized definition node reference slots id here single fun id => ih id later
      exact ⟨_, next, fills⟩

end

theorem frame_fills (frame : Frame) (declared : frame.Declared definition) (id : NodeId) :
    ∃ rest next, definition.Fills frame.node frame.lacking frame.slots id rest next :=
  fills_lacking definition frame.node frame.slots id frame.lacking declared.1 fun id =>
    fills_slots_left definition frame.node frame.slots id declared.2

theorem unwinds_some (stack : List Frame) (declared : ∀ frame ∈ stack, frame.Declared definition)
    (id : NodeId) : ∃ rest next, definition.Unwinds stack id rest next := by
  induction stack generalizing id with
  | nil => exact ⟨[], id, .nil id⟩
  | cons frame stack ih =>
    obtain ⟨open_frame, below⟩ := List.forall_mem_cons.1 declared
    obtain ⟨here, middle, filled⟩ := frame_fills definition frame open_frame id
    obtain ⟨rest, next, onward⟩ := ih below middle
    exact ⟨_, next, .cons frame stack id middle next here rest filled onward⟩

section

variable (statement : Statement) (node id : NodeId)
  (stated : definition.statement? statement.name = some statement)

include stated

theorem expands_chosen (several : 2 ≤ statement.alternatives.length) :
    ∃ rest next, definition.Expands statement node id (.alternative statement node 0 :: rest) next := by
  have present : 0 < statement.alternatives.length := by omega
  have found := List.getElem?_eq_getElem present
  have declared := definition.reference_leads statement.name statement stated _
    (List.mem_of_getElem? found)
  obtain ⟨rest, next, filled⟩ := fills_slots_left definition node _ id declared
  exact ⟨rest, next, .chosen statement node id next 0 _ rest several found filled⟩

theorem expands_some (branching : statement.isLeaf = false) :
    ∃ rest next, definition.Expands statement node id rest next := by
  by_cases single : statement.alternatives.length = 1
  · obtain ⟨only, alternatives⟩ := List.length_eq_one_iff.1 single
    have declared := definition.reference_leads statement.name statement stated only
      (alternatives ▸ .head _)
    obtain ⟨rest, next, filled⟩ := fills_slots_left definition node only id declared
    exact ⟨rest, next, .only statement node id next only rest alternatives filled⟩
  · obtain ⟨rest, next, expanded⟩ := expands_chosen definition statement node id stated
      (several_alternatives statement branching single)
    exact ⟨_, next, expanded⟩

end

theorem stage_continues (stage : Stage) (declared : stage.Declared definition) (id : NodeId) :
    ∃ rest next, stage.Continues definition id rest next := by
  cases stage with
  | visit name stack =>
    obtain ⟨here, middle, occurs⟩ := occurs_some definition name declared.1 id
    obtain ⟨rest, next, onward⟩ := unwinds_some definition stack declared.2 middle
    exact ⟨_, next, .visit name stack id middle next here rest occurs onward⟩
  | branch statement node stack =>
    obtain ⟨here, middle, expanded⟩ :=
      expands_some definition statement node id declared.1.1 declared.1.2
    obtain ⟨rest, next, onward⟩ := unwinds_some definition stack declared.2 middle
    exact ⟨_, next, .branch statement node stack id middle next here rest expanded onward⟩
  | fill frame stack =>
    obtain ⟨rest, next, onward⟩ := unwinds_some definition (frame :: stack) declared id
    exact ⟨rest, next, .fill frame stack id next rest onward⟩
  | made node stack =>
    obtain ⟨rest, next, onward⟩ := unwinds_some definition stack declared id
    exact ⟨rest, next, .made node stack id next rest onward⟩

theorem halts_continues (strategy : Strategy σ) (stage : Stage) (run after : Run σ)
    (refused : List Exchange) (cause : GenerationError)
    (halts : Halts definition strategy stage run refused cause after) (stands : stage.Stands run)
    (newest : stage.Newest run) (declared : stage.Declared definition) :
    ∃ (question : Question) (answer other : question.Answer) (rest : List Decision) (next : NodeId),
      refused = [⟨question, answer⟩] ∧
        stage.Continues definition run.graph.size (Exchange.decision ⟨question, other⟩ :: rest)
          next := by
  cases halts with
  | unknown name stack run missing =>
    obtain ⟨statement, stated⟩ := declared.1
    rw [missing] at stated
    cases stated
  | alternative statement node stack run index state several =>
    obtain ⟨here, middle, expanded⟩ := expands_chosen definition statement node run.graph.size
      declared.1.1 (several_alternatives statement declared.1.2 several)
    obtain ⟨rest, next, onward⟩ := unwinds_some definition stack declared.2 middle
    refine ⟨.alternative statement (run.shown (innermost stack)), index, (0 : Nat), here ++ rest, next,
      rfl, ?_⟩
    -- The first alternative could have been taken.
    rw [alternative_decision statement statement node 0 stands newest]
    exact .branch statement node stack _ middle next (_ :: here) rest expanded onward
  | size node name reference slots stack run size state several =>
    obtain ⟨open_frame, below⟩ := List.forall_mem_cons.1 declared
    obtain ⟨here, later⟩ := List.forall_mem_cons.1 open_frame.2
    obtain ⟨rest, middle, filled⟩ := fills_sized definition node reference slots run.graph.size here
      several fun id => fills_slots_left definition node slots id later
    obtain ⟨more, next, onward⟩ := unwinds_some definition stack below middle
    exact ⟨.size reference ⟨run.graph, node⟩, size, reference.multiplicity.least, _, next, rfl,
      .fill _ stack _ next _ (.cons _ stack _ middle next (_ :: rest) more filled onward)⟩
  | target node name reference lacking slots stack run target =>
    obtain ⟨open_frame, below⟩ := List.forall_mem_cons.1 declared
    obtain ⟨here, later⟩ := List.forall_mem_cons.1 open_frame.1
    obtain ⟨rest, middle, filled⟩ := fills_fresh definition node reference slots run.graph.size lacking
      here fun id => frame_fills definition ⟨node, name, lacking, slots⟩ ⟨later, open_frame.2⟩ id
    obtain ⟨more, next, onward⟩ := unwinds_some definition stack below middle
    exact ⟨.target reference ⟨run.graph, node⟩ run.completed, some target, none, _, next, rfl,
      .fill _ stack _ next _ (.cons _ stack _ middle next (_ :: rest) more filled onward)⟩

end

namespace Generator

variable (generator : Generator σ) (root : String) (known : generator.definition.Declares root)

include known

theorem comes_occurs (exchanges : List Exchange) (stage : Stage) (run : Run (Array Exchange × σ))
    (comes : generator.Comes root exchanges stage run) (rest : List Decision) (final : NodeId)
    (continues : stage.Continues generator.definition run.graph.size rest final) :
    generator.definition.Occurs 0 root (exchanges.map Exchange.decision ++ rest) final := by
  have whole := reaches_continues _ stage exchanges comes standing_empty nofun ⟨known, nofun⟩ rest
    final continues
  generalize exchanges.map Exchange.decision ++ rest = decisions at whole ⊢
  cases whole with
  | visit _ _ _ middle _ here later occurs onward =>
    cases onward with
    | nil =>
      rw [List.append_nil]
      exact occurs

variable (depth : Nat)

theorem success_occurs (graph : Graph)
    (success : (generator.generate depth root).1.result = .ok graph) :
    generator.definition.Occurs 0 root (generator.decisions depth root) graph.size := by
  obtain ⟨exchanges, node, run, comes, transcript, rfl⟩ :=
    generator.success_comes depth root graph success
  have occurs := generator.comes_occurs root known exchanges _ run comes [] run.graph.size
    (.made node [] _ _ [] (.nil _))
  rw [List.append_nil] at occurs
  rw [decisions, transcript]
  exact occurs

theorem failure_occurs (cause : GenerationError)
    (failure : (generator.generate depth root).1.result = .error (.error cause)) :
    ∃ (front : List Exchange) (question : Question) (answer other : question.Answer)
      (rest : List Decision) (next : NodeId),
      generator.transcript depth root = front ++ [⟨question, answer⟩] ∧
        generator.definition.Occurs 0 root
          ((front ++ [Exchange.mk question other]).map Exchange.decision ++ rest) next := by
  cases generator.generate_ending depth root with
  | grown exchanges node run comes transcript result =>
    rw [failure] at result
    cases result
  | deep exchanges name stack run comes limit transcript result =>
    rw [failure] at result
    cases result
  | halted exchanges refused stage run after _ comes halts transcript =>
    obtain ⟨question, answer, other, rest, next, rfl, continues⟩ := halts_continues _ _ stage run after
      refused _ halts (generator.comes_stands root exchanges stage run comes)
      (generator.comes_newest root exchanges stage run comes)
      (generator.comes_declared root exchanges stage run known comes)
    refine ⟨exchanges, question, answer, other, rest, next, transcript, ?_⟩
    rw [List.map_append, List.append_assoc]
    exact generator.comes_occurs root known exchanges stage run comes _ next continues

theorem cut_occurs (deep : (generator.generate depth root).1.result = .error .depthExceeded) :
    ∃ rest next,
      generator.definition.Occurs 0 root (generator.decisions depth root ++ rest) next := by
  cases generator.generate_ending depth root with
  | grown exchanges node run comes transcript result =>
    rw [deep] at result
    cases result
  | halted exchanges refused stage run after cause comes halts transcript result =>
    rw [deep] at result
    cases result
  | deep exchanges name stack run comes limit transcript =>
    obtain ⟨rest, next, continues⟩ := stage_continues generator.definition _
      (generator.comes_declared root exchanges _ run known comes) run.graph.size
    refine ⟨rest, next, ?_⟩
    rw [decisions, transcript]
    exact generator.comes_occurs root known exchanges _ run comes rest next continues

end Generator

theorem unknown_root_silent (generator : Generator σ) (depth : Nat) (root : String)
    (undeclared : generator.definition.contains root = false) :
    generator.transcript depth root = [] := by
  have unknown : generator.definition.statement? root = none := by
    rw [Definition.statement?, Option.map_eq_none_iff]
    exact Option.isNone_iff_eq_none.1 (Option.isSome_eq_false_iff.1 undeclared)
  cases generator.generate_ending depth root with
  | grown exchanges node run comes transcript =>
    rw [transcript]
    exact (generator.comes_unknown root exchanges _ run unknown comes).1
  | deep exchanges name stack run comes limit transcript =>
    rw [transcript]
    exact (generator.comes_unknown root exchanges _ run unknown comes).1
  | halted exchanges refused stage run after cause comes halts transcript =>
    obtain ⟨rfl, rfl⟩ := generator.comes_unknown root exchanges stage run unknown comes
    cases halts with
    | unknown => exact transcript

theorem questions_follow_protocol (generator : Generator σ) (depth : Nat) (root : String) :
    (generator.definition.contains root = false → generator.transcript depth root = []) ∧
    (generator.definition.contains root = true →
      (∀ graph, (generator.generate depth root).1.result = .ok graph →
        generator.definition.Occurs 0 root (generator.decisions depth root) graph.size) ∧
      (∀ cause, (generator.generate depth root).1.result = .error (.error cause) →
        ∃ (front : List Exchange) (question : Question) (answer other : question.Answer)
          (rest : List Decision) (next : NodeId),
          generator.transcript depth root = front ++ [⟨question, answer⟩] ∧
            generator.definition.Occurs 0 root
              ((front ++ [Exchange.mk question other]).map Exchange.decision ++ rest) next) ∧
      ((generator.generate depth root).1.result = .error .depthExceeded →
        ∃ rest next,
          generator.definition.Occurs 0 root (generator.decisions depth root ++ rest) next)) ∧
    (∀ front reference context completed answer back, generator.transcript depth root =
        front ++ ⟨.target reference context completed, answer⟩ :: back →
      context.graph.seedlings = ⟨root, none, none⟩ :: childrenOf front ∧
        context.graph.size = (childrenOf front).length + 1) ∧
    ∀ graph, (generator.generate depth root).1.result = .ok graph →
      graph.size = 1 + (childrenOf (generator.transcript depth root)).length ∧
        ∀ (k : Nat) child, (childrenOf (generator.transcript depth root))[k]? = some child →
          ∃ node, graph.node? (k + 1) = some node ∧ node.seedling = child := by
  refine ⟨unknown_root_silent generator depth root, ?_, ?_, ?_⟩
  · intro declared
    have known := (declares_iff generator.definition root).2 declared
    exact ⟨generator.success_occurs root known depth, generator.failure_occurs root known depth,
      generator.cut_occurs root known depth⟩
  · intro front reference context completed answer back split
    have seedlings := generator.target_tallied root depth front back reference context completed answer
      split
    refine ⟨seedlings, ?_⟩
    rw [← context.graph.length_seedlings, seedlings, List.length_cons]
  · intro graph success
    have seedlings := generator.success_tallied root depth graph success
    refine ⟨?_, ?_⟩
    · rw [← graph.length_seedlings, seedlings, List.length_cons, Nat.add_comm]
    · intro k child found
      apply graph.seedling_node
      rw [seedlings, List.getElem?_cons_succ]
      exact found

def boxWithItem : Graph := ⟨#[⟨"box", #[1], none, none⟩, ⟨"item", #[], some 0, none⟩]⟩

theorem box_follows_protocol :
    (boxGenerator.definition.contains "lid" = false ∧ boxGenerator.transcript 3 "lid" = []) ∧
    ((boxGenerator.generate 3 "box").1.result = .ok boxGraph ∧
      boxGenerator.definition.Occurs 0 "box" (boxGenerator.decisions 3 "box") 3 ∧
      3 = 1 + (childrenOf (boxGenerator.transcript 3 "box")).length) ∧
    ((misnamingGenerator.generate 3 "box").1.result =
        .error (.error (.targetNameMismatch 0 "box" "item")) ∧
      ∃ (front : List Exchange) (question : Question) (answer other : question.Answer)
        (rest : List Decision) (next : NodeId),
        misnamingGenerator.transcript 3 "box" = front ++ [⟨question, answer⟩] ∧
          boxGenerator.definition.Occurs 0 "box"
            ((front ++ [Exchange.mk question other]).map Exchange.decision ++ rest) next) ∧
    ((boxGenerator.generate 1 "box").1.result = .error .depthExceeded ∧
      ∃ rest next,
        boxGenerator.definition.Occurs 0 "box" (boxGenerator.decisions 1 "box" ++ rest) next) ∧
    boxGenerator.transcript 3 "box" = (boxGenerator.transcript 3 "box").take 5 ++
        [⟨.target ⟨"item", .anyNumber⟩ ⟨boxWithItem, 0⟩ (Completed.record ∅ "item" 1), some 1⟩] ∧
      boxWithItem.size = (childrenOf ((boxGenerator.transcript 3 "box").take 5)).length + 1 := by
  have declared : boxGenerator.definition.contains "box" = true := by decide
  have misnamed : (misnamingGenerator.generate 3 "box").1.result =
      .error (.error (.targetNameMismatch 0 "box" "item")) := by decide +kernel
  have cut : (boxGenerator.generate 1 "box").1.result = .error .depthExceeded := by decide +kernel
  have split : boxGenerator.transcript 3 "box" = (boxGenerator.transcript 3 "box").take 5 ++
      [⟨.target ⟨"item", .anyNumber⟩ ⟨boxWithItem, 0⟩ (Completed.record ∅ "item" 1), some 1⟩] := by decide +kernel
  obtain ⟨_, protocol, shown, counted⟩ := questions_follow_protocol boxGenerator 3 "box"
  refine ⟨⟨by decide, (questions_follow_protocol boxGenerator 3 "lid").1 (by decide)⟩,
    ⟨box_generated, (protocol declared).1 boxGraph box_generated, (counted boxGraph box_generated).1⟩,
    ⟨misnamed, ((questions_follow_protocol misnamingGenerator 3 "box").2.1 declared).2.1 _ misnamed⟩,
    ⟨cut, ((questions_follow_protocol boxGenerator 1 "box").2.1 declared).2.2 cut⟩, split, ?_⟩
  exact (shown _ _ _ _ _ [] split).2

end TreeGrammar
