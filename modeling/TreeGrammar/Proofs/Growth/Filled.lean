import TreeGrammar.Proofs.Graph.Extension
import TreeGrammar.Proofs.Growth.Leads
import TreeGrammar.Proofs.Sprout.Lawful
import TreeGrammar.Proofs.Sprout.Places
set_option autoImplicit false

namespace TreeGrammar

variable {σ : Type}

namespace Growth

structure Grew (definition : Definition) (strategy : Strategy σ) (parent : Option NodeId)
    (before after : Run σ) (sprout : Sprout) : Prop where
  conforms : sprout.Conforms definition
  graph : after.graph = before.graph.extend (sprout.nodes before.graph.size parent)
  leads : Run.Leads strategy before after (sprout.completions before.graph.size)
    (sprout.decisions before.graph.size) (sprout.records before.graph.size parent)
  sound : ∀ known, before.completed = Completed.recordAll ∅ known →
    sprout.Sound known before.graph.size

structure Filled (definition : Definition) (strategy : Strategy σ) (node : Nat)
    (before after : Run σ) (children : List Sprout) (decisions : List Decision)
    (records : List LogRecord) : Prop where
  conform : ∀ child ∈ children, child.Conforms definition
  graph : after.graph =
    (before.graph.attachAll node (Sprout.starts before.graph.size children)).extend
      (Sprout.nodesAll before.graph.size (some node) children)
  leads : Run.Leads strategy before after (Sprout.completionsAll before.graph.size children)
    decisions records
  sound : ∀ known, before.completed = Completed.recordAll ∅ known →
    Sprout.SoundAll known before.graph.size children

section

variable (definition : Definition) (strategy : Strategy σ)

def GrowsSprouts (grow : String → Option NodeId → Growth σ NodeId) : Prop :=
  ∀ name parent before after node, (parent = none → before.graph.size = 0) →
    grow name parent before = .ok node after →
      ∃ sprout : Sprout, sprout.name = name ∧ sprout.part.target? = none ∧
        node = before.graph.size ∧ Grew definition strategy parent before after sprout

theorem filled_nil (node : Nat) (run : Run σ) :
    Filled definition strategy node run run [] [] [] := by
  refine ⟨fun child member => ?_, (Graph.extend_nil _).symm, leads_refl strategy run run.graph,
    fun _ _ => trivial⟩
  cases member

theorem filled_size (node : Nat) (before after : Run σ) (children : List Sprout)
    (decisions : List Decision) (records : List LogRecord)
    (filled : Filled definition strategy node before after children decisions records) :
    after.graph.size = before.graph.size + Sprout.sizeAll children := by
  have ids := congrArg List.length
    (Sprout.place_ids_all before.graph.size (some node) children)
  rw [List.length_map, List.length_range'] at ids
  rw [filled.graph, Graph.size_extend, Graph.size_attach_all, Sprout.nodesAll, List.length_map, ids]

theorem filled_after (node : Nat) (before middle after : Run σ) (children : List Sprout)
    (first second : List Decision) (front back : List LogRecord)
    (kept : middle.graph = before.graph)
    (leads : Run.Leads strategy before middle [] first front)
    (filled : Filled definition strategy node middle after children second back) :
    Filled definition strategy node before after children (first ++ second) (front ++ back) := by
  obtain ⟨conform, graph, onward, sound⟩ := filled
  rw [kept] at graph onward sound
  exact ⟨conform, graph, leads_trans strategy _ _ _ _ _ _ _ _ _ leads onward,
    fun known recorded => sound known (leads.completed.trans recorded)⟩

theorem filled_append (node : Nat) (before middle after : Run σ) (earlier later : List Sprout)
    (first second : List Decision) (front back : List LogRecord)
    (present : node < before.graph.size)
    (start : Filled definition strategy node before middle earlier first front)
    (rest : Filled definition strategy node middle after later second back) :
    Filled definition strategy node before after (earlier ++ later) (first ++ second)
      (front ++ back) := by
  have grown := filled_size definition strategy node before middle earlier first front start
  have leads := leads_trans strategy _ _ _ _ _ _ _ _ _ start.leads rest.leads
  have still : node < (before.graph.attachAll node
      (Sprout.starts before.graph.size earlier)).size := by
    simpa using present
  refine ⟨?_, ?_, ?_, ?_⟩
  · intro child member
    rcases List.mem_append.1 member with left | right
    · exact start.conform child left
    · exact rest.conform child right
  · rw [rest.graph, grown, start.graph, Graph.attach_all_extend _ _ _ _ still,
      Graph.extend_extend, Sprout.starts_append, Graph.attach_all_append, Sprout.nodesAll,
      Sprout.nodesAll, Sprout.nodesAll, Sprout.places_all_append, List.map_append]
  · rw [Sprout.completions_all_append, ← grown]
    exact leads
  · intro known recorded
    refine Sprout.sound_all_append known _ _ _ (start.sound known recorded) ?_
    rw [← grown]
    apply rest.sound
    rw [start.leads.completed, recorded, Completed.record_all_append]

theorem grew_fills (node : Nat) (before grown : Run σ) (sprout : Sprout)
    (present : node < before.graph.size)
    (grew : Grew definition strategy (some node) before grown sprout) :
    Filled definition strategy node before
      { grown with graph := grown.graph.attach node before.graph.size } [sprout]
      (sprout.decisions before.graph.size) (sprout.records before.graph.size (some node)) := by
  obtain ⟨conforms, graph, ⟨completed, log, plays⟩, sound⟩ := grew
  refine ⟨?_, ?_, ⟨?_, log, plays⟩, fun known recorded => ⟨sound known recorded, trivial⟩⟩
  · intro child member
    rw [List.mem_singleton.1 member]
    exact conforms
  -- The child stands behind the whole graph, so attaching it afterwards is attaching it before.
  · simp only [graph]
    rw [Graph.attach_extend _ _ _ _ present, Sprout.nodesAll, Sprout.placesAll, Sprout.placesAll,
      List.append_nil]
    rfl
  · rw [Sprout.completionsAll, Sprout.completionsAll, List.append_nil]
    exact completed

theorem proxy_fills (reference : Reference) (node target : Nat) (before : Run σ)
    (present : node < before.graph.size)
    (known : target ∈ before.completed.named reference.name) :
    Filled definition strategy node before
      { before with
        log := before.log.push (.reusing target node)
        graph := (before.graph.add reference.name (some node) (some target)).attach node
          before.graph.size }
      [.grown (.proxy reference.name target) []] [] [.reusing target node] := by
  refine ⟨?_, ?_, ⟨rfl, Array.toList_push, [], .nil _, rfl⟩, ?_⟩
  · intro child member
    rw [List.mem_singleton.1 member]
    exact .grown _ _ rfl fun _ none => by cases none
  · simp only
    rw [Graph.add_eq_extend, Graph.attach_extend _ _ _ _ present]
    rfl
  · intro history recorded
    refine ⟨⟨?_, trivial⟩, trivial⟩
    intro same chosen
    cases chosen
    rw [recorded] at known
    exact (Completed.mem_named_record_all history reference.name target).1 known

variable (grow : String → Option NodeId → Growth σ NodeId)
  (grows : GrowsSprouts definition strategy grow)
include grows

theorem add_child_fills (reference : Reference) (node : Nat) (before after : Run σ) (done : Unit)
    (present : node < before.graph.size)
    (success : addChild strategy grow reference node before = .ok done after) :
    ∃ child : Sprout, child.name = reference.name ∧
      Filled definition strategy node before after [child]
        ((Sprout.choices node before.graph.size [child]).flatMap fun saying => saying reference)
        ((Sprout.reports node before.graph.size [child]).flatMap fun saying => saying reference) := by
  unfold addChild at success
  rw [bind_ok] at success
  obtain ⟨context, middle, looked, success⟩ := success
  cases looked
  rw [bind_ok] at success
  obtain ⟨run, middle, looked, success⟩ := success
  cases looked
  rw [bind_ok] at success
  obtain ⟨answer, asked, questioned, success⟩ := success
  obtain ⟨kept, leads⟩ := ask_leads strategy _ _ _ _ questioned
  have presentAsked : node < asked.graph.size := by rw [kept]; exact present
  cases answer with
  | none =>
    rw [bind_ok] at success
    obtain ⟨child, grown, expanded, success⟩ := success
    cases success
    obtain ⟨sprout, named, fresh, rfl, grew⟩ :=
      grows reference.name (some node) asked grown child (fun none => by cases none) expanded
    have whole := filled_after definition strategy node before asked _ _ _ _ _ _ kept leads
      (grew_fills definition strategy node asked grown sprout presentAsked grew)
    refine ⟨sprout, named, ?_⟩
    simpa only [Sprout.choices, Sprout.reports, List.flatMap_cons, List.flatMap_nil,
      List.append_nil, List.nil_append, List.cons_append, fresh, kept, Exchange.decision] using whole
  | some target =>
    rw [bind_ok] at success
    obtain ⟨checked, accepted, check, success⟩ := success
    obtain ⟨rfl, known⟩ := check_target_ok reference target _ _ _ check
    rw [bind_ok] at success
    obtain ⟨noted, written, note, success⟩ := success
    have logged := note_ok _ _ _ _ note
    rw [bind_ok] at success
    obtain ⟨child, added, addition, success⟩ := success
    cases success
    cases addition
    subst logged
    have whole := filled_after definition strategy node before asked _ _ _ _ _ _ kept leads
      (proxy_fills definition strategy reference node target asked presentAsked known)
    rw [kept] at whole
    refine ⟨.grown (.proxy reference.name target) [], rfl, ?_⟩
    simp only [kept]
    exact whole

theorem add_children_fill (reference : Reference) (node count : Nat) (before after : Run σ)
    (done : Unit) (present : node < before.graph.size)
    (success : addChildren strategy grow reference node count before = .ok done after) :
    ∃ children : List Sprout, children.map Sprout.name = List.replicate count reference.name ∧
      Filled definition strategy node before after children
        ((Sprout.choices node before.graph.size children).flatMap fun saying => saying reference)
        ((Sprout.reports node before.graph.size children).flatMap fun saying => saying reference) := by
  induction count generalizing before with
  | zero =>
    cases success
    exact ⟨[], rfl, filled_nil definition strategy node _⟩
  | succ count ih =>
    rw [addChildren, bind_ok] at success
    obtain ⟨done, middle, added, success⟩ := success
    obtain ⟨child, named, filled⟩ :=
      add_child_fills definition strategy grow grows reference node before middle done present added
    have grown := filled_size definition strategy node before middle _ _ _ filled
    obtain ⟨rest, names, filledRest⟩ := ih middle (by omega) success
    refine ⟨child :: rest, ?_, ?_⟩
    · rw [List.map_cons, named, names, List.replicate_succ]
    · have whole := filled_append definition strategy node before middle after [child] rest _ _ _ _
        present filled filledRest
      rw [grown, ← List.flatMap_append, ← List.flatMap_append, ← Sprout.choices_append,
        ← Sprout.reports_append] at whole
      exact whole

theorem fill_slots_fill (node : Nat) (alternative : Alternative) (before after : Run σ)
    (done : Unit) (present : node < before.graph.size)
    (success : fillSlots strategy grow node alternative before = .ok done after) :
    ∃ (slots : List Slot) (children : List Sprout), slots.map Slot.reference = alternative ∧
      (∀ slot ∈ slots, slot.reference.multiplicity.admits slot.size) ∧
      (children.map Sprout.name =
        slots.flatMap fun slot => List.replicate slot.size slot.reference.name) ∧
      Filled definition strategy node before after children
        (weave (Slot.decisions node) slots (Sprout.choices node before.graph.size children))
        (weave (Slot.records node) slots (Sprout.reports node before.graph.size children)) := by
  induction alternative generalizing before with
  | nil =>
    cases success
    refine ⟨[], [], rfl, fun slot member => ?_, rfl, filled_nil definition strategy node _⟩
    cases member
  | cons reference rest ih =>
    rw [fillSlots, bind_ok] at success
    obtain ⟨size, sized, picked, success⟩ := success
    obtain ⟨kept, admitted, leads⟩ := pick_size_leads strategy reference node before sized size picked
    rw [bind_ok] at success
    obtain ⟨done, middle, added, success⟩ := success
    have presentSized : node < sized.graph.size := by rw [kept]; exact present
    obtain ⟨block, names, filled⟩ :=
      add_children_fill definition strategy grow grows reference node size sized middle done presentSized added
    have grown := filled_size definition strategy node sized middle _ _ _ filled
    obtain ⟨slots, children, references, admits, allNames, filledRest⟩ := ih middle (by omega) success
    have length : block.length = size := by
      simpa using congrArg List.length names
    refine ⟨⟨reference, size⟩ :: slots, block ++ children, ?_, ?_, ?_, ?_⟩
    · rw [List.map_cons, references]
    · intro slot member
      rcases List.mem_cons.1 member with rfl | later
      · exact admitted
      · exact admits slot later
    · rw [List.map_append, names, allNames, List.flatMap_cons]
    · have whole := filled_after definition strategy node before sized after _ _ _ _ _ kept leads
        (filled_append definition strategy node sized middle after block children _ _ _ _
          presentSized filled filledRest)
      rw [grown, kept] at whole
      rw [Sprout.choices_append, Sprout.reports_append,
        weave_slot _ _ _ _ _ (by rw [Sprout.length_choices]; exact length),
        weave_slot _ _ _ _ _ (by rw [Sprout.length_reports]; exact length), List.append_assoc,
        List.append_assoc]
      exact whole

end

theorem grown_node (graph : Graph) (parent : Option NodeId) (part : Part) (children : List Sprout)
    (fresh : part.target? = none) :
    ((graph.add part.name parent none).attachAll graph.size
        (Sprout.starts (graph.size + 1) children)).extend
      (Sprout.nodesAll (graph.size + 1) (some graph.size) children) =
      graph.extend ((Sprout.grown part children).nodes graph.size parent) := by
  rw [Graph.add_eq_extend, Graph.attach_all_newest, Graph.extend_extend, Sprout.nodes,
    Sprout.places, List.map_cons, Place.node]
  simp only [Sprout.name, Sprout.part, Sprout.children, fresh, Array.empty_append,
    List.singleton_append, Sprout.nodesAll]

section

variable (definition : Definition) (strategy : Strategy σ) (statement : Statement)
  (parent : Option NodeId)

theorem grew_bare (before decided : Run σ)
    (stated : definition.statement? statement.name = some statement)
    (kept : decided.graph = before.graph)
    (leads : Run.Leads strategy before decided []
      ((Part.bare statement).opening before.graph.size) [.visiting statement.name parent]) :
    Grew definition strategy parent before
      { decided with graph := decided.graph.add statement.name parent none }
      (.grown (.bare statement) []) := by
  refine ⟨?_, ?_, ⟨leads.completed, leads.log, ?_⟩, ?_⟩
  · exact .grown _ _ ⟨stated, rfl⟩ fun _ none => by cases none
  · simp only [kept]
    rw [Graph.add_eq_extend]
    rfl
  · simpa only [Sprout.decisions, Part.slots, weave, List.append_nil] using leads.plays
  · intro known recorded
    refine ⟨fun target none => ?_, trivial⟩
    cases none

theorem grew_full (index : Nat) (slots : List Slot) (children : List Sprout)
    (before picked filled : Run σ)
    (graph : picked.graph = before.graph.add statement.name parent none)
    (leads : Run.Leads strategy before picked []
      ((Part.full statement index slots).opening before.graph.size)
      [.visiting statement.name parent])
    (fits : (Part.full statement index slots).Fits definition children)
    (fills : Filled definition strategy before.graph.size picked filled children
      (weave (Slot.decisions before.graph.size) slots
        (Sprout.choices before.graph.size (before.graph.size + 1) children))
      (weave (Slot.records before.graph.size) slots
        (Sprout.reports before.graph.size (before.graph.size + 1) children))) :
    Grew definition strategy parent before
      { filled with completed := filled.completed.record statement.name before.graph.size }
      (.grown (.full statement index slots) children) := by
  have grown : picked.graph.size = before.graph.size + 1 := by
    rw [graph, Graph.add_eq_extend, Graph.size_extend, List.length_singleton]
  refine ⟨.grown _ _ fits fills.conform, ?_, ?_, ?_⟩
  · have placed := fills.graph
    rw [grown, graph] at placed
    exact placed.trans (grown_node before.graph parent (.full statement index slots) children rfl)
  · have whole := leads_trans strategy _ _ _ _ _ _ _ _ _
      (leads_trans strategy _ _ _ _ _ _ _ _ _ leads fills.leads)
      (complete_leads strategy statement.name before.graph.size filled)
    rw [grown, List.append_nil, List.append_nil] at whole
    exact whole
  · intro known recorded
    have sound := fills.sound known (leads.completed.trans recorded)
    rw [grown] at sound
    refine ⟨fun target none => ?_, sound⟩
    cases none

end

theorem expand_grows (definition : Definition) (strategy : Strategy σ) (depth : Nat) :
    GrowsSprouts definition strategy (expand definition strategy depth) := by
  induction depth with
  | zero =>
    intro name parent before after node rooted success
    cases success
  | succ depth ih =>
    intro name parent before after node rooted success
    rw [expand, bind_ok] at success
    obtain ⟨done, noted, note, success⟩ := success
    have written := note_ok _ _ _ _ note
    have noteLeads := note_leads strategy (.visiting name parent) before
    rw [← written] at noteLeads
    have keptNote : noted.graph = before.graph := by rw [written]
    cases stated : definition.statement? name with
    | none =>
      rw [stated] at success
      cases success
    | some statement =>
      rw [stated] at success
      have sameName : statement.name = name := by
        obtain ⟨alternatives, _, rfl⟩ := Option.map_eq_some_iff.1 stated
        rfl
      subst sameName
      simp only [bind_ok] at success
      obtain ⟨leaf, decided, deciding, created, added, addition, success⟩ := success
      obtain ⟨kept, childless, leafLeads⟩ := decide_leaf_leads strategy statement parent noted
        decided leaf (by rw [keptNote]; exact rooted) deciding
      cases addition
      rw [keptNote] at kept leafLeads
      have startLeads := leads_trans strategy _ _ _ _ _ _ _ _ _ noteLeads leafLeads
      cases leaf with
      | true =>
        rw [if_pos rfl] at success
        obtain ⟨rfl, rfl⟩ := pure_ok _ _ _ _ success
        exact ⟨.grown (.bare statement) [], rfl, rfl, by rw [kept],
          grew_bare definition strategy statement parent before decided stated kept startLeads⟩
      | false =>
        have branching : ¬ statement.isLeaf := by
          intro isLeaf
          exact Bool.false_ne_true (childless isLeaf)
        rw [if_neg Bool.false_ne_true, bind_ok] at success
        obtain ⟨alternative, picked, picking, success⟩ := success
        have newest : (decided.graph.add statement.name parent none).size = before.graph.size + 1 := by
          rw [Graph.add_eq_extend, Graph.size_extend, kept, List.length_singleton]
        obtain ⟨keptPick, index, chosen, pickLeads⟩ := pick_alternative_leads strategy statement parent
          before.graph.size _ picked alternative newest rooted picking
        rw [bind_ok] at success
        obtain ⟨filledDone, filled, filling, success⟩ := success
        have grown : picked.graph.size = before.graph.size + 1 := by rw [keptPick]; exact newest
        obtain ⟨slots, children, references, admits, names, fills⟩ := fill_slots_fill definition
          strategy _ ih decided.graph.size alternative picked filled filledDone
          (by rw [kept, grown]; exact Nat.lt_succ_self _) filling
        cases success
        rw [kept, grown] at fills
        simp only [kept] at keptPick
        have openingLeads := leads_trans strategy before decided picked _ _ _ _ _ _ startLeads
          ⟨pickLeads.completed, pickLeads.log, pickLeads.plays⟩
        rw [if_neg branching] at openingLeads
        rw [kept]
        exact ⟨.grown (.full statement index slots) children, rfl, rfl, rfl,
          grew_full definition strategy statement parent index slots children before picked
            filled keptPick openingLeads ⟨stated, by rw [references, chosen], admits, names⟩ fills⟩

end Growth

end TreeGrammar
