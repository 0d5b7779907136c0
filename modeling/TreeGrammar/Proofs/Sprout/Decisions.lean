import TreeGrammar.Proofs.Sprout.Lawful
import TreeGrammar.Proofs.Sprout.Places
set_option autoImplicit false

namespace TreeGrammar

section

variable {α β : Type}

theorem mem_weave (mark : Slot → List α) (slots : List Slot) (sayings : List (Reference → List α))
    (said : α) (member : said ∈ weave mark slots sayings) :
    (∃ slot ∈ slots, said ∈ mark slot) ∨ ∃ saying ∈ sayings, ∃ reference, said ∈ saying reference := by
  induction slots generalizing sayings with
  | nil => cases member
  | cons slot rest ih =>
    simp only [weave, List.mem_append, List.mem_flatMap] at member
    rcases member with (marked | ⟨saying, taken, within⟩) | later
    · exact .inl ⟨slot, .head _, marked⟩
    · exact .inr ⟨saying, List.mem_of_mem_take taken, slot.reference, within⟩
    · rcases ih _ later with ⟨other, listed, marked⟩ | ⟨saying, dropped, within⟩
      · exact .inl ⟨other, .tail _ listed, marked⟩
      · exact .inr ⟨saying, List.mem_of_mem_drop dropped, within⟩

theorem filter_map_weave (f : α → Option β) (mark : Slot → List α) (slots : List Slot)
    (sayings : List (Reference → List α)) :
    (weave mark slots sayings).filterMap f =
      weave (fun slot => (mark slot).filterMap f) slots
        (sayings.map fun saying reference => (saying reference).filterMap f) := by
  induction slots generalizing sayings with
  | nil => rfl
  | cons slot rest ih =>
    simp only [weave, List.filterMap_append, ih, List.filterMap_flatMap, List.map_drop]
    rw [← List.map_take, List.flatMap_map]

def childCount : List Slot → Nat
  | [] => 0
  | slot :: rest => slot.size + childCount rest

theorem weave_lists (slots : List Slot) (lists : List (List α))
    (enough : lists.length = childCount slots) :
    weave (fun _ => []) slots (lists.map fun list _ => list) = lists.flatten := by
  induction slots generalizing lists with
  | nil =>
    rw [List.eq_nil_of_length_eq_zero enough]
    rfl
  | cons slot rest ih =>
    rw [childCount] at enough
    have remaining := ih (lists.drop slot.size) (by rw [List.length_drop]; omega)
    rw [weave, ← List.map_take, ← List.map_drop, remaining, List.flatMap_map, List.nil_append]
    change (lists.take slot.size).flatMap id ++ _ = _
    rw [List.flatMap_id, ← List.flatten_append, List.take_append_drop]

theorem weave_marks (mark : Slot → List α) (slots : List Slot)
    (sayings : List (Reference → List α))
    (silent : ∀ saying ∈ sayings, ∀ reference, saying reference = []) :
    weave mark slots sayings = slots.flatMap mark := by
  induction slots generalizing sayings with
  | nil => rfl
  | cons slot rest ih =>
    have nothing : (sayings.take slot.size).flatMap (fun saying => saying slot.reference) = [] := by
      apply List.flatMap_eq_nil_iff.2
      intro saying taken
      exact silent saying (List.mem_of_mem_take taken) slot.reference
    have remaining := ih (sayings.drop slot.size) fun saying dropped =>
      silent saying (List.mem_of_mem_drop dropped)
    rw [weave, nothing, remaining, List.append_nil, List.flatMap_cons]

end

namespace Sprout

def targets (node id : Nat) : List Sprout → List (Reference → List Decision)
  | [] => []
  | first :: rest =>
    (fun reference => [.target node reference id first.part.target?]) ::
      targets node (id + first.size) rest

def decisionsAll (id : Nat) : List Sprout → List (List Decision)
  | [] => []
  | first :: rest => first.decisions id :: decisionsAll (id + first.size) rest

def own (id : Nat) (sprout : Sprout) : List Decision :=
  sprout.part.opening id ++
    weave (Slot.decisions id) sprout.part.slots (targets id (id + 1) sprout.children)

theorem length_decisions_all (id : Nat) (sprouts : List Sprout) :
    (decisionsAll id sprouts).length = sprouts.length := by
  induction sprouts generalizing id with
  | nil => rfl
  | cons first rest ih => simp only [decisionsAll, List.length_cons, ih]

theorem opening_about (part : Part) (id : NodeId) (decision : Decision)
    (member : decision ∈ part.opening id) : decision.node = id := by
  cases part with
  | proxy name target => cases member
  | bare statement =>
    rw [Part.opening] at member
    split at member
    · cases member
    · rw [List.mem_singleton.1 member]
      rfl
  | full statement index slots =>
    rw [Part.opening] at member
    rcases List.mem_cons.1 member with rfl | asked
    · rfl
    · split at asked
      · cases asked
      · rw [List.mem_singleton.1 asked]
        rfl

theorem slot_about (slot : Slot) (id : NodeId) (decision : Decision)
    (member : decision ∈ slot.decisions id) : decision.node = id := by
  rw [Slot.decisions] at member
  split at member
  · cases member
  · rw [List.mem_singleton.1 member]
    rfl

mutual

theorem decision_range (id : Nat) (sprout : Sprout) (decision : Decision)
    (member : decision ∈ sprout.decisions id) :
    id ≤ decision.node ∧ decision.node < id + sprout.size := by
  cases sprout with
  | grown part children =>
    rw [size_grown]
    rcases List.mem_append.1 member with opening | woven
    · rw [opening_about part id decision opening]
      omega
    · rcases mem_weave _ _ _ _ woven with ⟨slot, _, marked⟩ | ⟨choice, listed, reference, within⟩
      · rw [slot_about slot id decision marked]
        omega
      · rcases choice_range id (id + 1) children choice listed reference decision within with
          here | ⟨above, below⟩
        · rw [here]
          omega
        · omega

theorem choice_range (node id : Nat) (sprouts : List Sprout) (choice : Reference → List Decision)
    (listed : choice ∈ choices node id sprouts) (reference : Reference) (decision : Decision)
    (member : decision ∈ choice reference) :
    decision.node = node ∨ (id ≤ decision.node ∧ decision.node < id + sizeAll sprouts) := by
  cases sprouts with
  | nil => cases listed
  | cons first rest =>
    rw [sizeAll]
    rcases List.mem_cons.1 listed with rfl | later
    · rcases List.mem_cons.1 member with rfl | below
      · exact .inl rfl
      · have range := decision_range id first decision below
        omega
    · have range := choice_range node (id + first.size) rest choice later reference decision member
      omega

end

theorem length_slots (slots : List Slot) :
    (slots.flatMap fun slot => List.replicate slot.size slot.reference.name).length =
      childCount slots := by
  induction slots with
  | nil => rfl
  | cons slot rest ih =>
    rw [List.flatMap_cons, List.length_append, List.length_replicate, ih, childCount]

theorem fits_enough (definition : Definition) (part : Part) (children : List Sprout)
    (fits : part.Fits definition children) : children.length = childCount part.slots := by
  cases part with
  | proxy name target => exact congrArg List.length fits
  | bare statement => exact congrArg List.length fits.2
  | full statement index slots =>
    have lengths := congrArg List.length fits.2.2.2
    rw [List.length_map, length_slots] at lengths
    exact lengths

section

variable {β : Type} (f : Decision → Option β) (node : Nat)

variable (about : ∀ decision : Decision, decision.node ≠ node → f decision = none)

include about

theorem decisions_outside (id : Nat) (sprout : Sprout)
    (outside : node < id ∨ id + sprout.size ≤ node) : (sprout.decisions id).filterMap f = [] := by
  apply List.filterMap_eq_nil_iff.2
  intro decision member
  have range := decision_range id sprout decision member
  exact about decision (by omega)

theorem decisions_all_outside (id : Nat) (sprouts : List Sprout)
    (outside : node < id ∨ id + sizeAll sprouts ≤ node) :
    (decisionsAll id sprouts).flatMap (List.filterMap f) = [] := by
  induction sprouts generalizing id with
  | nil => rfl
  | cons first rest ih =>
    rw [sizeAll] at outside
    have left := decisions_outside f node about id first (by omega)
    have right := ih (id + first.size) (by omega)
    rw [decisionsAll, List.flatMap_cons, left, right]
    rfl

theorem choices_inner (outer id : Nat) (sprouts : List Sprout) (inner : outer ≠ node) :
    (choices outer id sprouts).map (fun choice reference => (choice reference).filterMap f) =
      ((decisionsAll id sprouts).map (List.filterMap f)).map fun list _ => list := by
  induction sprouts generalizing id with
  | nil => rfl
  | cons first rest ih =>
    simp only [choices, decisionsAll, List.map_cons, ih]
    congr 1
    funext reference
    exact List.filterMap_cons_none (about _ inner)

theorem choices_own (id : Nat) (sprouts : List Sprout) (above : node < id) :
    (choices node id sprouts).map (fun choice reference => (choice reference).filterMap f) =
      (targets node id sprouts).map fun target reference => (target reference).filterMap f := by
  induction sprouts generalizing id with
  | nil => rfl
  | cons first rest ih =>
    have below := decisions_outside f node about id first (.inl above)
    have later := ih (id + first.size) (by omega)
    simp only [choices, targets, List.map_cons, later]
    congr 1
    funext reference
    change (([_] : List Decision) ++ first.decisions id).filterMap f = _
    rw [List.filterMap_append, below, List.append_nil]

theorem decisions_own (sprout : Sprout) :
    (sprout.decisions node).filterMap f = (own node sprout).filterMap f := by
  cases sprout with
  | grown part children =>
    have targets := choices_own f node about (node + 1) children (Nat.lt_succ_self node)
    rw [decisions, own, List.filterMap_append, List.filterMap_append, filter_map_weave,
      filter_map_weave, targets]
    rfl

theorem decisions_inner (definition : Definition) (id : Nat) (part : Part) (children : List Sprout)
    (fits : part.Fits definition children) (inner : id ≠ node) :
    ((grown part children).decisions id).filterMap f =
      (decisionsAll (id + 1) children).flatMap (List.filterMap f) := by
  have opening : (part.opening id).filterMap f = [] := by
    apply List.filterMap_eq_nil_iff.2
    intro decision member
    apply about decision
    rw [opening_about part id decision member]
    exact inner
  have marks : (fun slot : Slot => (slot.decisions id).filterMap f) = fun _ => [] := by
    funext slot
    apply List.filterMap_eq_nil_iff.2
    intro decision member
    apply about decision
    rw [slot_about slot id decision member]
    exact inner
  have enough : ((decisionsAll (id + 1) children).map (List.filterMap f)).length =
      childCount part.slots := by
    rw [List.length_map, length_decisions_all]
    exact fits_enough definition part children fits
  rw [decisions, List.filterMap_append, opening, filter_map_weave, marks,
    choices_inner f node about id (id + 1) children inner, weave_lists _ _ enough,
    List.flatMap_def]
  rfl

mutual

theorem decisions_at (definition : Definition) (id : Nat) (parent : Option NodeId) (sprout : Sprout)
    (place : Place) (conforms : sprout.Conforms definition)
    (member : place ∈ sprout.places id parent) (here : place.id = node) :
    (sprout.decisions id).filterMap f = (own node place.sprout).filterMap f := by
  cases sprout with
  | grown part children =>
    cases conforms with
    | grown _ _ fits below =>
      rcases List.mem_cons.1 member with rfl | deeper
      · subst here
        exact decisions_own f _ about _
      · have range := place_range_all (id + 1) (some id) children place deeper
        rw [decisions_inner f node about definition id part children fits (by omega)]
        exact decisions_all_at definition (id + 1) (some id) children place below deeper here

theorem decisions_all_at (definition : Definition) (id : Nat) (parent : Option NodeId)
    (sprouts : List Sprout) (place : Place) (conform : ∀ sprout ∈ sprouts, sprout.Conforms definition)
    (member : place ∈ placesAll id parent sprouts) (here : place.id = node) :
    (decisionsAll id sprouts).flatMap (List.filterMap f) = (own node place.sprout).filterMap f := by
  cases sprouts with
  | nil => cases member
  | cons first rest =>
    rw [decisionsAll, List.flatMap_cons]
    rcases List.mem_append.1 member with left | right
    · have range := place_range id parent first place left
      rw [decisions_at definition id parent first place (conform first (.head _)) left here,
        decisions_all_outside f node about (id + first.size) rest (by omega), List.append_nil]
    · have range := place_range_all (id + first.size) parent rest place right
      rw [decisions_outside f node about id first (by omega), List.nil_append]
      exact decisions_all_at definition (id + first.size) parent rest place
        (fun sprout listed => conform sprout (.tail _ listed)) right here

end

end

theorem targets_silent {β : Type} (f : Decision → Option β) (node id : Nat) (sprouts : List Sprout)
    (silent : ∀ reference child target, f (.target node reference child target) = none)
    (target : Reference → List Decision) (listed : target ∈ targets node id sprouts)
    (reference : Reference) : (target reference).filterMap f = [] := by
  induction sprouts generalizing id with
  | nil => cases listed
  | cons first rest ih =>
    rcases List.mem_cons.1 listed with rfl | later
    · exact List.filterMap_cons_none (silent reference id _)
    · exact ih (id + first.size) later

theorem answers_own {β : Type} (f : Decision → Option β) (node : Nat) (sprout : Sprout)
    (silent : ∀ reference child target, f (.target node reference child target) = none) :
    (own node sprout).filterMap f = (sprout.part.opening node).filterMap f ++
      sprout.part.slots.flatMap fun slot => (slot.decisions node).filterMap f := by
  rw [own, List.filterMap_append, filter_map_weave, weave_marks]
  intro saying listed reference
  obtain ⟨target, among, rfl⟩ := List.mem_map.1 listed
  exact targets_silent f node (node + 1) sprout.children silent target among reference

end Sprout

namespace Part

def leafs : Part → List Bool
  | proxy _ _ => []
  | bare statement => if statement.isLeaf then [] else [true]
  | full _ _ _ => [false]

def picks : Part → List Nat
  | full statement index _ => if statement.alternatives.length = 1 then [] else [index]
  | _ => []

def sizes (part : Part) : List (Reference × Nat) :=
  part.slots.flatMap fun slot =>
    if slot.reference.multiplicity = .exactlyOne then [] else [(slot.reference, slot.size)]

end Part

section

variable (definition : Definition) (id : Nat) (parent : Option NodeId) (sprout : Sprout)
  (place : Place) (conforms : sprout.Conforms definition) (member : place ∈ sprout.places id parent)

include conforms member

theorem leaf_answers_at :
    leafAnswers (sprout.decisions id) place.id = place.sprout.part.leafs := by
  have unmarked : place.sprout.part.slots.flatMap (fun slot =>
      (slot.decisions place.id).filterMap (Decision.leafAnswer? place.id)) = [] := by
    apply List.flatMap_eq_nil_iff.2
    intro slot _
    rw [Slot.decisions]
    split <;> rfl
  rw [leafAnswers, Sprout.decisions_at _ _ (Decision.leaf_answer_elsewhere place.id) definition id
    parent sprout place conforms member rfl, Sprout.answers_own _ _ _ fun _ _ _ => rfl, unmarked,
    List.append_nil]
  cases place.sprout.part with
  | proxy name target => rfl
  | bare statement =>
    by_cases childless : statement.isLeaf
    · simp [Part.opening, Part.leafs, childless]
    · simp [Part.opening, Part.leafs, Decision.leafAnswer?, childless]
  | full statement index slots =>
    by_cases single : statement.alternatives.length = 1
    · simp [Part.opening, Part.leafs, Decision.leafAnswer?, single]
    · simp [Part.opening, Part.leafs, Decision.leafAnswer?, single]

theorem alternative_answers_at :
    alternativeAnswers (sprout.decisions id) place.id = place.sprout.part.picks := by
  have unmarked : place.sprout.part.slots.flatMap (fun slot =>
      (slot.decisions place.id).filterMap (Decision.alternativeAnswer? place.id)) = [] := by
    apply List.flatMap_eq_nil_iff.2
    intro slot _
    rw [Slot.decisions]
    split <;> rfl
  rw [alternativeAnswers, Sprout.decisions_at _ _ (Decision.alternative_answer_elsewhere place.id)
    definition id parent sprout place conforms member rfl, Sprout.answers_own _ _ _ fun _ _ _ => rfl,
    unmarked, List.append_nil]
  cases place.sprout.part with
  | proxy name target => rfl
  | bare statement =>
    rw [Part.opening]
    split <;> rfl
  | full statement index slots =>
    by_cases single : statement.alternatives.length = 1
    · rw [Part.opening, Part.picks, if_pos single, if_pos single]
      rfl
    · rw [Part.opening, Part.picks, if_neg single, if_neg single, List.filterMap_cons_none rfl]
      exact List.filterMap_cons_some (if_pos rfl)

theorem size_answers_at :
    sizeAnswers (sprout.decisions id) place.id = place.sprout.part.sizes := by
  have unasked : (place.sprout.part.opening place.id).filterMap (Decision.sizeAnswer? place.id) = [] := by
    cases place.sprout.part with
    | proxy name target => rfl
    | bare statement =>
      rw [Part.opening]
      split <;> rfl
    | full statement index slots =>
      rw [Part.opening]
      split <;> rfl
  rw [sizeAnswers, Sprout.decisions_at _ _ (Decision.size_answer_elsewhere place.id) definition id
    parent sprout place conforms member rfl, Sprout.answers_own _ _ _ fun _ _ _ => rfl, unasked,
    Part.sizes, List.nil_append]
  congr 1
  funext slot
  by_cases single : slot.reference.multiplicity = .exactlyOne
  · simp [Slot.decisions, single]
  · simp [Slot.decisions, Decision.sizeAnswer?, single]

end

end TreeGrammar
