import TreeGrammar.Proofs.Format.Rendering
set_option autoImplicit false

namespace TreeGrammar

-- A list of children is taken from the left, so what is left of it is a suffix of the whole.
theorem Sprout.suffix_below (sprout : Sprout) (place : Place) (member : place ∈ sprout.places 0 none)
    (start : Nat) (child : Sprout) (after : List Sprout)
    (lists : siblings start (some place.id) (child :: after) <:+
      siblings (place.id + 1) (some place.id) place.sprout.children) :
    (⟨start, some place.id, child⟩ : Place) ∈ sprout.places 0 none :=
  (sibling_below 0 none sprout place _ member (lists.subset (.head _))).1

namespace Graph

def isLast (graph : Graph) (parent child : NodeId) : Bool :=
  (graph.children parent).back? = some child

-- The root itself has no part in a margin.
def margin (graph : Graph) : List NodeId → String
  | child :: parent :: above =>
    graph.margin (parent :: above) ++ if graph.isLast parent child then "   " else "│  "
  | _ => ""

def label (graph : Graph) (id : NodeId) : String :=
  match graph.target? id with
  | some target => graph.name id ++ " -> " ++ target.text
  | none => graph.name id ++ " " ++ id.text

def line (graph : Graph) (id : NodeId) : String :=
  match graph.ancestors id with
  | [] => graph.label id
  | parent :: above =>
    graph.margin (parent :: above) ++ (if graph.isLast parent id then "└─" else "├─") ++ " " ++
      graph.label id

def Lineage (graph : Graph) (line : List NodeId) : Prop :=
  line.getLast? = some 0 ∧ line.IsChain fun child parent => child ∈ graph.children parent

section

variable (graph : Graph) (sprout : Sprout) (planted : graph.Planted sprout)

include planted

theorem planted_label (place : Place) (member : place ∈ sprout.places 0 none) :
    (place.sprout.outline place.id).label = graph.label place.id := by
  have name : graph.name place.id = place.sprout.name := by
    rw [Graph.name, node_of_place graph sprout planted place member]
    rfl
  rw [label, planted_target graph sprout planted place member, name]
  obtain ⟨id, parent, part, children⟩ := place
  cases part <;> rfl

section

variable (place : Place) (member : place ∈ sprout.places 0 none) (start : Nat) (child : Sprout)
  (after : List Sprout)
  (lists : Sprout.siblings start (some place.id) (child :: after) <:+
    Sprout.siblings (place.id + 1) (some place.id) place.sprout.children)

include member lists

theorem planted_ancestors : graph.ancestors start = place.id :: graph.ancestors place.id := by
  have inside := Sprout.suffix_below sprout place member start child after lists
  have parent := planted_parent graph sprout planted _ inside
  have later := Sprout.sibling_place _ _ _ _ (lists.subset (.head _))
  have smaller := (Sprout.place_range_all _ _ _ _ later).1
  rw [ancestors]
  simp only at parent
  simp only [parent]
  exact if_pos smaller

theorem planted_last : graph.isLast place.id start = after.isEmpty := by
  obtain ⟨front, split⟩ := lists.map Place.id
  rw [Sprout.sibling_starts, Sprout.sibling_starts, Sprout.starts] at split
  rw [isLast, planted_children graph sprout planted place member, ← split, List.back?_toArray]
  cases after with
  | nil => simp [Sprout.starts]
  | cons next rest =>
    have positive := Sprout.size_pos child
    refine decide_eq_false fun same => ?_
    rw [List.getLast?_append_cons, Sprout.starts, List.getLast?_cons_cons] at same
    have later := Sprout.starts_above _ (next :: rest) _ (List.mem_of_getLast? same)
    omega

theorem planted_margin :
    graph.margin (start :: graph.ancestors start) =
      graph.margin (place.id :: graph.ancestors place.id) ++
        Outline.rail (Sprout.outlines (start + child.size) after) := by
  have last := planted_last graph sprout planted place member start child after lists
  rw [planted_ancestors graph sprout planted place member start child after lists, margin, last]
  cases after <;> rfl

theorem planted_line :
    (graph.line start).toList =
      (graph.margin (place.id :: graph.ancestors place.id)).toList ++
        Outline.connector (Sprout.outlines (start + child.size) after) ::
          '─' :: ' ' :: (child.outline start).label.toList := by
  have last := planted_last graph sprout planted place member start child after lists
  have labelled := planted_label graph sprout planted _
    (Sprout.suffix_below sprout place member start child after lists)
  rw [line, planted_ancestors graph sprout planted place member start child after lists]
  simp only at labelled
  simp only [last, labelled]
  cases after <;> simp [Sprout.outlines, Outline.connector]

end

end

mutual

theorem below_drawn (graph : Graph) (sprout : Sprout) (planted : graph.Planted sprout) (id : Nat)
    (parent : Option NodeId) (inner : Sprout) (member : ⟨id, parent, inner⟩ ∈ sprout.places 0 none) :
    ((inner.outline id).linesBelow (graph.margin (id :: graph.ancestors id))).toList =
      (List.range' (id + 1) (Sprout.sizeAll inner.children)).flatMap fun below =>
        (graph.line below).toList ++ ['\n'] := by
  cases inner with
  | grown part children =>
    exact branches_drawn graph sprout planted ⟨id, parent, .grown part children⟩ member (id + 1)
      children List.suffix_rfl

theorem branches_drawn (graph : Graph) (sprout : Sprout) (planted : graph.Planted sprout)
    (place : Place) (member : place ∈ sprout.places 0 none) (start : Nat) (sprouts : List Sprout)
    (lists : Sprout.siblings start (some place.id) sprouts <:+
      Sprout.siblings (place.id + 1) (some place.id) place.sprout.children) :
    (Outline.branchLines (graph.margin (place.id :: graph.ancestors place.id))
        (Sprout.outlines start sprouts)).toList =
      (List.range' start (Sprout.sizeAll sprouts)).flatMap fun below =>
        (graph.line below).toList ++ ['\n'] := by
  cases sprouts with
  | nil => rfl
  | cons child after =>
    have inner := below_drawn graph sprout planted start (some place.id) child
      (Sprout.suffix_below sprout place member start child after lists)
    have later := branches_drawn graph sprout planted place member (start + child.size) after
      ((List.suffix_cons _ _).trans lists)
    have lines := Outline.lines_cons (graph.margin (place.id :: graph.ancestors place.id))
      (child.outline start) (Sprout.outlines (start + child.size) after) []
    rw [List.append_nil, List.append_nil, later,
      ← planted_margin graph sprout planted place member start child after lists, inner] at lines
    have here := planted_line graph sprout planted place member start child after lists
    have numbers : List.range' start (Sprout.sizeAll (child :: after)) =
        start :: List.range' (start + 1) (Sprout.sizeAll child.children) ++
          List.range' (start + child.size) (Sprout.sizeAll after) := by
      rw [Sprout.sizeAll, ← List.range'_append_1, Sprout.size_eq, List.range'_succ]
    rw [Sprout.outlines, lines, numbers, List.flatMap_append, List.flatMap_cons, here]
    simp only [List.append_assoc, List.cons_append, List.nil_append]

end

section

variable (graph : Graph) (sprout : Sprout) (planted : graph.Planted sprout)

include planted

theorem planted_drawn
    (targets : ∀ place ∈ sprout.places 0 none, ∀ target,
      place.sprout.part.target? = some target → graph.contains target = true) :
    graph.treeviz = String.join (graph.ids.map fun id => graph.line id ++ "\n") := by
  have topmost := Sprout.place_self 0 none sprout
  have parent := planted_parent graph sprout planted _ topmost
  have above : graph.ancestors 0 = [] := by
    rw [ancestors]
    simp only [parent]
  have below := below_drawn graph sprout planted 0 none sprout topmost
  have margin : graph.margin [0] = "" := rfl
  have root : graph.line 0 = (sprout.outline 0).label := by
    rw [line, above]
    exact (planted_label graph sprout planted _ topmost).symm
  have numbers : graph.ids = 0 :: List.range' 1 (Sprout.sizeAll sprout.children) := by
    rw [ids, planted_size graph sprout planted, Sprout.size_eq, List.range_eq_range', List.range'_succ]
  rw [above, margin] at below
  apply String.toList_inj.1
  rw [treeviz, planted_outline graph sprout planted targets, String.toList_join, numbers]
  simp only [List.map_cons, List.flatMap_cons, List.flatMap_map, String.toList_append, below, root]
  rfl

theorem planted_lineage (id : Nat) (present : id < graph.size) :
    graph.Lineage (id :: graph.ancestors id) := by
  induction id using Nat.strongRecOn with
  | ind id ih =>
    obtain ⟨place, member, rfl⟩ := place_of_id graph sprout planted id present
    have parent := planted_parent graph sprout planted place member
    rcases Sprout.place_attached 0 none sprout place member with rfl | ⟨owner, among, owned, listed⟩
    · rw [ancestors]
      simp only [parent]
      exact ⟨rfl, .singleton 0⟩
    · have smaller : owner.id < place.id := Sprout.starts_above _ _ _ listed
      obtain ⟨topmost, upward⟩ := ih owner.id smaller (Nat.lt_trans smaller present)
      rw [owned] at parent
      rw [ancestors]
      simp only [parent, if_pos smaller]
      refine ⟨by rwa [List.getLast?_cons_cons], List.isChain_cons_cons.2 ⟨?_, upward⟩⟩
      rw [planted_children graph sprout planted owner among]
      exact List.mem_toArray.2 listed

end

theorem margin_unbroken (graph : Graph) (above : List NodeId) : '\n' ∉ (graph.margin above).toList := by
  induction above with
  | nil => simp [margin]
  | cons child rest ih =>
    cases rest with
    | nil => simp [margin]
    | cons parent above =>
      rw [margin, String.toList_append, List.mem_append, not_or]
      refine ⟨ih, ?_⟩
      cases graph.isLast parent child <;> decide

theorem line_unbroken (graph : Graph) (id : NodeId) (unbroken : '\n' ∉ (graph.label id).toList) :
    '\n' ∉ (graph.line id).toList := by
  rw [line]
  cases graph.ancestors id with
  | nil => exact unbroken
  | cons parent above =>
    have margin := margin_unbroken graph (parent :: above)
    have connector : '\n' ∉ (if graph.isLast parent id then "└─" else "├─").toList := by
      cases graph.isLast parent id <;> decide
    simp [margin, connector, unbroken]

end Graph

section

variable {σ : Type} (generator : Generator σ) (depth : Nat) (root : String) (graph : Graph)
  (sprout : Sprout) (grows : generator.Grows depth root graph sprout)

include grows

theorem grown_drawn : graph.treeviz = String.join (graph.ids.map fun id => graph.line id ++ "\n") :=
  Graph.planted_drawn graph sprout grows.planted
    (target_contained generator depth root graph sprout grows)

theorem grown_unbroken (expressible : generator.definition.Expressible) (id : NodeId)
    (listed : id ∈ graph.ids) : '\n' ∉ (graph.line id).toList := by
  refine Graph.line_unbroken graph id ?_
  obtain ⟨place, member, rfl⟩ :=
    Graph.place_of_id graph sprout grows.planted id (List.mem_range.1 listed)
  rw [← Graph.planted_label graph sprout grows.planted place member]
  refine Outline.label_line place.id _ (Sprout.outline_regular place.id place.parent place.sprout ?_)
  intro inner inside
  exact place_plain generator depth root graph sprout grows expressible inner
    (Sprout.places_nested 0 none sprout place inner member inside)

end

theorem generated_graph_lines {σ : Type} (generator : Generator σ) (depth : Nat) (root : String)
    (graph : Graph) (origin : generator.definition.FromText)
    (success : (generator.generate depth root).1.result = .ok graph) :
    graph.treeviz = String.join (graph.ids.map fun id => graph.line id ++ "\n") ∧
    (∀ id ∈ graph.ids, '\n' ∉ (graph.line id).toList ∧ graph.Lineage (id :: graph.ancestors id)) ∧
    ∃ outline, ∀ limit, graph.size ≤ limit → graph.outlineWithin limit 0 = some outline := by
  obtain ⟨sprout, grows⟩ := Generator.generate_grows generator depth root graph success
  have expressible := Definition.from_text_expressible generator.definition origin
  have targets := target_contained generator depth root graph sprout grows
  refine ⟨grown_drawn generator depth root graph sprout grows, ?_, ?_⟩
  · intro id listed
    exact ⟨grown_unbroken generator depth root graph sprout grows expressible id listed,
      Graph.planted_lineage graph sprout grows.planted id (List.mem_range.1 listed)⟩
  · refine ⟨sprout.outline 0, fun limit enough => ?_⟩
    rw [Graph.planted_size graph sprout grows.planted] at enough
    exact Graph.outline_within graph sprout grows.planted targets limit _
      (Sprout.place_self 0 none sprout) enough

def shelfGenerator : Generator Script :=
  .new
    ⟨⟨[("box", [[⟨"item", .anyNumber⟩]]), ("item", []), ("shelf", [[⟨"box", .anyNumber⟩]])],
      by decide⟩, by decide⟩
    .scripted { Script.empty with size := ⟨[2, 1, 1], 0⟩ }

def shelfGraph : Graph :=
  ⟨#[⟨"shelf", #[1, 3], none, none⟩, ⟨"box", #[2], some 0, none⟩, ⟨"item", #[], some 1, none⟩,
    ⟨"box", #[4], some 0, none⟩, ⟨"item", #[], some 3, none⟩]⟩

theorem shelf_lines :
    shelfGenerator.definition.FromText ∧
      (shelfGenerator.generate 3 "shelf").1.result = .ok shelfGraph ∧
      shelfGraph.treeviz = String.join (shelfGraph.ids.map fun id => shelfGraph.line id ++ "\n") := by
  have origin : shelfGenerator.definition.FromText :=
    .parsed "shelf" shelfGenerator.definition.text
      (Definition.parse_text shelfGenerator.definition "shelf" ⟨by decide, by decide⟩)
  have filled : (shelfGenerator.generate 3 "shelf").1.result = .ok shelfGraph := by decide +kernel
  exact ⟨origin, filled, (generated_graph_lines shelfGenerator 3 "shelf" shelfGraph origin filled).1⟩

example : shelfGraph.treeviz =
    "shelf #0\n├─ box #1\n│  └─ item #2\n└─ box #3\n   └─ item #4\n" := by decide

end TreeGrammar
