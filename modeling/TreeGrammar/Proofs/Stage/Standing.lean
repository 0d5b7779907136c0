import TreeGrammar.Proofs.Graph.Links
import TreeGrammar.Proofs.Stage.Ending
import TreeGrammar.Proofs.Strategy.Completed
set_option autoImplicit false

namespace TreeGrammar

variable {σ : Type}

-- The nodes that are not listed yet are those under construction and at most one more, which is
-- new or just done. They form a line up to node 0.
structure Standing (graph : Graph) (completed : Completed) (building : List (String × NodeId))
    (unlisted : List NodeId) : Prop where
  line : graph.Line unlisted
  inside : ∀ parent child : Nat, child ∈ graph.children parent → child < graph.size
  apart : ∀ id ∈ unlisted, ∀ other, id ∉ graph.children other
  listed : ∀ id : Nat, id < graph.size → id ∉ unlisted → graph.Listed id
  named : ∀ entry ∈ building, graph.Original entry.1 entry.2
  recorded : ∀ name id, id ∈ completed.named name →
    id ∉ building.map Prod.snd ∧ graph.Original name id

theorem standing_empty : Standing .empty ∅ [] [] := by
  refine ⟨.nil, ?_, ?_, ?_, ?_, ?_⟩
  · intro parent child member
    exact absurd member (Array.not_mem_empty child)
  · intro id none
    cases none
  · intro id none
    cases none
  · intro entry none
    cases none
  · intro name id none
    exact absurd none (Array.not_mem_empty id)

theorem listed_add (graph : Graph) (name : String) (parent target : Option NodeId) (id : Nat)
    (present : id < graph.size) (listed : graph.Listed id) :
    (graph.add name parent target).Listed id := by
  obtain ⟨owner, smaller, above, once, nowhere⟩ := listed
  refine ⟨owner, smaller, ?_, ?_, ?_⟩
  · rw [graph.keeps_parent _ (graph.keeps_add name parent target) id present, above]
  · rw [graph.children_add]
    exact once
  · intro other different
    rw [graph.children_add]
    exact nowhere other different

theorem listed_attach (graph : Graph) (parent child : Nat) (holder : parent < graph.size) (id : Nat)
    (present : id < graph.size) (older : id ≠ child) (listed : graph.Listed id) :
    (graph.attach parent child).Listed id := by
  obtain ⟨owner, smaller, above, once, nowhere⟩ := listed
  refine ⟨owner, smaller, ?_, ?_, ?_⟩
  · rw [graph.keeps_parent _ (graph.keeps_attach parent child) id present, above]
  · rw [graph.children_attach parent child holder]
    by_cases here : owner = parent
    · rw [if_pos here, Array.toList_push, List.count_append, ← here, once,
        List.count_singleton, if_neg (by simpa using Ne.symm older)]
    · rw [if_neg here]
      exact once
  · intro other different member
    rcases graph.mem_children_attach parent child holder other id member with before | ⟨_, same⟩
    · exact nowhere other different before
    · exact older same

section

variable {graph : Graph} {completed : Completed} {building : List (String × NodeId)}
  {unlisted : List NodeId}

theorem standing_rooted (standing : Standing graph completed building []) : graph.size = 0 := by
  refine Nat.eq_zero_of_not_pos fun nonempty => ?_
  obtain ⟨parent, smaller, _⟩ := standing.listed 0 nonempty List.not_mem_nil
  exact Nat.not_lt_zero parent smaller

theorem standing_add (name : String) (parent target : Option NodeId)
    (standing : Standing graph completed building unlisted) (topmost : unlisted.head? = parent) :
    Standing (graph.add name parent target) completed building (graph.size :: unlisted) := by
  have keeps := graph.keeps_add name parent target
  have grown := graph.size_add name parent target
  refine ⟨?_, ?_, ?_, ?_, ?_, ?_⟩
  · cases unlisted with
    | nil =>
      have rooted := standing_rooted standing
      have above := graph.parent_add name parent target
      rw [← topmost, rooted] at above
      rw [rooted]
      exact .root (by omega) (topmost ▸ above)
    | cons above rest =>
      have lower := graph.line_present _ standing.line above (.head _)
      exact .under graph.size above rest (by omega)
        ((graph.parent_add name parent target).trans topmost.symm) lower
        (graph.keeps_line _ keeps _ standing.line)
  · intro owner child member
    rw [graph.children_add] at member
    have lower := standing.inside owner child member
    omega
  · intro id member other attached
    rw [graph.children_add] at attached
    rcases List.mem_cons.1 member with rfl | older
    · exact absurd (standing.inside other _ attached) (Nat.lt_irrefl _)
    · exact standing.apart id older other attached
  · intro id present outside
    rw [List.mem_cons, not_or] at outside
    have older : id < graph.size := by
      have different : id ≠ graph.size := outside.1
      omega
    exact listed_add graph name parent target id older (standing.listed id older outside.2)
  · intro entry member
    exact graph.keeps_original _ keeps _ _ (standing.named entry member)
  · intro other id known
    obtain ⟨done, original⟩ := standing.recorded other id known
    exact ⟨done, graph.keeps_original _ keeps _ _ original⟩

theorem standing_begin (name : String) (id : NodeId)
    (standing : Standing graph completed building unlisted) (original : graph.Original name id)
    (unfinished : ∀ other, id ∉ completed.named other) :
    Standing graph completed ((name, id) :: building) unlisted := by
  refine ⟨standing.line, standing.inside, standing.apart, standing.listed, ?_, ?_⟩
  · intro entry member
    rcases List.mem_cons.1 member with rfl | older
    · exact original
    · exact standing.named entry older
  · intro other done known
    obtain ⟨elsewhere, found⟩ := standing.recorded other done known
    refine ⟨?_, found⟩
    intro member
    rcases List.mem_cons.1 member with rfl | older
    · exact unfinished other known
    · exact elsewhere older

theorem standing_complete (name : String) (id : NodeId)
    (standing : Standing graph completed ((name, id) :: building) unlisted)
    (apart : id ∉ building.map Prod.snd) :
    Standing graph (completed.record name id) building unlisted := by
  refine ⟨standing.line, standing.inside, standing.apart, standing.listed, ?_, ?_⟩
  · intro entry member
    exact standing.named entry (.tail _ member)
  · intro other done known
    have before : done ∈ completed.named other →
        done ∉ building.map Prod.snd ∧ graph.Original other done := by
      intro old
      obtain ⟨elsewhere, found⟩ := standing.recorded other done old
      exact ⟨fun member => elsewhere (.tail _ member), found⟩
    rw [Completed.named_record] at known
    by_cases same : other = name
    · rw [if_pos same, Array.mem_push] at known
      rcases known with old | rfl
      · exact before old
      · rw [same]
        exact ⟨apart, standing.named _ (.head _)⟩
    · rw [if_neg same] at known
      exact before known

theorem standing_attach (parent child : Nat) (rest : List NodeId)
    (standing : Standing graph completed building (child :: parent :: rest)) :
    Standing (graph.attach parent child) completed building (parent :: rest) := by
  have keeps := graph.keeps_attach parent child
  have grown := graph.size_attach parent child
  have holder := graph.line_present _ standing.line parent (.tail _ (.head _))
  have newest := graph.line_present _ standing.line child (.head _)
  have decreasing := graph.line_decreasing child (parent :: rest) standing.line
  refine ⟨graph.keeps_line _ keeps _ (graph.line_tail _ _ standing.line), ?_, ?_, ?_, ?_, ?_⟩
  · intro owner id member
    rw [grown]
    rcases graph.mem_children_attach parent child holder owner id member with before | ⟨_, same⟩
    · exact standing.inside owner id before
    · rw [same]
      exact newest
  · intro id member other attached
    rcases graph.mem_children_attach parent child holder other id attached with before | ⟨_, same⟩
    · exact standing.apart id (.tail _ member) other before
    · exact absurd (decreasing id member) (same ▸ Nat.lt_irrefl id)
  · intro id present outside
    rw [grown] at present
    by_cases same : id = child
    · subst same
      have fresh := standing.apart id (.head _)
      refine ⟨parent, decreasing parent (.head _), ?_, ?_, ?_⟩
      · rw [graph.keeps_parent _ keeps id newest]
        cases standing.line with
        | under _ _ _ _ above _ _ => exact above
      · rw [graph.children_attach parent id holder, if_pos rfl, Array.toList_push, List.count_append,
          List.count_eq_zero_of_not_mem (fun member => fresh parent (Array.mem_toList_iff.1 member)),
          List.count_singleton_self]
      · intro other different member
        rcases graph.mem_children_attach parent id holder other id member with before | ⟨here, _⟩
        · exact fresh other before
        · exact different here
    · have older : id ∉ child :: parent :: rest := by
        rw [List.mem_cons, not_or]
        exact ⟨same, outside⟩
      exact listed_attach graph parent child holder id present same (standing.listed id present older)
  · intro entry member
    exact graph.keeps_original _ keeps _ _ (standing.named entry member)
  · intro name id known
    obtain ⟨done, original⟩ := standing.recorded name id known
    exact ⟨done, graph.keeps_original _ keeps _ _ original⟩

end

namespace Stage

def entries (stack : List Frame) : List (String × NodeId) :=
  stack.map fun frame => (frame.name, frame.node)

def building : Stage → List (String × NodeId)
  | visit _ stack => entries stack
  | branch statement node stack => (statement.name, node) :: entries stack
  | fill frame stack => entries (frame :: stack)
  | made _ stack => entries stack

def unlisted : Stage → List NodeId
  | visit _ stack => stack.map Frame.node
  | branch _ node stack => node :: stack.map Frame.node
  | fill frame stack => (frame :: stack).map Frame.node
  | made node stack => node :: stack.map Frame.node

def Stands (stage : Stage) (run : Run σ) : Prop :=
  Standing run.graph run.completed stage.building stage.unlisted

theorem entries_nodes (stack : List Frame) : (entries stack).map Prod.snd = stack.map Frame.node := by
  rw [entries, List.map_map]
  rfl

end Stage

theorem step_stands (definition : Definition) (strategy : Strategy σ) (stage next : Stage)
    (run after : Run σ) (asked : List Exchange)
    (step : Step definition strategy stage run asked next after) (stands : stage.Stands run) :
    next.Stands after := by
  have above : ∀ stack : List Frame, (stack.map Frame.node).head? = innermost stack :=
    fun stack => List.head?_map
  cases step with
  | leaf statement stack => exact standing_add statement.name _ none stands (above stack)
  | bare statement stack => exact standing_add statement.name _ none stands (above stack)
  | begun statement stack =>
    have added := standing_add statement.name _ none stands (above stack)
    refine standing_begin statement.name run.graph.size added
      (run.graph.original_add statement.name _) ?_
    intro other known
    obtain ⟨_, original⟩ := stands.recorded other _ known
    exact Nat.lt_irrefl _ (run.graph.original_present other _ original)
  | only => exact stands
  | chosen => exact stands
  | one => exact stands
  | sized => exact stands
  | fresh => exact stands
  | reused node name reference lacking slots stack run target state =>
    exact standing_add reference.name (some node) (some target) stands rfl
  | completed node name stack run =>
    refine standing_complete name node stands ?_
    rw [Stage.building, Stage.entries_nodes]
    intro member
    exact Nat.lt_irrefl node (run.graph.line_decreasing node _ stands.line node member)
  | attached child frame stack => exact standing_attach frame.node child _ stands

theorem Generator.comes_stands (generator : Generator σ) (root : String) (exchanges : List Exchange)
    (stage : Stage) (run : Run (Array Exchange × σ))
    (comes : generator.Comes root exchanges stage run) : stage.Stands run :=
  reaches_invariant Stage.Stands
    (fun stage run asked next after => step_stands _ _ stage next run after asked) comes standing_empty

end TreeGrammar
