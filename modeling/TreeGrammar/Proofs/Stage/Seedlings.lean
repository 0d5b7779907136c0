import TreeGrammar.Proofs.Stage.Moment
set_option autoImplicit false

namespace TreeGrammar

variable {σ : Type}

structure Seedling where
  name : String
  parent : Option NodeId
  target : Option NodeId

def Node.seedling (node : Node) : Seedling := ⟨node.name, node.parent, node.target⟩

def Graph.seedlings (graph : Graph) : List Seedling := graph.nodes.toList.map Node.seedling

def Exchange.child? : Exchange → Option Seedling
  | ⟨.target reference context _, answer⟩ => some ⟨reference.name, some context.node, answer⟩
  | _ => none

def childrenOf (exchanges : List Exchange) : List Seedling := exchanges.filterMap Exchange.child?

namespace Graph

variable (graph : Graph)

theorem length_seedlings : graph.seedlings.length = graph.size := by
  rw [seedlings, List.length_map, Array.length_toList]
  rfl

theorem seedlings_add (name : String) (parent target : Option NodeId) :
    (graph.add name parent target).seedlings = graph.seedlings ++ [⟨name, parent, target⟩] := by
  rw [seedlings, add, Array.toList_push, List.map_append]
  rfl

theorem seedlings_attach (parent child : NodeId) :
    (graph.attach parent child).seedlings = graph.seedlings := by
  apply List.ext_getElem?
  intro id
  simp only [seedlings, attach, List.getElem?_map, Array.getElem?_toList, Array.getElem?_modify]
  by_cases here : parent = id
  · rw [if_pos here, Option.map_map]
    rfl
  · rw [if_neg here]

theorem seedling_node (id : NodeId) (seedling : Seedling)
    (found : graph.seedlings[id]? = some seedling) :
    ∃ node, graph.node? id = some node ∧ node.seedling = seedling := by
  rw [seedlings, List.getElem?_map, Array.getElem?_toList, Option.map_eq_some_iff] at found
  exact found

end Graph

def Stage.pending : Stage → List Seedling
  | visit name stack => [⟨name, innermost stack, none⟩]
  | branch _ _ _ | fill _ _ | made _ _ => []

def Stage.Tallied (root : String) (exchanges : List Exchange) (stage : Stage) (run : Run σ) : Prop :=
  run.graph.seedlings ++ stage.pending = ⟨root, none, none⟩ :: childrenOf exchanges

theorem step_tallied (definition : Definition) (strategy : Strategy σ) (root : String)
    (before asked : List Exchange) (stage next : Stage) (run after : Run σ)
    (step : Step definition strategy stage run asked next after)
    (tallied : stage.Tallied root before run) : next.Tallied root (before ++ asked) after := by
  rw [Stage.Tallied, childrenOf, List.filterMap_append, ← List.cons_append, ← childrenOf, ← tallied]
  cases step with
  | leaf statement | bare statement | begun statement =>
    rw [Run.visited, Graph.seedlings_add]
    rfl
  | reused node name reference lacking slots stack run target =>
    rw [Graph.seedlings_add, List.append_assoc, List.append_assoc]
    rfl
  | attached child frame stack =>
    rw [Graph.seedlings_attach, List.append_assoc]
    rfl
  | only | chosen | one | sized | fresh | completed =>
    rw [List.append_assoc]
    rfl

theorem reaches_record (definition : Definition) (strategy : Strategy σ)
    (keeps : List Exchange → Stage → Run σ → Prop)
    (kept : ∀ before stage run asked next after, Step definition strategy stage run asked next after →
      keeps before stage run → keeps (before ++ asked) next after)
    (before exchanges : List Exchange) (stage last : Stage) (run after : Run σ)
    (reaches : Reaches definition strategy stage run exchanges last after)
    (start : keeps before stage run) : keeps (before ++ exchanges) last after := by
  induction reaches generalizing before with
  | refl stage run =>
    rw [List.append_nil]
    exact start
  | step stage next last run between after asked rest step _ ih =>
    rw [← List.append_assoc]
    exact ih (before ++ asked) (kept before stage run asked next between step start)

namespace Generator

variable (generator : Generator σ) (root : String)

theorem comes_tallied (exchanges : List Exchange) (stage : Stage) (run : Run (Array Exchange × σ))
    (comes : generator.Comes root exchanges stage run) : stage.Tallied root exchanges run :=
  reaches_record _ _ (fun before stage run => stage.Tallied root before run)
    (fun before stage run asked next after => step_tallied _ _ root before asked stage next run after)
    [] exchanges _ stage _ run comes rfl

theorem target_tallied (depth : Nat) (front back : List Exchange) (reference : Reference)
    (context : Context) (completed : Completed) (answer : Option NodeId)
    (split : generator.transcript depth root =
      front ++ ⟨.target reference context completed, answer⟩ :: back) :
    context.graph.seedlings = ⟨root, none, none⟩ :: childrenOf front := by
  obtain ⟨stage, run, comes, asks⟩ := generator.transcript_asks root depth front back _ split
  have tallied := generator.comes_tallied root front stage run comes
  rcases asks with ⟨next, after, step⟩ | ⟨cause, after, halts⟩
  · cases step with
    | fresh | reused => exact (List.append_nil _).symm.trans tallied
  · cases halts with
    | target => exact (List.append_nil _).symm.trans tallied

theorem success_tallied (depth : Nat) (graph : Graph)
    (success : (generator.generate depth root).1.result = .ok graph) :
    graph.seedlings = ⟨root, none, none⟩ :: childrenOf (generator.transcript depth root) := by
  obtain ⟨exchanges, node, run, comes, transcript, rfl⟩ :=
    generator.success_comes depth root graph success
  rw [transcript]
  exact (List.append_nil _).symm.trans (generator.comes_tallied root exchanges _ run comes)

end Generator

end TreeGrammar
