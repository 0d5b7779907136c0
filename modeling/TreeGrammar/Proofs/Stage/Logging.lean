import Mathlib.Data.List.Forall2
import TreeGrammar.Proofs.Stage.Seedlings
set_option autoImplicit false

namespace TreeGrammar

variable {σ : Type}

namespace LogRecord

def ofNode : LogRecord → Bool
  | visiting _ _ | reusing _ _ => true
  | started _ | sized _ _ _ | failed _ _ | finished _ _ => false

def ofSlot : LogRecord → Bool
  | sized _ _ _ => true
  | started _ | visiting _ _ | reusing _ _ | failed _ _ | finished _ _ => false

-- The name of an alias is not written down, it is that of the target.
inductive Tells : LogRecord → Seedling → Prop where
  | fresh (name : String) (parent : Option NodeId) :
      Tells (.visiting name parent) ⟨name, parent, none⟩
  | proxy (name : String) (parent target : NodeId) :
      Tells (.reusing target parent) ⟨name, some parent, some target⟩

end LogRecord

def Exchange.slotRecord? : Exchange → Option LogRecord
  | ⟨.size reference context, size⟩ =>
    if reference.multiplicity.admits size then some (.sized reference context.node size) else none
  | _ => none

structure Run.Logs (before after : Run σ) (asked : List Exchange) (records : List LogRecord) :
    Prop where
  log : after.log.toList = before.log.toList ++ records
  level : ∀ record ∈ records, record.level = "TRACE"
  nodes : ∃ created, after.graph.seedlings = before.graph.seedlings ++ created ∧
    List.Forall₂ LogRecord.Tells (records.filter LogRecord.ofNode) created
  slots : records.filter LogRecord.ofSlot = asked.filterMap Exchange.slotRecord?

theorem logs_trans (before middle after : Run σ) (asked more : List Exchange)
    (front back : List LogRecord) (first : Run.Logs before middle asked front)
    (second : Run.Logs middle after more back) :
    Run.Logs before after (asked ++ more) (front ++ back) := by
  obtain ⟨earlier, grown, told⟩ := first.nodes
  obtain ⟨later, grownLater, toldLater⟩ := second.nodes
  refine ⟨?_, ?_, ⟨earlier ++ later, ?_, ?_⟩, ?_⟩
  · rw [second.log, first.log, List.append_assoc]
  · intro record member
    exact (List.mem_append.1 member).elim (first.level record) (second.level record)
  · rw [grownLater, grown, List.append_assoc]
  · rw [List.filter_append]
    exact List.rel_append told toldLater
  · rw [List.filter_append, List.filterMap_append, first.slots, second.slots]

section

variable (before after : Run σ) (asked : List Exchange)
  (unsized : asked.filterMap Exchange.slotRecord? = [])

include unsized

theorem logs_nothing (log : after.log = before.log)
    (graph : after.graph.seedlings = before.graph.seedlings) :
    Run.Logs before after asked [] := by
  refine ⟨?_, nofun, ⟨[], ?_, .nil⟩, unsized.symm⟩
  · rw [log, List.append_nil]
  · rw [graph, List.append_nil]

theorem logs_node (record : LogRecord) (name : String) (parent target : Option NodeId)
    (log : after.log = before.log.push record)
    (graph : after.graph = before.graph.add name parent target)
    (tells : record.Tells ⟨name, parent, target⟩) : Run.Logs before after asked [record] := by
  refine ⟨?_, ?_, ⟨[⟨name, parent, target⟩], ?_, ?_⟩, ?_⟩
  · rw [log, Array.toList_push]
  · intro other member
    rw [List.mem_singleton.1 member]
    cases tells <;> rfl
  · rw [graph, Graph.seedlings_add]
  · cases tells with
    | fresh => exact .cons (.fresh _ _) .nil
    | proxy => exact .cons (.proxy _ _ _) .nil
  · rw [unsized]
    cases tells <;> rfl

end

section

variable (definition : Definition) (strategy : Strategy σ)

theorem step_logs (stage next : Stage) (run after : Run σ) (asked : List Exchange)
    (step : Step definition strategy stage run asked next after) :
    ∃ records, Run.Logs run after asked records := by
  cases step with
  | leaf statement | bare statement | begun statement =>
    exact ⟨_, logs_node run _ _ rfl _ statement.name _ none rfl rfl (.fresh _ _)⟩
  | reused node name reference lacking slots stack run target =>
    exact ⟨_, logs_node run _ _ rfl _ reference.name _ _ rfl rfl (.proxy _ node target)⟩
  | sized node name reference slots stack run size state several answered admitted =>
    refine ⟨[.sized reference node size], ?_, ?_, ⟨[], (List.append_nil _).symm, .nil⟩, ?_⟩
    · exact Array.toList_push
    · intro record member
      rw [List.mem_singleton.1 member]
      rfl
    · rw [List.filterMap_cons, Exchange.slotRecord?, if_pos admitted]
      rfl
  | attached child frame stack run =>
    exact ⟨[], logs_nothing run _ _ rfl rfl (run.graph.seedlings_attach frame.node child)⟩
  | only | chosen | one | fresh | completed => exact ⟨[], logs_nothing _ _ _ rfl rfl rfl⟩

theorem reaches_logs (stage last : Stage) (run after : Run σ) (exchanges : List Exchange)
    (reaches : Reaches definition strategy stage run exchanges last after) :
    ∃ records, Run.Logs run after exchanges records := by
  induction reaches with
  | refl stage run => exact ⟨[], logs_nothing run run [] rfl rfl rfl⟩
  | step stage next last run between after asked rest step _ ih =>
    obtain ⟨front, first⟩ := step_logs definition strategy stage next run between asked step
    obtain ⟨back, second⟩ := ih
    exact ⟨front ++ back, logs_trans run between after asked rest front back first second⟩

end

namespace Generator

variable (generator : Generator σ) (depth : Nat) (root : String) (graph : Graph)

theorem success_log (success : (generator.generate depth root).1.result = .ok graph) :
    ∃ node run, generator.Comes root (generator.transcript depth root) (.made node []) run ∧
      graph = run.graph ∧ (generator.generate depth root).1.log.toList =
        run.log.toList ++ [.finished root graph.size] := by
  obtain ⟨sameOutcome, _⟩ := generate_noting id generator depth root
  rw [sameOutcome] at success ⊢
  obtain ⟨node, after, expanded, rfl, log, _⟩ := generate_ok _ depth root graph success
  have retraced : Growth.Retraced generator.definition (generator.strategy.noting id)
      (.visit root []) (generator.start root) (0 + depth) (fun node => .made node [])
      (Growth.expand generator.definition (generator.strategy.noting id) depth root none
        (generator.start root)) :=
    Growth.expand_retraced generator.definition _ depth root [] (generator.start root)
  have ended : Growth.expand generator.definition (generator.strategy.noting id) depth root none
      (generator.start root) = .ok node after := expanded
  rw [ended] at retraced
  obtain ⟨exchanges, comes⟩ := retraced
  have transcript := (generator.generate_ok_result depth root node after ended).2
  rw [generator.start_exchanges root exchanges after (reaches_plays comes)] at transcript
  refine ⟨node, after, transcript ▸ comes, rfl, ?_⟩
  rw [log, Array.toList_push]

end Generator

theorem log_tells_graph (generator : Generator σ) (depth : Nat) (root : String) (graph : Graph)
    (success : (generator.generate depth root).1.result = .ok graph) :
    let log := (generator.generate depth root).1.log.toList
    ∃ trace, log = .started root :: trace ++ [.finished root graph.size] ∧
      log.map LogRecord.level = "DEBUG" :: List.replicate trace.length "TRACE" ++ ["DEBUG"] ∧
      (trace.filter LogRecord.ofNode).length = graph.size ∧
      (∀ id node, graph.node? id = some node →
        ∃ record, (trace.filter LogRecord.ofNode)[id]? = some record ∧ record.Tells node.seedling) ∧
      trace.filter LogRecord.ofSlot =
        (generator.transcript depth root).filterMap Exchange.slotRecord? := by
  intro log
  obtain ⟨node, run, comes, rfl, written⟩ := generator.success_log depth root graph success
  obtain ⟨trace, logs⟩ := reaches_logs _ _ _ _ _ run _ comes
  obtain ⟨created, grown, told⟩ := logs.nodes
  have nodes : run.graph.seedlings = created := grown
  have whole : log = .started root :: trace ++ [.finished root run.graph.size] := by
    rw [show log = _ from written, logs.log]
    rfl
  have levels : trace.map LogRecord.level = List.replicate trace.length "TRACE" := by
    rw [List.eq_replicate_iff, List.length_map]
    refine ⟨rfl, fun level member => ?_⟩
    obtain ⟨record, listed, rfl⟩ := List.mem_map.1 member
    exact logs.level record listed
  rw [← nodes] at told
  refine ⟨trace, whole, ?_, ?_, ?_, logs.slots⟩
  · rw [whole, List.map_append, List.map_cons, levels]
    rfl
  · rw [told.length_eq, Graph.length_seedlings]
  · intro id node found
    have seedling : run.graph.seedlings[id]? = some node.seedling := by
      rw [Graph.seedlings, List.getElem?_map, Array.getElem?_toList]
      exact congrArg (Option.map Node.seedling) found
    obtain ⟨present, same⟩ := List.getElem?_eq_some_iff.1 seedling
    have written : id < (trace.filter LogRecord.ofNode).length := told.length_eq ▸ present
    refine ⟨_, List.getElem?_eq_getElem written, ?_⟩
    rw [← same]
    exact told.get written present

def boxTrace : List LogRecord :=
  [.visiting "box" none, .sized ⟨"item", .anyNumber⟩ 0 2, .visiting "item" (some 0),
    .sized ⟨"label", .atMostOne⟩ 1 0, .reusing 1 0]

theorem box_log_tells :
    (boxGenerator.generate 3 "box").1.result = .ok boxGraph ∧
    ∃ trace, (boxGenerator.generate 3 "box").1.log.toList =
        .started "box" :: trace ++ [.finished "box" 3] ∧ trace = boxTrace ∧
      ∃ record, (trace.filter LogRecord.ofNode)[2]? = some record ∧
        record.Tells ⟨"item", some 0, some 1⟩ := by
  have log : (boxGenerator.generate 3 "box").1.log.toList =
      .started "box" :: boxTrace ++ [.finished "box" 3] := by decide +kernel
  obtain ⟨trace, whole, _, _, nodes, _⟩ :=
    log_tells_graph boxGenerator 3 "box" boxGraph box_generated
  have same : trace = boxTrace :=
    List.append_cancel_right (List.cons.inj (whole.symm.trans log)).2
  exact ⟨box_generated, trace, whole, same, nodes 2 ⟨"item", #[], some 0, some 1⟩ rfl⟩

end TreeGrammar
