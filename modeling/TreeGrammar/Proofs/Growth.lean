import Mathlib.Control.Monad.Basic
import TreeGrammar.Proofs.Graph.Planted
import TreeGrammar.Proofs.Growth.Filled
import TreeGrammar.Proofs.Strategy.Simulation
import TreeGrammar.Strategy.Scripted
set_option autoImplicit false

namespace TreeGrammar

namespace Generator

variable {σ : Type}

structure Grows (generator : Generator σ) (depth : Nat) (root : String) (graph : Graph)
    (sprout : Sprout) : Prop where
  name : sprout.name = root
  fresh : sprout.part.target? = none
  conforms : sprout.Conforms generator.definition
  sound : sprout.Sound [] 0
  planted : graph.Planted sprout
  decisions : generator.decisions depth root = sprout.decisions 0
  completed : (generator.generate depth root).2.completed =
    Completed.recordAll ∅ (sprout.completions 0)
  log : (generator.generate depth root).1.log.toList =
    .started root :: sprout.records 0 none ++ [.finished root graph.size]

theorem generate_ok (generator : Generator σ) (depth : Nat) (root : String) (graph : Graph)
    (success : (generator.generate depth root).1.result = .ok graph) :
    ∃ node after, Growth.expand generator.definition generator.strategy depth root none
        ⟨.empty, ∅, #[.started root], generator.state⟩ = .ok node after ∧
      graph = after.graph ∧
      (generator.generate depth root).1.log = after.log.push (.finished root after.graph.size) ∧
      (generator.generate depth root).2.completed = after.completed ∧
      (generator.generate depth root).2.state = after.state := by
  obtain ⟨node, after, ended, whole⟩ | ⟨halt, after, log, _, whole⟩ :=
    generator.generate_cases depth root
  · rw [whole] at success ⊢
    cases success
    exact ⟨node, after, ended, rfl, rfl, rfl, rfl⟩
  · rw [whole] at success
    cases success

theorem generate_grows (generator : Generator σ) (depth : Nat) (root : String) (graph : Graph)
    (success : (generator.generate depth root).1.result = .ok graph) :
    ∃ sprout, generator.Grows depth root graph sprout := by
  obtain ⟨sameOutcome, sameCompleted⟩ := generate_noting id generator depth root
  rw [sameOutcome] at success
  obtain ⟨node, after, expanded, rfl, log, completed, state⟩ :=
    generate_ok _ depth root graph success
  obtain ⟨sprout, name, fresh, _, conforms, grown, leads, sound⟩ :=
    Growth.expand_grows _ _ depth root none _ after node (fun _ => rfl) expanded
  obtain ⟨exchanges, plays, decided⟩ := leads.plays
  refine ⟨sprout, name, fresh, conforms, sound [] rfl, ?_, ?_, ?_, ?_⟩
  · rw [grown]
    simp [Graph.Planted, Graph.extend, Graph.empty, Graph.size]
  · have noted := plays_noting id generator.strategy _ _ exchanges plays
    rw [decisions, transcript, state, noted, List.map_id]
    exact decided
  · rw [sameCompleted, completed]
    exact leads.completed
  · rw [sameOutcome, log, Array.toList_push, leads.log]
    rfl

end Generator

-- A box with two items, the second of which is an alias of the first.
def boxGenerator : Generator Script :=
  .new
    ⟨⟨[("box", [[⟨"item", .anyNumber⟩]]), ("item", [[⟨"label", .atMostOne⟩]]), ("label", [])],
      by decide⟩, by decide⟩
    .scripted { Script.empty with size := ⟨[2], 0⟩, target := ⟨[.noAlias], .firstCompleted⟩ }

def boxGraph : Graph :=
  ⟨#[⟨"box", #[1, 2], none, none⟩, ⟨"item", #[], some 0, none⟩, ⟨"item", #[], some 0, some 1⟩]⟩

theorem box_generated : (boxGenerator.generate 3 "box").1.result = .ok boxGraph := by decide +kernel

end TreeGrammar
