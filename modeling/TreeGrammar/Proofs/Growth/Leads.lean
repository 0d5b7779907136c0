import TreeGrammar.Generation
import TreeGrammar.Proofs.Strategy.Completed
import TreeGrammar.Proofs.Strategy.Transcript
import TreeGrammar.Proofs.Sprout
set_option autoImplicit false

namespace TreeGrammar

variable {σ : Type}

structure Run.Leads (strategy : Strategy σ) (before after : Run σ)
    (completions : List (String × NodeId)) (decisions : List Decision) (records : List LogRecord) :
    Prop where
  completed : after.completed = before.completed.recordAll completions
  log : after.log.toList = before.log.toList ++ records
  plays : ∃ exchanges, strategy.Plays before.state exchanges after.state ∧
    exchanges.map Exchange.decision = decisions

theorem leads_refl (strategy : Strategy σ) (run : Run σ) (graph : Graph) :
    Run.Leads strategy run { run with graph } [] [] [] :=
  ⟨rfl, (List.append_nil _).symm, [], .nil _, rfl⟩

theorem leads_trans (strategy : Strategy σ) (before middle after : Run σ)
    (earlier later : List (String × NodeId)) (first second : List Decision)
    (front back : List LogRecord) (start : Run.Leads strategy before middle earlier first front)
    (rest : Run.Leads strategy middle after later second back) :
    Run.Leads strategy before after (earlier ++ later) (first ++ second) (front ++ back) := by
  obtain ⟨asked, played, rfl⟩ := start.plays
  obtain ⟨more, onward, rfl⟩ := rest.plays
  refine ⟨?_, ?_, asked ++ more, plays_append strategy _ _ _ _ _ played onward, List.map_append⟩
  · rw [rest.completed, start.completed, Completed.record_all_append]
  · rw [rest.log, start.log, List.append_assoc]

namespace Growth

theorem bind_ok {α β : Type} (first : Growth σ α) (next : α → Growth σ β) (before after : Run σ)
    (result : β) :
    (first >>= next) before = .ok result after ↔
      ∃ value middle, first before = .ok value middle ∧ next value middle = .ok result after := by
  simp only [bind, EStateM.bind]
  cases start : first before with
  | ok value middle =>
    constructor
    · intro finish
      exact ⟨value, middle, rfl, finish⟩
    · rintro ⟨_, _, same, finish⟩
      cases same
      exact finish
  | error cause middle =>
    constructor
    · intro finish
      cases finish
    · rintro ⟨_, _, same, _⟩
      cases same

theorem pure_ok {α : Type} (value result : α) (before after : Run σ)
    (success : (pure value : Growth σ α) before = .ok result after) :
    value = result ∧ before = after := by
  cases success
  exact ⟨rfl, rfl⟩

theorem note_ok (record : LogRecord) (before after : Run σ) (done : Unit)
    (success : note record before = .ok done after) :
    after = { before with log := before.log.push record } := by
  cases success
  rfl

theorem ask_leads (strategy : Strategy σ) (question : Question) (before after : Run σ)
    (answer : question.Answer) (success : ask strategy question before = .ok answer after) :
    after.graph = before.graph ∧
      Run.Leads strategy before after [] [Exchange.decision ⟨question, answer⟩] [] := by
  cases success
  exact ⟨rfl, rfl, (List.append_nil _).symm, _, .cons question before.state _ [] (.nil _), rfl⟩

theorem note_leads (strategy : Strategy σ) (record : LogRecord) (before : Run σ) :
    Run.Leads strategy before { before with log := before.log.push record } [] [] [record] :=
  ⟨rfl, Array.toList_push, [], .nil _, rfl⟩

theorem complete_leads (strategy : Strategy σ) (name : String) (node : NodeId) (before : Run σ) :
    Run.Leads strategy before { before with completed := before.completed.record name node }
      [(name, node)] [] [] :=
  ⟨rfl, (List.append_nil _).symm, [], .nil _, rfl⟩

-- At the root no graph is shown, so there the graph must be empty.
theorem decide_leaf_leads (strategy : Strategy σ) (statement : Statement) (parent : Option NodeId)
    (before after : Run σ) (leaf : Bool) (rooted : parent = none → before.graph.size = 0)
    (success : decideLeaf strategy statement parent before = .ok leaf after) :
    after.graph = before.graph ∧ (statement.isLeaf → leaf = true) ∧
      Run.Leads strategy before after []
        (if statement.isLeaf then [] else [.leaf statement before.graph.size leaf]) [] := by
  unfold decideLeaf at success
  by_cases childless : statement.isLeaf
  · rw [if_pos childless] at success
    obtain ⟨rfl, rfl⟩ := pure_ok _ _ _ _ success
    refine ⟨rfl, fun _ => rfl, ?_⟩
    rw [if_pos childless]
    exact leads_refl strategy before before.graph
  · rw [if_neg childless, bind_ok] at success
    obtain ⟨context, middle, looked, asked⟩ := success
    cases looked
    obtain ⟨kept, leads⟩ := ask_leads strategy _ _ _ _ asked
    refine ⟨kept, fun contrary => absurd contrary childless, ?_⟩
    rw [if_neg childless]
    cases parent with
    | none => simpa only [Exchange.decision, Option.map_none, Option.getD_none, rooted rfl] using leads
    | some above => exact leads

theorem pick_alternative_asked (strategy : Strategy σ) (statement : Statement)
    (parent : Option NodeId) (several : statement.alternatives.length ≠ 1) :
    pickAlternative strategy statement parent = (do
      let index : Nat ← ask strategy (.alternative statement (← contextOf? parent))
      match statement.alternatives[index]? with
      | some alternative => return alternative
      | none => fail (.alternativeOutOfRange statement.name index statement.alternatives.length)) := by
  unfold pickAlternative
  split
  · rename_i only single
    exact absurd (congrArg List.length single) several
  · rfl

theorem pick_alternative_leads (strategy : Strategy σ) (statement : Statement)
    (parent : Option NodeId) (node : Nat) (before after : Run σ) (alternative : Alternative)
    (newest : before.graph.size = node + 1) (rooted : parent = none → node = 0)
    (success : pickAlternative strategy statement parent before = .ok alternative after) :
    after.graph = before.graph ∧ ∃ index, statement.alternatives[index]? = some alternative ∧
      Run.Leads strategy before after []
        (if statement.alternatives.length = 1 then [] else [.alternative statement node index]) [] := by
  by_cases single : statement.alternatives.length = 1
  · obtain ⟨only, alternatives⟩ := List.length_eq_one_iff.1 single
    rw [pickAlternative, alternatives] at success
    obtain ⟨rfl, rfl⟩ := pure_ok _ _ _ _ success
    refine ⟨rfl, 0, by rw [alternatives]; rfl, ?_⟩
    rw [if_pos single]
    exact leads_refl strategy before before.graph
  · rw [pick_alternative_asked strategy statement parent single, bind_ok] at success
    obtain ⟨context, middle, looked, success⟩ := success
    cases looked
    rw [bind_ok] at success
    obtain ⟨index, asked, questioned, success⟩ := success
    obtain ⟨kept, leads⟩ := ask_leads strategy _ _ _ _ questioned
    cases found : statement.alternatives[index]? with
    | none =>
      rw [found] at success
      cases success
    | some chosen =>
      rw [found] at success
      obtain ⟨rfl, rfl⟩ := pure_ok _ _ _ _ success
      refine ⟨kept, index, found, ?_⟩
      rw [if_neg single]
      cases parent with
      | none => simpa only [Exchange.decision, Option.map_none, Option.getD_none, rooted rfl] using leads
      | some above =>
        simpa only [Exchange.decision, Option.map_some, Option.getD_some, newest,
          Nat.add_sub_cancel] using leads

theorem pick_size_asked (strategy : Strategy σ) (reference : Reference) (node : NodeId)
    (several : reference.multiplicity ≠ .exactlyOne) :
    pickSize strategy reference node = (do
      let size : Nat ← ask strategy (.size reference (← contextOf node))
      if reference.multiplicity.admits size then
        note (.sized reference node size)
        return size
      else fail (.sizeOutOfRange reference size)) := by
  unfold pickSize
  split
  · rename_i single
    exact absurd single several
  · rfl

theorem pick_size_leads (strategy : Strategy σ) (reference : Reference) (node : NodeId)
    (before after : Run σ) (size : Nat)
    (success : pickSize strategy reference node before = .ok size after) :
    after.graph = before.graph ∧ reference.multiplicity.admits size ∧
      Run.Leads strategy before after [] (Slot.decisions node ⟨reference, size⟩)
        (Slot.records node ⟨reference, size⟩) := by
  by_cases single : reference.multiplicity = .exactlyOne
  · rw [pickSize, single] at success
    obtain ⟨rfl, rfl⟩ := pure_ok _ _ _ _ success
    rw [Slot.decisions, Slot.records, if_pos single, if_pos single, single]
    exact ⟨rfl, rfl, leads_refl strategy before before.graph⟩
  · rw [pick_size_asked strategy reference node single, bind_ok] at success
    obtain ⟨context, middle, looked, success⟩ := success
    cases looked
    rw [bind_ok] at success
    obtain ⟨answer, asked, questioned, success⟩ := success
    obtain ⟨kept, leads⟩ := ask_leads strategy _ _ _ _ questioned
    by_cases admitted : reference.multiplicity.admits answer
    · rw [if_pos admitted, bind_ok] at success
      obtain ⟨done, noted, recorded, success⟩ := success
      have written := note_ok _ _ _ _ recorded
      obtain ⟨rfl, rfl⟩ := pure_ok _ _ _ _ success
      subst written
      rw [Slot.decisions, Slot.records, if_neg single, if_neg single]
      exact ⟨kept, admitted, leads_trans strategy _ _ _ _ _ _ _ _ _ leads
        (note_leads strategy (.sized reference node answer) asked)⟩
    · rw [if_neg admitted] at success
      cases success

theorem check_target_ok (reference : Reference) (target : NodeId) (before after : Run σ)
    (done : Unit) (success : checkTarget reference target before = .ok done after) :
    before = after ∧ target ∈ before.completed.named reference.name := by
  unfold checkTarget at success
  rw [bind_ok] at success
  obtain ⟨run, middle, looked, success⟩ := success
  cases looked
  cases found : before.graph.node? target with
  | none =>
    rw [found] at success
    cases success
  | some node =>
    rw [found] at success
    by_cases other : node.name ≠ reference.name
    · simp only [if_pos other] at success
      cases success
    · by_cases known : (before.completed.named reference.name).contains target
      · simp only [if_neg other, if_pos known] at success
        exact ⟨(pure_ok _ _ _ _ success).2, Array.contains_iff_mem.1 known⟩
      · simp only [if_neg other, if_neg known] at success
        cases success

end Growth

end TreeGrammar
