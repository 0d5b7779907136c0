import TreeGrammar.Proofs.Strategy.Transcript
set_option autoImplicit false

namespace TreeGrammar

variable {σ τ : Type}

structure Run.Alike (related : σ → τ → Prop) (first : Run σ) (second : Run τ) : Prop where
  graph : first.graph = second.graph
  completed : first.completed = second.completed
  log : first.log = second.log
  state : related first.state second.state

def Anyhow (_ : σ) (_ : τ) : Prop := True

inductive Parted : List Exchange → List Exchange → Prop where
  | here (question : Question) (a b : question.Answer) (later rest : List Exchange) (differ : a ≠ b) :
      Parted (⟨question, a⟩ :: later) (⟨question, b⟩ :: rest)
  | after (exchange : Exchange) (mine yours : List Exchange) (parted : Parted mine yours) :
      Parted (exchange :: mine) (exchange :: yours)

theorem parted_append (mine yours more rest : List Exchange) (parted : Parted mine yours) :
    Parted (mine ++ more) (yours ++ rest) := by
  induction parted with
  | here question a b later others differ =>
    exact .here question a b (later ++ more) (others ++ rest) differ
  | after exchange mine yours _ ih => exact .after exchange (mine ++ more) (yours ++ rest) ih

theorem parted_after (front mine yours : List Exchange) (parted : Parted mine yours) :
    Parted (front ++ mine) (front ++ yours) := by
  induction front with
  | nil => exact parted
  | cons exchange front ih => exact .after exchange (front ++ mine) (front ++ yours) ih

theorem never_parted (strategy : Strategy σ) (state last other : σ) (mine yours : List Exchange)
    (plays : strategy.Plays state mine last) (again : strategy.Plays state yours other) :
    ¬ Parted mine yours := by
  intro parted
  induction parted generalizing state with
  | here question a b later rest differ =>
    cases plays
    cases again
    exact differ rfl
  | after exchange mine yours _ ih =>
    cases plays with
    | cons question _ _ _ onward =>
      cases again with
      | cons _ _ _ _ also => exact ih _ onward also

namespace Growth

variable {α β γ : Type}

def Ends (related : σ → τ → Prop) (values : α → γ → Prop) :
    EStateM.Result Halt (Run σ) α → EStateM.Result Halt (Run τ) γ → Prop
  | .ok a before, .ok b after => values a b ∧ Run.Alike related before after
  | .error cause before, .error other after => cause = other ∧ Run.Alike related before after
  | _, _ => False

def endOf : EStateM.Result Halt (Run σ) α → Run σ
  | .ok _ run => run
  | .error _ run => run

-- Where it is `short`, the first may reach the limit of its depth before the second does.
inductive Pace (short : Prop) (first : EStateM.Result Halt (Run σ) α)
    (second : EStateM.Result Halt (Run τ) α) : List Exchange → List Exchange → Prop where
  | together {exchanges : List Exchange} (ends : Ends Anyhow Eq first second) :
      Pace short first second exchanges exchanges
  | parted {mine yours : List Exchange} (fork : Parted mine yours) :
      Pace short first second mine yours
  | cut {exchanges : List Exchange} (more : List Exchange) (run : Run σ) (allowed : short)
      (deep : first = .error .depthExceeded run) :
      Pace short first second exchanges (exchanges ++ more)

theorem pace_after (front mine yours : List Exchange) (short : Prop)
    (first : EStateM.Result Halt (Run σ) α) (second : EStateM.Result Halt (Run τ) α)
    (pace : Pace short first second mine yours) :
    Pace short first second (front ++ mine) (front ++ yours) := by
  cases pace with
  | together ends => exact .together ends
  | parted fork => exact .parted (parted_after front mine yours fork)
  | cut more run allowed deep =>
    rw [← List.append_assoc]
    exact .cut more run allowed deep

section

variable (strategy : Strategy σ) (other : Strategy τ) (short : Prop)

def Abreast (first : Growth σ α) (second : Growth τ α) : Prop :=
  ∀ s t, Run.Alike Anyhow s t →
    ∃ mine yours, strategy.Plays s.state mine (endOf (first s)).state ∧
      other.Plays t.state yours (endOf (second t)).state ∧
      Pace short (first s) (second t) mine yours

theorem abreast_plays (first : Growth σ α) (second : Growth τ α)
    (abreast : Abreast strategy other short first second) (run : Run σ) (state : τ) :
    ∃ exchanges, strategy.Plays run.state exchanges (endOf (first run)).state := by
  obtain ⟨mine, _, plays, _⟩ :=
    abreast run ⟨run.graph, run.completed, run.log, state⟩ ⟨rfl, rfl, rfl, trivial⟩
  exact ⟨mine, plays⟩

theorem abreast_plays_other (first : Growth σ α) (second : Growth τ α)
    (abreast : Abreast strategy other short first second) (run : Run τ) (state : σ) :
    ∃ exchanges, other.Plays run.state exchanges (endOf (second run)).state := by
  obtain ⟨_, yours, _, plays, _⟩ :=
    abreast ⟨run.graph, run.completed, run.log, state⟩ run ⟨rfl, rfl, rfl, trivial⟩
  exact ⟨yours, plays⟩

theorem bind_plays (part : Growth σ α) (next : α → Growth σ β) (run : Run σ)
    (exchanges : List Exchange)
    (plays : strategy.Plays run.state exchanges (endOf (part run)).state)
    (onward : ∀ a between, ∃ more, strategy.Plays between.state more (endOf (next a between)).state) :
    ∃ more, strategy.Plays run.state (exchanges ++ more) (endOf ((part >>= next) run)).state := by
  simp only [bind, EStateM.bind]
  cases ended : part run with
  | ok a between =>
    rw [ended] at plays
    obtain ⟨more, later⟩ := onward a between
    exact ⟨more, plays_append strategy _ _ _ exchanges more plays later⟩
  | error halt after =>
    rw [ended] at plays
    refine ⟨[], ?_⟩
    rw [List.append_nil]
    exact plays

theorem abreast_bind (first : Growth σ α) (second : Growth τ α) (next : α → Growth σ β)
    (onto : α → Growth τ β) (start : Abreast strategy other short first second)
    (onward : ∀ a, Abreast strategy other short (next a) (onto a)) :
    Abreast strategy other short (first >>= next) (second >>= onto) := by
  intro s t alike
  obtain ⟨mine, yours, plays, replays, pace⟩ := start s t alike
  -- Also where the parts are no longer together each of them plays on.
  have plays_on := bind_plays strategy first next s mine plays fun a between =>
    abreast_plays strategy other short (next a) (onto a) (onward a) between t.state
  have replays_on := bind_plays other second onto t yours replays fun a between =>
    abreast_plays_other strategy other short (next a) (onto a) (onward a) between s.state
  cases pace with
  | together ends =>
    simp only [bind, EStateM.bind]
    cases firstEnd : first s with
    | ok a after =>
      cases secondEnd : second t with
      | ok b later =>
        rw [firstEnd, secondEnd] at ends
        rw [firstEnd] at plays
        rw [secondEnd] at replays
        obtain ⟨rfl, still⟩ := ends
        obtain ⟨more, rest, more_plays, rest_plays, pace⟩ := onward a after later still
        refine ⟨mine ++ more, mine ++ rest, plays_append strategy _ _ _ mine more plays more_plays,
          plays_append other _ _ _ mine rest replays rest_plays, ?_⟩
        exact pace_after mine more rest short _ _ pace
      | error halt later => simp [firstEnd, secondEnd, Ends] at ends
    | error halt after =>
      cases secondEnd : second t with
      | ok b later => simp [firstEnd, secondEnd, Ends] at ends
      | error cause later =>
        rw [firstEnd, secondEnd] at ends
        rw [firstEnd] at plays
        rw [secondEnd] at replays
        exact ⟨mine, mine, plays, replays, .together ends⟩
  | parted fork =>
    obtain ⟨more, plays_on⟩ := plays_on
    obtain ⟨rest, replays_on⟩ := replays_on
    exact ⟨_, _, plays_on, replays_on, .parted (parted_append mine yours more rest fork)⟩
  | cut later run allowed deep =>
    obtain ⟨rest, replays_on⟩ := replays_on
    have ended : (first >>= next) s = .error .depthExceeded run := by
      simp only [bind, EStateM.bind, deep]
    rw [deep] at plays
    rw [List.append_assoc] at replays_on
    rw [ended]
    exact ⟨mine, _, plays, replays_on, .cut _ run allowed rfl⟩

theorem abreast_pure (a : α) : Abreast strategy other short (pure a) (pure a) := by
  intro s t alike
  exact ⟨[], [], .nil _, .nil _, .together ⟨rfl, alike⟩⟩

theorem abreast_throw (halt : Halt) :
    Abreast (α := α) strategy other short (throw halt) (throw halt) := by
  intro s t alike
  exact ⟨[], [], .nil _, .nil _, .together ⟨rfl, alike⟩⟩

theorem abreast_silent (first : Growth σ α) (second : Growth τ α)
    (keeps : ∀ s, (endOf (first s)).state = s.state) (holds : ∀ t, (endOf (second t)).state = t.state)
    (ends : ∀ s t, Run.Alike Anyhow s t → Ends Anyhow Eq (first s) (second t)) :
    Abreast strategy other short first second := by
  intro s t alike
  refine ⟨[], [], ?_, ?_, .together (ends s t alike)⟩
  · rw [keeps]
    exact .nil _
  · rw [holds]
    exact .nil _

theorem abreast_note (record : LogRecord) :
    Abreast strategy other short (note record) (note record) := by
  refine abreast_silent strategy other short _ _ (fun _ => rfl) (fun _ => rfl) ?_
  intro s t alike
  exact ⟨rfl, alike.graph, alike.completed, by simp only [alike.log], trivial⟩

theorem abreast_add_node (name : String) (parent target : Option NodeId) :
    Abreast strategy other short (addNode name parent target) (addNode name parent target) := by
  refine abreast_silent strategy other short _ _ (fun _ => rfl) (fun _ => rfl) ?_
  intro s t alike
  exact ⟨by simp only [alike.graph], by simp only [alike.graph], alike.completed, alike.log, trivial⟩

theorem abreast_attach (parent child : NodeId) :
    Abreast strategy other short (attach parent child) (attach parent child) := by
  refine abreast_silent strategy other short _ _ (fun _ => rfl) (fun _ => rfl) ?_
  intro s t alike
  exact ⟨rfl, by simp only [alike.graph], alike.completed, alike.log, trivial⟩

theorem abreast_complete (name : String) (node : NodeId) :
    Abreast strategy other short (complete name node) (complete name node) := by
  refine abreast_silent strategy other short _ _ (fun _ => rfl) (fun _ => rfl) ?_
  intro s t alike
  exact ⟨rfl, alike.graph, by simp only [alike.completed], alike.log, trivial⟩

theorem abreast_context_of (node : NodeId) :
    Abreast strategy other short (contextOf node) (contextOf node) := by
  refine abreast_silent strategy other short _ _ (fun _ => rfl) (fun _ => rfl) ?_
  intro s t alike
  exact ⟨by simp only [alike.graph], alike⟩

theorem abreast_context_of_parent (parent : Option NodeId) :
    Abreast strategy other short (contextOf? parent) (contextOf? parent) := by
  refine abreast_silent strategy other short _ _ (fun _ => rfl) (fun _ => rfl) ?_
  intro s t alike
  exact ⟨by simp only [alike.graph], alike⟩

theorem abreast_get (next : Run σ → Growth σ α) (onto : Run τ → Growth τ α)
    (onward : ∀ s t, Run.Alike Anyhow s t → Abreast strategy other short (next s) (onto t)) :
    Abreast strategy other short (get >>= next) (get >>= onto) := by
  intro s t alike
  exact onward s t alike s t alike

theorem abreast_check_target (reference : Reference) (target : NodeId) :
    Abreast strategy other short (checkTarget reference target) (checkTarget reference target) := by
  refine abreast_get strategy other short _ _ ?_
  intro s t alike
  rw [alike.graph, alike.completed]
  cases t.graph.node? target with
  | none => exact abreast_throw strategy other short _
  | some found =>
    by_cases named : found.name = reference.name
    · simp only [ne_eq, named, not_true_eq_false, if_false]
      split
      · exact abreast_pure strategy other short _
      · exact abreast_throw strategy other short _
    · simp only [ne_eq, named, not_false_eq_true, if_true]
      exact abreast_throw strategy other short _

theorem abreast_ask (question : Question) :
    Abreast strategy other short (ask strategy question) (ask other question) := by
  intro s t alike
  refine ⟨_, _, .cons question s.state _ [] (.nil _), .cons question t.state _ [] (.nil _), ?_⟩
  by_cases same : (strategy.answer question s.state).1 = (other.answer question t.state).1
  · rw [same]
    exact .together ⟨same, alike.graph, alike.completed, alike.log, trivial⟩
  · exact .parted (.here question _ _ [] [] same)

theorem abreast_decide_leaf (statement : Statement) (parent : Option NodeId) :
    Abreast strategy other short (decideLeaf strategy statement parent)
      (decideLeaf other statement parent) := by
  by_cases childless : statement.isLeaf
  · simp only [decideLeaf, childless, if_true]
    exact abreast_pure strategy other short true
  · simp only [decideLeaf, childless]
    refine abreast_bind strategy other short _ _ _ _ (abreast_context_of_parent strategy other short _) ?_
    intro context
    exact abreast_ask strategy other short (.leaf statement context)

theorem abreast_pick_alternative (statement : Statement) (parent : Option NodeId) :
    Abreast strategy other short (pickAlternative strategy statement parent)
      (pickAlternative other statement parent) := by
  unfold pickAlternative
  split
  · exact abreast_pure strategy other short _
  · refine abreast_bind strategy other short _ _ _ _ (abreast_context_of_parent strategy other short _) ?_
    intro context
    refine abreast_bind strategy other short _ _ _ _
      (abreast_ask strategy other short (.alternative statement context)) ?_
    intro (index : Nat)
    cases statement.alternatives[index]? with
    | none => exact abreast_throw strategy other short _
    | some alternative => exact abreast_pure strategy other short alternative

theorem abreast_pick_size (reference : Reference) (node : NodeId) :
    Abreast strategy other short (pickSize strategy reference node)
      (pickSize other reference node) := by
  unfold pickSize
  split
  · exact abreast_pure strategy other short 1
  · refine abreast_bind strategy other short _ _ _ _ (abreast_context_of strategy other short node) ?_
    intro context
    refine abreast_bind strategy other short _ _ _ _
      (abreast_ask strategy other short (.size reference context)) ?_
    intro (size : Nat)
    split
    · refine abreast_bind strategy other short _ _ _ _ (abreast_note strategy other short _) ?_
      intro _
      exact abreast_pure strategy other short size
    · exact abreast_throw strategy other short _

section

variable (grow : String → Option NodeId → Growth σ NodeId)
  (onto : String → Option NodeId → Growth τ NodeId)
  (growing : ∀ name parent, Abreast strategy other short (grow name parent) (onto name parent))
include growing

theorem abreast_add_child (reference : Reference) (node : NodeId) :
    Abreast strategy other short (addChild strategy grow reference node)
      (addChild other onto reference node) := by
  refine abreast_bind strategy other short _ _ _ _ (abreast_context_of strategy other short node) ?_
  intro context
  refine abreast_get strategy other short _ _ ?_
  intro s t alike
  rw [alike.completed]
  refine abreast_bind strategy other short _ _ _ _
    (abreast_ask strategy other short (.target reference context t.completed)) ?_
  intro (answer : Option NodeId)
  cases answer with
  | none =>
    refine abreast_bind strategy other short _ _ _ _ (growing reference.name (some node)) ?_
    intro child
    exact abreast_attach strategy other short node child
  | some target =>
    refine abreast_bind strategy other short _ _ _ _ (abreast_check_target strategy other short _ _) ?_
    intro _
    refine abreast_bind strategy other short _ _ _ _ (abreast_note strategy other short _) ?_
    intro _
    refine abreast_bind strategy other short _ _ _ _ (abreast_add_node strategy other short _ _ _) ?_
    intro child
    exact abreast_attach strategy other short node child

theorem abreast_add_children (reference : Reference) (node : NodeId) (count : Nat) :
    Abreast strategy other short (addChildren strategy grow reference node count)
      (addChildren other onto reference node count) := by
  induction count with
  | zero => exact abreast_pure strategy other short ()
  | succ count ih =>
    refine abreast_bind strategy other short _ _ _ _
      (abreast_add_child strategy other short grow onto growing reference node) ?_
    intro _
    exact ih

theorem abreast_fill_slots (node : NodeId) (alternative : Alternative) :
    Abreast strategy other short (fillSlots strategy grow node alternative)
      (fillSlots other onto node alternative) := by
  induction alternative with
  | nil => exact abreast_pure strategy other short ()
  | cons reference rest ih =>
    refine abreast_bind strategy other short _ _ _ _ (abreast_pick_size strategy other short _ _) ?_
    intro size
    refine abreast_bind strategy other short _ _ _ _
      (abreast_add_children strategy other short grow onto growing reference node size) ?_
    intro _
    exact ih

end

variable (definition : Definition)

theorem abreast_expand_succ (depth limit : Nat)
    (growing : ∀ name parent, Abreast strategy other short (expand definition strategy depth name parent)
      (expand definition other limit name parent)) (name : String) (parent : Option NodeId) :
    Abreast strategy other short (expand definition strategy (depth + 1) name parent)
      (expand definition other (limit + 1) name parent) := by
  refine abreast_bind strategy other short _ _ _ _ (abreast_note strategy other short _) ?_
  intro _
  cases definition.statement? name with
  | none => exact abreast_throw strategy other short _
  | some statement =>
    refine abreast_bind strategy other short _ _ _ _
      (abreast_decide_leaf strategy other short statement parent) ?_
    intro leaf
    refine abreast_bind strategy other short _ _ _ _ (abreast_add_node strategy other short _ _ _) ?_
    intro node
    by_cases bare : leaf = true
    · simp only [bare, if_true]
      exact abreast_pure strategy other short node
    · simp only [bare]
      refine abreast_bind strategy other short _ _ _ _
        (abreast_pick_alternative strategy other short statement parent) ?_
      intro alternative
      refine abreast_bind strategy other short _ _ _ _
        (abreast_fill_slots strategy other short _ _ growing node alternative) ?_
      intro _
      refine abreast_bind strategy other short _ _ _ _ (abreast_complete strategy other short _ _) ?_
      intro _
      exact abreast_pure strategy other short node

theorem abreast_expand (depth : Nat) (name : String) (parent : Option NodeId) :
    Abreast strategy other short (expand definition strategy depth name parent)
      (expand definition other depth name parent) := by
  induction depth generalizing name parent with
  | zero => exact abreast_throw strategy other short .depthExceeded
  | succ depth ih => exact abreast_expand_succ strategy other short definition depth depth ih name parent

theorem abreast_expand_deeper (depth limit : Nat) (lower : depth ≤ limit)
    (allowed : depth < limit → short) (name : String) (parent : Option NodeId) :
    Abreast strategy other short (expand definition strategy depth name parent)
      (expand definition other limit name parent) := by
  induction depth generalizing limit name parent with
  | zero =>
    cases limit with
    | zero => exact abreast_throw strategy other short .depthExceeded
    | succ limit =>
      intro s t alike
      obtain ⟨exchanges, plays⟩ := abreast_plays other other short _ _
        (abreast_expand other other short definition (limit + 1) name parent) t t.state
      exact ⟨[], _, .nil _, plays, .cut exchanges s (allowed (Nat.succ_pos limit)) rfl⟩
  | succ depth ih =>
    cases limit with
    | zero => exact absurd lower (Nat.not_succ_le_zero depth)
    | succ limit =>
      exact abreast_expand_succ strategy other short definition depth limit
        (ih limit (Nat.le_of_succ_le_succ lower) fun less => allowed (Nat.succ_lt_succ less)) name parent

end

end Growth

end TreeGrammar
