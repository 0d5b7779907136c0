import TreeGrammar.Proofs.Random.Stream
import TreeGrammar.Proofs.Stage.Careful
set_option autoImplicit false

namespace TreeGrammar

namespace RandomChoice

def drawChecked (width low high : Nat) (stream : RandomStream) : Option (Nat × RandomStream) :=
  if low < high then
    let (more, after) := stream.below width (high - low)
    some (low + more, after)
  else none

def answerChecked (settings : Settings) :
    (question : Question) → RandomStream → Option (question.Answer × RandomStream)
  | .leaf _ context, stream => some (leaf settings context stream)
  | .alternative statement _, stream =>
    if statement.isLeaf then some (0, stream)
    else drawChecked 64 0 statement.alternatives.length stream
  | .size reference context, stream =>
    if settings.maxDepth ≤ context.depth + 1 then some (reference.multiplicity.least, stream)
    else
      drawChecked 64 reference.multiplicity.least
        (greatestSize settings reference.multiplicity + 1) stream
  | .target reference _ completed, stream =>
    let candidates := completed.named reference.name
    if reference.name ∈ settings.noAlias ∨ candidates.isEmpty then some (none, stream)
    else
      let (reuse, after) := stream.chance settings.aliasProbability
      if reuse then
        (drawChecked 32 0 candidates.size after).map fun (index, after) => (candidates[index]?, after)
      else some (none, after)

theorem least_le_greatest (settings : Settings) (multiplicity : Multiplicity) :
    multiplicity.least ≤ greatestSize settings multiplicity := by
  cases multiplicity <;> simp [greatestSize, Multiplicity.repeats, Multiplicity.least]

theorem between_admitted (settings : Settings) (multiplicity : Multiplicity) (size : Nat)
    (least : multiplicity.least ≤ size) (greatest : size ≤ greatestSize settings multiplicity) :
    multiplicity.admits size := by
  cases multiplicity <;>
    simp_all [greatestSize, Multiplicity.repeats, Multiplicity.admits, Multiplicity.most?]

theorem alternatives_nonempty (statement : Statement) (branching : ¬ statement.isLeaf) :
    0 < statement.alternatives.length := by
  rw [Statement.isLeaf, List.isEmpty_iff] at branching
  exact List.length_pos_iff.2 branching

section

variable (settings : Settings) (stream : RandomStream)

theorem alternative_lt (statement : Statement) (branching : ¬ statement.isLeaf) :
    (alternative statement stream).1 < statement.alternatives.length := by
  rw [alternative, if_neg branching]
  exact RandomStream.below_lt 64 _ (.inr rfl) (alternatives_nonempty statement branching) stream

theorem size_between (reference : Reference) (context : Context) :
    reference.multiplicity.least ≤ (size settings reference context stream).1 ∧
      (size settings reference context stream).1 ≤ greatestSize settings reference.multiplicity := by
  have order := least_le_greatest settings reference.multiplicity
  rw [size]
  split
  · exact ⟨Nat.le_refl _, order⟩
  · have more := RandomStream.below_lt 64
      (greatestSize settings reference.multiplicity - reference.multiplicity.least + 1) (.inr rfl)
      (Nat.succ_pos _) stream
    refine ⟨Nat.le_add_right _ _, ?_⟩
    change _ + (stream.below 64 _).1 ≤ _
    omega

theorem size_admitted (reference : Reference) (context : Context) :
    reference.multiplicity.admits (size settings reference context stream).1 := by
  obtain ⟨least, greatest⟩ := size_between settings stream reference context
  exact between_admitted settings reference.multiplicity _ least greatest

theorem target_completed (reference : Reference) (completed : Completed) (id : NodeId)
    (chosen : (target settings reference completed stream).1 = some id) :
    id ∈ completed.named reference.name := by
  simp only [target] at chosen
  split at chosen
  · cases chosen
  · split at chosen
    · exact Array.mem_of_getElem? chosen
    · cases chosen

end

theorem answer_checked (settings : Settings) (question : Question) (stream : RandomStream) :
    answerChecked settings question stream = some ((Strategy.random settings).answer question stream) := by
  cases question with
  | leaf statement context => rfl
  | alternative statement context =>
    by_cases childless : statement.isLeaf
    · simp [answerChecked, Strategy.random, alternative, childless]
    · have nonempty := alternatives_nonempty statement childless
      simp [answerChecked, drawChecked, Strategy.random, alternative, childless, nonempty]
  | size reference context =>
    have order := least_le_greatest settings reference.multiplicity
    have width : greatestSize settings reference.multiplicity + 1 - reference.multiplicity.least =
        greatestSize settings reference.multiplicity - reference.multiplicity.least + 1 :=
      Nat.sub_add_comm order
    by_cases lowest : settings.maxDepth ≤ context.depth + 1
    · simp [answerChecked, Strategy.random, size, lowest]
    · simp [answerChecked, drawChecked, Strategy.random, size, lowest, Nat.lt_succ_of_le order, width]
  | target reference context completed =>
    simp only [answerChecked, Strategy.random, target]
    split
    · rfl
    · rename_i open_to
      have nonempty : 0 < (completed.named reference.name).size := by
        rw [not_or] at open_to
        simpa [Nat.pos_iff_ne_zero] using open_to.2
      split
      · simp [drawChecked, nonempty]
      · rfl

end RandomChoice

theorem random_careful (settings : Settings) :
    (Strategy.random settings).Careful settings.maxDepth := by
  constructor
  · intro question stream branching
    cases question with
    | leaf statement context => trivial
    | alternative statement context =>
      exact RandomChoice.alternative_lt stream statement (by simp_all [Question.Branching])
    | size reference context => exact RandomChoice.size_admitted settings stream reference context
    | target reference context completed =>
      intro id chosen
      exact RandomChoice.target_completed settings stream reference completed id chosen
  · intro statement context stream deep
    change (RandomChoice.leaf settings context stream).1 = true
    rw [RandomChoice.leaf, if_pos deep]

theorem random_runs_succeed (definition : Definition) (settings : Settings) (stream : RandomStream)
    (completed : Completed) (root : String) (declared : definition.contains root = true) :
    let generator : Generator RandomStream := ⟨definition, .random settings, stream, completed⟩
    (∀ depth cause, (generator.generate depth root).1.result ≠ .error (.error cause)) ∧
      (∀ depth, max settings.maxDepth 1 ≤ depth →
        ∃ graph, (generator.generate depth root).1.result = .ok graph) ∧
      (∀ depth, ∀ exchange ∈ generator.transcript depth root, exchange.Accepted) ∧
      ∀ question stream, RandomChoice.answerChecked settings question stream =
        some ((Strategy.random settings).answer question stream) := by
  intro generator
  have known := (declares_iff definition root).2 declared
  have careful := random_careful settings
  exact ⟨fun depth => generator.careful_succeeds _ careful root depth known,
    fun depth => generator.careful_ends _ careful root depth known,
    fun depth => generator.careful_accepted _ careful root depth known,
    RandomChoice.answer_checked settings⟩

-- Every link holds at least one more link, so only the greatest depth ends a chain.
def chainDefinition : Definition :=
  ⟨⟨[("link", [[⟨"link", .atLeastOne⟩]])], by decide⟩, by decide⟩

theorem random_chain_ends :
    chainDefinition.contains "link" = true ∧
      ∃ graph, ((Generator.mk chainDefinition (.random .standard) (.ofSeed 7) ∅).generate 8 "link").1.result =
        .ok graph :=
  ⟨by decide, (random_runs_succeed chainDefinition .standard (.ofSeed 7) ∅ "link" (by decide)).2.1 8
    (by decide)⟩

end TreeGrammar
