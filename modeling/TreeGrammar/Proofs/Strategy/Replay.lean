import TreeGrammar.Proofs.Growth
import TreeGrammar.Proofs.Strategy.Depth
set_option autoImplicit false

namespace TreeGrammar

variable {σ τ : Type}

inductive Reply where
  | yes (answer : Bool)
  | number (answer : Nat)
  | target (answer : Option NodeId)
deriving DecidableEq

def Exchange.reply : Exchange → Reply
  | ⟨.leaf _ _, answer⟩ => .yes answer
  | ⟨.alternative _ _, answer⟩ => .number answer
  | ⟨.size _ _, answer⟩ => .number answer
  | ⟨.target _ _ _, answer⟩ => .target answer

def Reply.answer? : Reply → (question : Question) → Option question.Answer
  | yes answer, .leaf _ _ => some answer
  | number answer, .alternative _ _ => some answer
  | number answer, .size _ _ => some answer
  | target answer, .target _ _ _ => some answer
  | _, _ => none

def Question.fallback : (question : Question) → question.Answer
  | leaf _ _ => true
  | alternative _ _ => (0 : Nat)
  | size _ _ => (0 : Nat)
  | target _ _ _ => (none : Option NodeId)

-- The state is lost with the first question that the list has no reply to.
def Strategy.playback : Strategy (Option (List Reply)) where
  answer question state :=
    match state with
    | none => (question.fallback, none)
    | some [] => (question.fallback, none)
    | some (reply :: rest) =>
      match reply.answer? question with
      | none => (question.fallback, none)
      | some answer => (answer, some rest)

theorem reply_answer (question : Question) (answer : question.Answer) :
    (Exchange.reply ⟨question, answer⟩).answer? question = some answer := by
  cases question <;> rfl

theorem reply_injective (question : Question) (a b : question.Answer)
    (same : Exchange.reply ⟨question, a⟩ = Exchange.reply ⟨question, b⟩) : a = b := by
  have answers := reply_answer question a
  rw [same, reply_answer question b] at answers
  exact (Option.some.inj answers).symm

theorem playback_plays (exchanges : List Exchange) (rest : List Reply) :
    Strategy.playback.Plays (some (exchanges.map Exchange.reply ++ rest)) exchanges (some rest) := by
  induction exchanges with
  | nil => exact .nil _
  | cons exchange later ih =>
    obtain ⟨question, answer⟩ := exchange
    have answered : Strategy.playback.answer question
        (some (Exchange.reply ⟨question, answer⟩ :: (later.map Exchange.reply ++ rest))) =
        (answer, some (later.map Exchange.reply ++ rest)) := by
      simp only [Strategy.playback, reply_answer]
    exact plays_append .playback _ _ _ [⟨question, answer⟩] later (plays_one question _ _ answer answered) ih

theorem beginnings_alike (mine yours front other : List Exchange) (parted : Parted mine yours)
    (begins : front <+: mine) (also : other <+: yours)
    (replies : front.map Exchange.reply = other.map Exchange.reply) : front = other := by
  induction parted generalizing front other with
  | here question a b later rest differ =>
    cases front with
    | nil => exact (List.map_eq_nil_iff.1 replies.symm).symm
    | cons asked front =>
      cases other with
      | nil => cases replies
      | cons known other =>
        obtain ⟨rfl, -⟩ := List.cons_prefix_cons.1 begins
        obtain ⟨rfl, -⟩ := List.cons_prefix_cons.1 also
        exact absurd (reply_injective question a b (List.cons.inj replies).1) differ
  | after exchange mine yours _ ih =>
    cases front with
    | nil => exact (List.map_eq_nil_iff.1 replies.symm).symm
    | cons asked front =>
      cases other with
      | nil => cases replies
      | cons known other =>
        obtain ⟨rfl, onward⟩ := List.cons_prefix_cons.1 begins
        obtain ⟨rfl, follows⟩ := List.cons_prefix_cons.1 also
        rw [ih front other onward follows (List.cons.inj replies).2]

theorem next_alike (mine yours front : List Exchange) (question : Question)
    (answer : question.Answer) (parted : Parted mine yours)
    (begins : front ++ [⟨question, answer⟩] <+: mine) (also : front <+: yours) :
    ∃ answer, front ++ [⟨question, answer⟩] <+: yours := by
  induction parted generalizing front with
  | here asked a b later rest differ =>
    cases front with
    | nil =>
      obtain ⟨same, -⟩ := List.cons_prefix_cons.1 begins
      cases same
      exact ⟨b, rest, rfl⟩
    | cons exchange front =>
      obtain ⟨rfl, -⟩ := List.cons_prefix_cons.1 begins
      obtain ⟨same, -⟩ := List.cons_prefix_cons.1 also
      cases same
      exact absurd rfl differ
  | after exchange mine yours _ ih =>
    cases front with
    | nil =>
      obtain ⟨rfl, -⟩ := List.cons_prefix_cons.1 begins
      exact ⟨answer, yours, rfl⟩
    | cons asked front =>
      obtain ⟨rfl, onward⟩ := List.cons_prefix_cons.1 begins
      obtain ⟨-, follows⟩ := List.cons_prefix_cons.1 also
      obtain ⟨reply, next⟩ := ih front onward follows
      exact ⟨reply, List.cons_prefix_cons.2 ⟨rfl, next⟩⟩

namespace Generator

def Calls (generator : Generator σ) (root : String) (exchanges : List Exchange) : Prop :=
  ∃ depth, exchanges <+: generator.transcript depth root

def playback (generator : Generator σ) (replies : List Reply) : Generator (Option (List Reply)) :=
  { generator with strategy := .playback, state := some replies }

theorem calls_meet (first : Generator σ) (second : Generator τ) (root : String)
    (mine yours : List Exchange) (calls : first.Calls root mine) (also : second.Calls root yours) :
    ∃ depth, mine <+: first.transcript depth root ∧ yours <+: second.transcript depth root := by
  obtain ⟨depth, begins⟩ := calls
  obtain ⟨limit, follows⟩ := also
  exact ⟨max depth limit,
    begins.trans (first.transcript_deeper depth _ (Nat.le_max_left depth limit) root),
    follows.trans (second.transcript_deeper limit _ (Nat.le_max_right depth limit) root)⟩

theorem calls_alike (first : Generator σ) (second : Generator τ)
    (shared : first.definition = second.definition) (root : String) (mine yours : List Exchange)
    (calls : first.Calls root mine) (also : second.Calls root yours)
    (replies : mine.map Exchange.reply = yours.map Exchange.reply) : mine = yours := by
  obtain ⟨depth, begins, follows⟩ := calls_meet first second root mine yours calls also
  obtain same | parted := same_depth_courses first second shared depth root
  · rw [← same.transcript] at follows
    have length : mine.length = yours.length := by simpa using congrArg List.length replies
    exact (List.prefix_of_prefix_length_le begins follows (Nat.le_of_eq length)).eq_of_length length
  · exact beginnings_alike _ _ mine yours parted begins follows replies

theorem next_call_alike (first : Generator σ) (second : Generator τ)
    (shared : first.definition = second.definition) (root : String) (exchanges : List Exchange)
    (calls : second.Calls root exchanges) (question : Question)
    (next : ∃ answer, first.Calls root (exchanges ++ [⟨question, answer⟩])) :
    ∃ answer, second.Calls root (exchanges ++ [⟨question, answer⟩]) := by
  obtain ⟨answer, asks⟩ := next
  obtain ⟨depth, begins, follows⟩ := calls_meet first second root _ exchanges asks calls
  obtain same | parted := same_depth_courses first second shared depth root
  · rw [same.transcript] at begins
    exact ⟨answer, depth, begins⟩
  · obtain ⟨reply, further⟩ := next_alike _ _ exchanges question answer parted begins follows
    exact ⟨reply, depth, further⟩

theorem replies_coincide (first : Generator σ) (second : Generator τ)
    (shared : first.definition = second.definition) (depth : Nat) (root : String)
    (yours : List Exchange) (also : second.Calls root yours)
    (replies : (first.transcript depth root).map Exchange.reply = yours.map Exchange.reply) :
    first.Coincide second depth depth root := by
  obtain same | parted := same_depth_courses first second shared depth root
  · exact same
  · have alike := calls_alike first second shared root (first.transcript depth root) yours
      ⟨depth, List.prefix_refl _⟩ also replies
    obtain ⟨limit, begins⟩ := also
    obtain ⟨more, whole⟩ := begins
    rw [← alike] at whole
    have parted := parted_append _ _ more [] parted
    rw [whole, List.append_nil] at parted
    exact absurd parted (never_parted second.strategy second.state _ _ _ _
      (second.transcript_plays limit root) (second.transcript_plays depth root))

theorem calls_end (generator : Generator σ) (root : String) (exchanges : List Exchange)
    (calls : generator.Calls root exchanges)
    (last : ∀ question answer, ¬ generator.Calls root (exchanges ++ [⟨question, answer⟩])) :
    ∃ depth, generator.transcript depth root = exchanges ∧
      (generator.generate depth root).1.result ≠ .error .depthExceeded := by
  have whole : ∀ depth, generator.transcript depth root <+: exchanges := by
    intro depth
    obtain ⟨limit, begins, follows⟩ :=
      calls_meet generator generator root exchanges _ calls ⟨depth, List.prefix_refl _⟩
    rcases List.prefix_or_prefix_of_prefix follows begins with within | ⟨more, beyond⟩
    · exact within
    · cases more with
      | nil => exact ⟨[], by rw [List.append_nil, ← beyond, List.append_nil]⟩
      | cons next more =>
        refine absurd ⟨depth, more, ?_⟩ (last next.question next.answer)
        rw [List.append_assoc]
        exact beyond
  have ends : (generator.generate (exchanges.length + 1) root).1.result ≠ .error .depthExceeded := by
    intro deep
    have long := generator.deep_exchanges _ root deep
    have short := (whole (exchanges.length + 1)).length_le
    omega
  obtain ⟨depth, begins⟩ := calls
  have deeper := begins.trans
    (generator.transcript_deeper depth _ (Nat.le_max_left depth (exchanges.length + 1)) root)
  rw [← (generator.generate_deeper _ _ (Nat.le_max_right depth _) root ends).transcript] at deeper
  exact ⟨_, (whole _).eq_of_length_le deeper.length_le, ends⟩

theorem no_call_after (generator : Generator σ) (depth : Nat) (root : String)
    (ends : (generator.generate depth root).1.result ≠ .error .depthExceeded) (question : Question)
    (answer : question.Answer) :
    ¬ generator.Calls root (generator.transcript depth root ++ [⟨question, answer⟩]) := by
  rintro ⟨limit, begins⟩
  have deeper := begins.trans
    (generator.transcript_deeper limit _ (Nat.le_max_right depth limit) root)
  rw [← (generator.generate_deeper _ _ (Nat.le_max_left depth limit) root ends).transcript] at deeper
  have length := deeper.length_le
  rw [List.length_append, List.length_singleton] at length
  omega

theorem playback_coincides (generator : Generator σ) (depth : Nat) (root : String) :
    let replies := (generator.transcript depth root).map Exchange.reply
    generator.Coincide (generator.playback replies) depth depth root ∧
      ((generator.playback replies).generate depth root).2.state = some [] := by
  intro replies
  have plays : Strategy.playback.Plays (some replies) (generator.transcript depth root) (some []) := by
    have plays := playback_plays (generator.transcript depth root) []
    rwa [List.append_nil] at plays
  have replays := (generator.playback replies).transcript_plays depth root
  obtain same | parted := same_depth_courses generator (generator.playback replies) rfl depth root
  · rw [same.transcript] at plays
    exact ⟨same, plays_unique .playback _ _ _ _ replays plays⟩
  · exact absurd parted (never_parted .playback _ _ _ _ _ plays replays)

theorem runs_follow_answers (first : Generator σ) (second : Generator τ)
    (shared : first.definition = second.definition) (root : String) :
    (∀ mine yours, first.Calls root mine → second.Calls root yours →
      mine.map Exchange.reply = yours.map Exchange.reply →
      mine = yours ∧
      (∀ question, (∃ answer, first.Calls root (mine ++ [⟨question, answer⟩])) ↔
        ∃ answer, second.Calls root (yours ++ [⟨question, answer⟩])) ∧
      ((∀ question answer, ¬ first.Calls root (mine ++ [⟨question, answer⟩])) →
        ∃ depth, first.transcript depth root = mine ∧
          (first.generate depth root).1.result ≠ .error .depthExceeded ∧
          first.Coincide second depth depth root)) ∧
    ∀ depth,
      (∀ yours, second.Calls root yours →
        (first.transcript depth root).map Exchange.reply = yours.map Exchange.reply →
        first.Coincide second depth depth root) ∧
      let replies := (first.transcript depth root).map Exchange.reply
      first.Coincide (first.playback replies) depth depth root ∧
        ((first.playback replies).generate depth root).2.state = some [] := by
  constructor
  · intro mine yours calls also replies
    have same := calls_alike first second shared root mine yours calls also replies
    subst same
    refine ⟨rfl, fun question => ⟨?_, ?_⟩, ?_⟩
    · exact next_call_alike first second shared root mine also question
    · exact next_call_alike second first shared.symm root mine calls question
    · intro last
      obtain ⟨depth, whole, ends⟩ := first.calls_end root mine calls last
      exact ⟨depth, whole, ends, replies_coincide first second shared depth root mine also (whole ▸ rfl)⟩
  · intro depth
    exact ⟨replies_coincide first second shared depth root, first.playback_coincides depth root⟩

end Generator

def boxReplies : List Reply :=
  [.yes false, .number 2, .target none, .yes false, .number 0, .target (some 1)]

theorem box_replies : (boxGenerator.transcript 3 "box").map Exchange.reply = boxReplies := by decide +kernel

theorem box_repeated :
    ((boxGenerator.playback boxReplies).transcript 3 "box").map Exchange.reply = boxReplies := by decide +kernel

theorem box_shortened :
    ((boxGenerator.playback (boxReplies.take 5)).transcript 3 "box").map Exchange.reply =
      boxReplies.take 5 ++ [.target none, .yes true] := by decide +kernel

theorem box_follows_answers :
    (∀ question,
      (∃ answer, boxGenerator.Calls "box"
        ((boxGenerator.transcript 3 "box").take 5 ++ [⟨question, answer⟩])) ↔
      ∃ answer, (boxGenerator.playback (boxReplies.take 5)).Calls "box"
        (((boxGenerator.playback (boxReplies.take 5)).transcript 3 "box").take 5 ++
          [⟨question, answer⟩])) ∧
    (∃ depth, boxGenerator.transcript depth "box" = boxGenerator.transcript 3 "box" ∧
      (boxGenerator.generate depth "box").1.result ≠ .error .depthExceeded ∧
      boxGenerator.Coincide (boxGenerator.playback boxReplies) depth depth "box") ∧
    boxGenerator.Coincide (boxGenerator.playback boxReplies) 3 3 "box" ∧
    ((boxGenerator.playback boxReplies).generate 3 "box").1.result = .ok boxGraph ∧
    ((boxGenerator.playback boxReplies).generate 3 "box").2.state = some [] := by
  have ends : (boxGenerator.generate 3 "box").1.result ≠ .error .depthExceeded := by
    rw [box_generated]
    nofun
  have same := box_replies.trans box_repeated.symm
  obtain ⟨alike, _⟩ :=
    Generator.runs_follow_answers boxGenerator (boxGenerator.playback (boxReplies.take 5)) rfl "box"
  have five := alike _ _ ⟨3, List.take_prefix 5 _⟩ ⟨3, List.take_prefix 5 _⟩
    (by rw [List.map_take, List.map_take, box_replies, box_shortened]; rfl)
  obtain ⟨repeats, replays⟩ :=
    Generator.runs_follow_answers boxGenerator (boxGenerator.playback boxReplies) rfl "box"
  have ended := repeats _ _ ⟨3, List.prefix_refl _⟩ ⟨3, List.prefix_refl _⟩ same
  obtain ⟨coincides, _, last⟩ := replays 3
  have whole := coincides _ ⟨3, List.prefix_refl _⟩ same
  rw [box_replies] at last
  exact ⟨five.2.1, ended.2.2 (boxGenerator.no_call_after 3 "box" ends), whole,
    whole.outcome ▸ box_generated, last⟩

end TreeGrammar
