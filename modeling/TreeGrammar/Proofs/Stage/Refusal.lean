import TreeGrammar.Proofs.Definition.Complete
import TreeGrammar.Proofs.Growth
import TreeGrammar.Proofs.Stage.Standing
set_option autoImplicit false

namespace TreeGrammar

variable {σ : Type}

namespace Exchange

def Accepted : Exchange → Prop
  | ⟨.leaf _ _, _⟩ => True
  | ⟨.alternative statement _, index⟩ => index < statement.alternatives.length
  | ⟨.size reference _, size⟩ => reference.multiplicity.admits size
  | ⟨.target reference _ completed, answer⟩ =>
    ∀ target ∈ answer, target ∈ completed.named reference.name

-- A target that is not completed counts as misnamed only where it is a node with another name
-- than the slot.
def refusal? : Exchange → Option GenerationError
  | ⟨.leaf _ _, _⟩ => none
  | ⟨.alternative statement _, index⟩ =>
    if index < statement.alternatives.length then none
    else some (.alternativeOutOfRange statement.name index statement.alternatives.length)
  | ⟨.size reference _, size⟩ =>
    if reference.multiplicity.admits size then none else some (.sizeOutOfRange reference size)
  | ⟨.target _ _ _, none⟩ => none
  | ⟨.target reference context completed, some target⟩ =>
    if target ∈ completed.named reference.name then none
    else
      match context.graph.node? target with
      | none => some (.unknownTarget target reference.name)
      | some found =>
        if found.name = reference.name then some (.unknownTarget target reference.name)
        else some (.targetNameMismatch target found.name reference.name)

theorem refusal_none_iff (exchange : Exchange) : exchange.refusal? = none ↔ exchange.Accepted := by
  obtain ⟨question, answer⟩ := exchange
  cases question with
  | leaf statement context => exact iff_of_true rfl trivial
  | alternative statement context =>
    simp only [refusal?, Accepted]
    split
    · rename_i inside
      exact iff_of_true rfl inside
    · rename_i outside
      exact iff_of_false nofun outside
  | size reference context =>
    simp only [refusal?, Accepted]
    split
    · rename_i admitted
      exact iff_of_true rfl admitted
    · rename_i refused
      exact iff_of_false nofun refused
  | target reference context completed =>
    cases answer with
    | none => exact iff_of_true rfl nofun
    | some target =>
      simp only [refusal?, Accepted, Option.mem_some_iff, forall_eq']
      by_cases known : target ∈ completed.named reference.name
      · rw [if_pos known]
        exact iff_of_true rfl known
      · rw [if_neg known]
        refine iff_of_false ?_ known
        split
        · nofun
        · split <;> nofun

end Exchange

def Definition.Declares (definition : Definition) (name : String) : Prop :=
  ∃ statement, definition.statement? name = some statement

theorem declares_iff (definition : Definition) (name : String) :
    definition.Declares name ↔ definition.contains name = true := by
  rw [Definition.Declares, ← Option.isSome_iff_exists, Definition.statement?, Option.isSome_map]
  rfl

def Frame.Declared (definition : Definition) (frame : Frame) : Prop :=
  (∀ reference ∈ frame.lacking, definition.Declares reference.name) ∧
    ∀ reference ∈ frame.slots, definition.Declares reference.name

def Stage.Declared (definition : Definition) : Stage → Prop
  | visit name stack => definition.Declares name ∧ ∀ frame ∈ stack, frame.Declared definition
  | branch statement _ stack =>
    (definition.statement? statement.name = some statement ∧ statement.isLeaf = false) ∧
      ∀ frame ∈ stack, frame.Declared definition
  | fill frame stack => ∀ open_frame ∈ frame :: stack, open_frame.Declared definition
  | made _ stack => ∀ frame ∈ stack, frame.Declared definition

def Frame.Left (holds : String → Reference → Prop) (frame : Frame) : Prop :=
  (∀ reference ∈ frame.lacking, holds frame.name reference) ∧
    ∀ reference ∈ frame.slots, holds frame.name reference

theorem opened_left (holds : String → Reference → Prop) (node : NodeId) (name : String)
    (reference : Reference) (slots : Alternative) (size : Nat)
    (left : (Frame.mk node name [] (reference :: slots)).Left holds) :
    (Frame.mk node name (List.replicate size reference) slots).Left holds := by
  obtain ⟨here, later⟩ := List.forall_mem_cons.1 left.2
  refine ⟨?_, later⟩
  intro child member
  rw [List.eq_of_mem_replicate member]
  exact here

section

variable (definition : Definition) (strategy : Strategy σ) (stage next : Stage) (run after : Run σ)
  (asked : List Exchange)

theorem declared_frames (declared : stage.Declared definition) :
    ∀ frame ∈ stage.frames, frame.Declared definition := by
  cases stage with
  | visit | branch => exact declared.2
  | fill | made => exact declared

theorem declared_stated (declared : stage.Declared definition) (statement : Statement)
    (node : NodeId) (stack : List Frame) (here : stage = .branch statement node stack) :
    definition.statement? statement.name = some statement := by
  subst here
  exact declared.1.1

theorem step_frames (holds : String → Reference → Prop)
    (taken : ∀ statement alternative, definition.statement? statement.name = some statement →
      alternative ∈ statement.alternatives → ∀ reference ∈ alternative, holds statement.name reference)
    (step : Step definition strategy stage run asked next after)
    (stated : ∀ statement node stack, stage = .branch statement node stack →
      definition.statement? statement.name = some statement)
    (kept : ∀ frame ∈ stage.frames, frame.Left holds) : ∀ frame ∈ next.frames, frame.Left holds := by
  cases step with
  | leaf | bare | begun | attached => exact kept
  | only statement node stack run alternative single =>
    have among : alternative ∈ statement.alternatives := by
      rw [single]
      exact .head _
    exact List.forall_mem_cons.2
      ⟨⟨nofun, taken statement alternative (stated statement node stack rfl) among⟩, kept⟩
  | chosen statement node stack run index state alternative _ _ found =>
    exact List.forall_mem_cons.2 ⟨⟨nofun, taken statement alternative
      (stated statement node stack rfl) (List.mem_of_getElem? found)⟩, kept⟩
  | one node name reference slots stack =>
    obtain ⟨here, below⟩ := List.forall_mem_cons.1 kept
    exact List.forall_mem_cons.2 ⟨opened_left holds node name reference slots 1 here, below⟩
  | sized node name reference slots stack run size =>
    obtain ⟨here, below⟩ := List.forall_mem_cons.1 kept
    exact List.forall_mem_cons.2 ⟨opened_left holds node name reference slots size here, below⟩
  | fresh | reused =>
    obtain ⟨here, below⟩ := List.forall_mem_cons.1 kept
    exact List.forall_mem_cons.2 ⟨⟨(List.forall_mem_cons.1 here.1).2, here.2⟩, below⟩
  | completed => exact (List.forall_mem_cons.1 kept).2

theorem step_declared (step : Step definition strategy stage run asked next after)
    (declared : stage.Declared definition) : next.Declared definition := by
  have frames : ∀ frame ∈ next.frames, frame.Declared definition :=
    step_frames definition strategy stage next run after asked
      (fun _ reference => definition.Declares reference.name)
      (fun statement alternative stated => definition.reference_leads statement.name statement stated
        alternative)
      step (declared_stated definition stage declared) (declared_frames definition stage declared)
  cases step with
  | begun _ _ _ _ stated branching => exact ⟨⟨stated, branching⟩, frames⟩
  | fresh node name reference lacking slots stack =>
    have open_frame := (List.forall_mem_cons.1 declared).1
    exact ⟨(List.forall_mem_cons.1 open_frame.1).1, frames⟩
  | leaf | bare | only | chosen | one | sized | reused | completed | attached => exact frames

theorem step_accepted (step : Step definition strategy stage run asked next after)
    (exchange : Exchange) (member : exchange ∈ asked) : exchange.refusal? = none := by
  rw [Exchange.refusal_none_iff]
  cases step with
  | leaf => cases member
  | bare =>
    rw [List.mem_singleton.1 member]
    trivial
  | begun =>
    rw [List.mem_singleton.1 member]
    trivial
  | only => cases member
  | chosen _ _ _ _ _ _ _ _ _ found =>
    rw [List.mem_singleton.1 member]
    exact (List.getElem?_eq_some_iff.1 found).1
  | one => cases member
  | sized _ _ _ _ _ _ _ _ _ _ admitted =>
    rw [List.mem_singleton.1 member]
    exact admitted
  | fresh =>
    rw [List.mem_singleton.1 member]
    nofun
  | reused _ _ _ _ _ _ _ _ _ _ known =>
    rw [List.mem_singleton.1 member]
    intro chosen same
    cases same
    exact known
  | completed => cases member
  | attached => cases member

end

theorem target_refused (reference : Reference) (node target : NodeId) (run : Run σ)
    (cause : GenerationError)
    (recorded : ∀ id ∈ run.completed.named reference.name, run.graph.Original reference.name id)
    (refused : Growth.checkTarget reference target run = .error (.error cause) run) :
    Exchange.refusal? ⟨.target reference ⟨run.graph, node⟩ run.completed, some target⟩ = some cause := by
  rw [Growth.check_target_run] at refused
  -- The run looks the target up before it seeks it among the completed nodes. That comes to the same
  -- since completed nodes have the name under which they are found.
  have unfinished : target ∉ run.completed.named reference.name := by
    intro known
    obtain ⟨found, present, named, _⟩ := recorded target known
    rw [present] at refused
    simp only [named, ne_eq, not_true_eq_false, if_false,
      Array.contains_iff_mem.2 known, if_true] at refused
    cases refused
  rw [Exchange.refusal?, if_neg unfinished]
  cases present : run.graph.node? target with
  | none =>
    rw [present] at refused
    cases refused
    rfl
  | some found =>
    rw [present] at refused
    by_cases named : found.name = reference.name
    · have unlisted : ¬ (run.completed.named reference.name).contains target :=
        fun listed => unfinished (Array.contains_iff_mem.1 listed)
      simp only [named, ne_eq, not_true_eq_false, if_false, if_neg unlisted] at refused
      cases refused
      simp only [named, if_true]
    · simp only [ne_eq, named, not_false_eq_true, if_true] at refused
      cases refused
      simp only [named, if_false]

theorem halts_refused (definition : Definition) (strategy : Strategy σ) (stage : Stage)
    (run after : Run σ) (refused : List Exchange) (cause : GenerationError)
    (halts : Halts definition strategy stage run refused cause after)
    (declared : stage.Declared definition) (stands : stage.Stands run) :
    ∃ exchange, refused = [exchange] ∧ exchange.refusal? = some cause := by
  cases halts with
  | unknown name stack run missing =>
    obtain ⟨⟨statement, stated⟩, _⟩ := declared
    rw [missing] at stated
    cases stated
  | alternative statement node stack run index state several answered missing =>
    refine ⟨_, rfl, ?_⟩
    rw [Exchange.refusal?, if_neg (Nat.not_lt.2 (List.getElem?_eq_none_iff.1 missing))]
  | size node name reference slots stack run size state several answered refused =>
    refine ⟨_, rfl, ?_⟩
    rw [Exchange.refusal?, if_neg refused]
  | target node name reference lacking slots stack run target state cause answered refused =>
    exact ⟨_, rfl, target_refused reference node target { run with state } cause
      (fun id known => (stands.recorded reference.name id known).2) refused⟩

theorem reaches_accepted (definition : Definition) (strategy : Strategy σ) (stage last : Stage)
    (run after : Run σ) (exchanges : List Exchange)
    (reaches : Reaches definition strategy stage run exchanges last after) (exchange : Exchange)
    (member : exchange ∈ exchanges) : exchange.refusal? = none := by
  induction reaches with
  | refl => cases member
  | step stage next last run between after asked rest first _ ih =>
    rcases List.mem_append.1 member with now | later
    · exact step_accepted _ _ stage next run between asked first exchange now
    · exact ih later

theorem refusal_known (exchange : Exchange) (name : String) :
    exchange.refusal? ≠ some (.unknownStatement name) := by
  obtain ⟨question, answer⟩ := exchange
  cases question with
  | leaf => nofun
  | alternative statement context =>
    simp only [Exchange.refusal?]
    split <;> nofun
  | size reference context =>
    simp only [Exchange.refusal?]
    split <;> nofun
  | target reference context completed =>
    cases answer with
    | none => nofun
    | some target =>
      simp only [Exchange.refusal?]
      split
      · nofun
      · split
        · nofun
        · split <;> nofun

namespace Generator

variable (generator : Generator σ) (root : String) (exchanges : List Exchange) (stage : Stage)
  (run : Run (Array Exchange × σ))

theorem comes_declared (known : generator.definition.Declares root)
    (comes : generator.Comes root exchanges stage run) : stage.Declared generator.definition :=
  reaches_invariant (fun stage _ => stage.Declared generator.definition)
    (fun stage run asked next after => step_declared _ _ stage next run after asked) comes
    ⟨known, nofun⟩

theorem comes_unknown (unknown : generator.definition.statement? root = none)
    (comes : generator.Comes root exchanges stage run) :
    exchanges = [] ∧ stage = .visit root [] := by
  cases comes with
  | refl => exact ⟨rfl, rfl⟩
  | step _ next _ _ between _ asked rest first _ =>
    cases first with
    | leaf statement _ _ stated => simp [unknown] at stated
    | bare statement _ _ _ stated => simp [unknown] at stated
    | begun statement _ _ _ stated => simp [unknown] at stated

variable (depth : Nat)

theorem unknown_root_ends (unknown : generator.definition.statement? root = none)
    (ends : (generator.generate depth root).1.result ≠ .error .depthExceeded) :
    generator.transcript depth root = [] ∧
      (generator.generate depth root).1.result = .error (.error (.unknownStatement root)) := by
  cases generator.generate_ending depth root with
  | grown exchanges node run comes =>
    obtain ⟨_, elsewhere⟩ := generator.comes_unknown root exchanges _ run unknown comes
    cases elsewhere
  | halted exchanges refused stage run after cause comes halts transcript result =>
    obtain ⟨rfl, rfl⟩ := generator.comes_unknown root exchanges stage run unknown comes
    cases halts with
    | unknown => exact ⟨transcript, result⟩
  | deep exchanges name stack run comes limit transcript result => exact absurd result ends

theorem unknown_root_fails (unknown : generator.definition.statement? root = none)
    (positive : 0 < depth) :
    (generator.generate depth root).1.result = .error (.error (.unknownStatement root)) := by
  refine (generator.unknown_root_ends root depth unknown ?_).2
  intro cut
  cases generator.generate_ending depth root with
  | grown exchanges node run comes transcript result => cases result.symm.trans cut
  | halted exchanges refused stage run after cause comes halts transcript result =>
    cases result.symm.trans cut
  | deep exchanges name stack run comes limit =>
    obtain ⟨_, start⟩ := generator.comes_unknown root exchanges _ run unknown comes
    cases start
    exact absurd limit (Nat.ne_of_lt positive)

theorem known_root_ends (known : generator.definition.Declares root) :
    ((∀ cause, (generator.generate depth root).1.result ≠ .error (.error cause)) ∧
      ∀ exchange ∈ generator.transcript depth root, exchange.refusal? = none) ∨
    ∃ front last cause, generator.transcript depth root = front ++ [last] ∧
      (generator.generate depth root).1.result = .error (.error cause) ∧
      last.refusal? = some cause ∧ ∀ exchange ∈ front, exchange.refusal? = none := by
  cases generator.generate_ending depth root with
  | grown exchanges node run comes transcript result =>
    rw [transcript, result]
    exact .inl ⟨nofun, reaches_accepted _ _ _ _ _ _ exchanges comes⟩
  | halted exchanges refused stage run after cause comes halts transcript result =>
    obtain ⟨last, rfl, deserved⟩ := halts_refused _ _ stage run after refused cause halts
      (generator.comes_declared root exchanges stage run known comes)
      (generator.comes_stands root exchanges stage run comes)
    exact .inr ⟨exchanges, last, cause, transcript, result, deserved,
      reaches_accepted _ _ _ _ _ _ exchanges comes⟩
  | deep exchanges name stack run comes limit transcript result =>
    rw [transcript, result]
    exact .inl ⟨nofun, reaches_accepted _ _ _ _ _ _ exchanges comes⟩

theorem known_root_fails (known : generator.definition.Declares root) :
    (∀ name, (generator.generate depth root).1.result ≠ .error (.error (.unknownStatement name))) ∧
    (∀ cause, (generator.generate depth root).1.result = .error (.error cause) ↔
      ∃ last, (generator.transcript depth root).getLast? = some last ∧ last.refusal? = some cause) ∧
    ∀ earlier ∈ (generator.transcript depth root).dropLast, earlier.refusal? = none := by
  rcases generator.known_root_ends root depth known with
    ⟨succeeds, accepted⟩ | ⟨front, last, cause, transcript, result, deserved, accepted⟩
  · refine ⟨fun name => succeeds _, ?_, ?_⟩
    · intro cause
      refine iff_of_false (succeeds cause) ?_
      rintro ⟨last, final, refused⟩
      rw [accepted last (List.mem_of_getLast? final)] at refused
      cases refused
    · intro earlier member
      exact accepted earlier ((List.dropLast_sublist _).subset member)
  · rw [transcript, result, List.getLast?_concat, List.dropLast_concat]
    refine ⟨?_, ?_, accepted⟩
    · intro name same
      cases same
      exact refusal_known last name deserved
    · intro other
      constructor
      · intro same
        cases same
        exact ⟨last, rfl, deserved⟩
      · rintro ⟨_, same, refused⟩
        cases same
        rw [deserved] at refused
        cases refused
        rfl

end Generator

theorem fails_at_refusal (generator : Generator σ) (depth : Nat) (root : String)
    (ends : (generator.generate depth root).1.result ≠ .error .depthExceeded) :
    (∀ name, (generator.generate depth root).1.result = .error (.error (.unknownStatement name)) ↔
      name = root ∧ generator.definition.contains root = false) ∧
    (generator.definition.contains root = false → generator.transcript depth root = []) ∧
    (generator.definition.contains root = true → ∀ cause,
      (generator.generate depth root).1.result = .error (.error cause) ↔
        ∃ last, (generator.transcript depth root).getLast? = some last ∧
          last.refusal? = some cause) ∧
    ∀ earlier ∈ (generator.transcript depth root).dropLast, earlier.refusal? = none := by
  cases declared : generator.definition.contains root with
  | false =>
    have unknown : generator.definition.statement? root = none := by
      rw [Definition.statement?, Option.map_eq_none_iff]
      exact Option.isNone_iff_eq_none.1 (Option.isSome_eq_false_iff.1 declared)
    obtain ⟨silent, result⟩ := generator.unknown_root_ends root depth unknown ends
    rw [result, silent]
    refine ⟨?_, fun _ => rfl, fun other => absurd other Bool.false_ne_true,
      fun _ none => absurd none List.not_mem_nil⟩
    intro name
    constructor
    · intro same
      cases same
      exact ⟨rfl, rfl⟩
    · rintro ⟨rfl, _⟩
      rfl
  | true =>
    have known := (declares_iff generator.definition root).2 declared
    obtain ⟨declines, fails, accepted⟩ := generator.known_root_fails root depth known
    refine ⟨?_, fun other => absurd other.symm Bool.false_ne_true, fun _ => fails, accepted⟩
    intro name
    exact iff_of_false (declines name) fun other => Bool.false_ne_true other.2.symm

def misnamingGenerator : Generator Script :=
  { boxGenerator with
    state := { Script.empty with size := ⟨[2], 0⟩, target := ⟨[.noAlias], .context⟩ } }

theorem misnaming_fails_at_refusal :
    (misnamingGenerator.generate 3 "box").1.result ≠ .error .depthExceeded ∧
      (∃ last, (misnamingGenerator.transcript 3 "box").getLast? = some last ∧
        last.refusal? = some (.targetNameMismatch 0 "box" "item")) ∧
      ∀ earlier ∈ (misnamingGenerator.transcript 3 "box").dropLast, earlier.refusal? = none := by
  have result : (misnamingGenerator.generate 3 "box").1.result =
      .error (.error (.targetNameMismatch 0 "box" "item")) := by decide +kernel
  have ends : (misnamingGenerator.generate 3 "box").1.result ≠ .error .depthExceeded := by
    rw [result]
    intro same
    cases same
  obtain ⟨_, _, fails, accepted⟩ := fails_at_refusal misnamingGenerator 3 "box" ends
  exact ⟨ends, (fails rfl _).1 result, accepted⟩

end TreeGrammar
