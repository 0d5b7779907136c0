import TreeGrammar.Proofs.Definition.Complete
set_option autoImplicit false

namespace TreeGrammar

namespace NameMap

variable {α : Type}

theorem contains_insert (map : NameMap α) (name other : String) (value : α) :
    (map.insert name value).contains other = true ↔ other = name ∨ map.contains other = true := by
  rw [contains, get?_insert]
  by_cases here : other = name
  · simp [here]
  · simp [here, contains]

theorem eq_of_get (first second : NameMap α) (same : ∀ name, first.get? name = second.get? name) :
    first = second := by
  have distinct : ∀ map : NameMap α, map.entries.Nodup := by
    intro map
    apply map.ordered.imp
    intro a b less equal
    rw [equal] at less
    exact String.lt_irrefl _ less
  have listed : ∀ entry, entry ∈ first.entries ↔ entry ∈ second.entries := by
    intro entry
    rw [← Prod.mk.eta (p := entry), mem_entries_iff, mem_entries_iff, same]
  have permuted := (List.perm_ext_iff_of_nodup (distinct first) (distinct second)).2 listed
  apply map_eq
  apply permuted.eq_of_pairwise _ first.ordered second.ordered
  intro a b _ _ less more
  exact absurd more (String.lt_asymm less)

end NameMap

namespace Definition

theorem declare_error (declarations : List Declaration) (statements : Statements)
    (again : Declaration) (failure : declare statements declarations = .error again) :
    ∃ front back declared, declarations = front ++ again :: back ∧
      declare statements front = .ok declared ∧ declared.contains again.name = true := by
  induction declarations generalizing statements with
  | nil => cases failure
  | cons first rest ih =>
    rw [declare] at failure
    by_cases known : statements.contains first.name = true
    · rw [if_pos known] at failure
      cases failure
      exact ⟨[], rest, statements, rfl, rfl, known⟩
    · rw [if_neg known] at failure
      obtain ⟨front, back, declared, rfl, success, repeated⟩ := ih _ failure
      refine ⟨first :: front, back, declared, rfl, ?_, repeated⟩
      rw [declare, if_neg known]
      exact success

theorem declare_names (declarations : List Declaration) (statements declared : Statements)
    (success : declare statements declarations = .ok declared) :
    (declarations.map Declaration.name).Nodup ∧
      (∀ name ∈ declarations.map Declaration.name, ¬ statements.contains name = true) ∧
      ∀ name, declared.contains name = true ↔
        name ∈ declarations.map Declaration.name ∨ statements.contains name = true := by
  induction declarations generalizing statements with
  | nil =>
    cases success
    simp
  | cons first rest ih =>
    rw [declare] at success
    by_cases known : statements.contains first.name = true
    · rw [if_pos known] at success
      cases success
    · rw [if_neg known] at success
      obtain ⟨distinct, fresh, names⟩ := ih _ success
      simp only [NameMap.contains_insert, not_or] at fresh names
      refine ⟨?_, ?_, ?_⟩
      · exact List.nodup_cons.2 ⟨fun member => (fresh _ member).1 rfl, distinct⟩
      · exact List.forall_mem_cons.2 ⟨known, fun name member => (fresh name member).2⟩
      · intro name
        rw [names name, List.map_cons, List.mem_cons, or_assoc, or_left_comm]

theorem declare_contains (declarations : List Declaration) (declared : Statements)
    (success : declare ∅ declarations = .ok declared) (name : String) :
    declared.contains name = true ↔ name ∈ declarations.map Declaration.name := by
  rw [(declare_names declarations ∅ declared success).2.2 name, or_iff_left]
  nofun

end Definition

inductive Judged (source : String) (declarations : List Declaration) :
    Except GrammarError Definition → Prop where
  | repeated (front back : List Declaration) (again : Declaration)
      (split : declarations = front ++ again :: back)
      (distinct : (front.map Declaration.name).Nodup)
      (known : again.name ∈ front.map Declaration.name) :
      Judged source declarations
        (.error ⟨.duplicateStatement again.name, some ⟨source, again.position⟩⟩)
  | undefined (before after : List Mention) (mention : Mention)
      (distinct : (declarations.map Declaration.name).Nodup)
      (split : declarations.flatMap Declaration.mentions = before ++ mention :: after)
      (declared : ∀ earlier ∈ before, earlier.name ∈ declarations.map Declaration.name)
      (unknown : mention.name ∉ declarations.map Declaration.name) :
      Judged source declarations
        (.error ⟨.undefinedReference mention.name, some ⟨source, mention.position⟩⟩)
  | sound (definition : Definition) (distinct : (declarations.map Declaration.name).Nodup)
      (declared : ∀ mention ∈ declarations.flatMap Declaration.mentions,
        mention.name ∈ declarations.map Declaration.name)
      (held : ∀ name statement, definition.statement? name = some statement ↔
        ∃ declaration ∈ declarations, declaration.name = name ∧
          statement = ⟨name, (declaration.contents.getD []).map fun alternative =>
            alternative.map fun mention => ⟨mention.name, mention.tag.getD .exactlyOne⟩⟩) :
      Judged source declarations (.ok definition)

theorem first_unique {α : Type} (before others after rest : List α) (a b : α)
    (split : before ++ a :: after = others ++ b :: rest)
    (notLater : ∀ more, before ≠ others ++ b :: more)
    (notSooner : ∀ more, others ≠ before ++ a :: more) : a = b := by
  rcases List.append_eq_append_iff.1 split with ⟨more, same, tail⟩ | ⟨more, same, tail⟩
  · cases more with
    | nil => exact (List.cons.inj tail).1
    | cons c more =>
      obtain ⟨rfl, _⟩ := List.cons.inj tail
      exact absurd same (notSooner more)
  · cases more with
    | nil => exact (List.cons.inj tail).1.symm
    | cons c more =>
      obtain ⟨rfl, _⟩ := List.cons.inj tail
      exact absurd same (notLater more)

theorem repeated_names (front back : List Declaration) (again : Declaration)
    (known : again.name ∈ front.map Declaration.name) :
    ¬ ((front ++ again :: back).map Declaration.name).Nodup := by
  intro distinct
  rw [List.map_append, List.nodup_append] at distinct
  exact distinct.2.2 again.name known again.name (.head _) rfl

theorem definition_eq (first second : Definition)
    (same : ∀ name, first.statement? name = second.statement? name) : first = second := by
  obtain ⟨statements, closed⟩ := first
  obtain ⟨others, closedOthers⟩ := second
  have one : statements = others := by
    apply NameMap.eq_of_get
    intro name
    have found := same name
    simp only [Definition.statement?] at found
    exact Option.map_injective (fun a b equal => congrArg Statement.alternatives equal) found
  subst one
  rfl

section

variable (source : String) (declarations : List Declaration)

theorem judged_of_declarations :
    Judged source declarations (Definition.ofDeclarations source declarations) := by
  generalize outcome : Definition.ofDeclarations source declarations = result
  have complete := fun definition success =>
    Definition.of_declarations_complete source declarations definition (outcome.trans success)
  unfold Definition.ofDeclarations at outcome
  split at outcome
  · rename_i again failure
    obtain ⟨front, back, declared, split, success, known⟩ :=
      Definition.declare_error declarations ∅ again failure
    rw [← outcome]
    exact .repeated front back again split (Definition.declare_names front ∅ declared success).1
      ((Definition.declare_contains front declared success _).1 known)
  · rename_i declared success
    have distinct := (Definition.declare_names declarations ∅ declared success).1
    have names := Definition.declare_contains declarations declared success
    split at outcome
    · rename_i mention undefined
      obtain ⟨unknown, before, after, split, earlier⟩ := List.find?_eq_some_iff_append.1 undefined
      rw [← outcome]
      refine .undefined before after mention distinct split ?_ ?_
      · intro other member
        rw [← names]
        simpa using earlier other member
      · rw [← names]
        simpa using unknown
    · rename_i known
      rw [← outcome]
      refine .sound _ distinct ?_ ?_
      · intro mention member
        rw [← names]
        simpa using List.find?_eq_none.1 known mention member
      · intro name statement
        rw [(complete _ outcome.symm).keyed name statement, List.mem_map]
        constructor
        · rintro ⟨⟨declaration, member, rfl⟩, rfl⟩
          exact ⟨declaration, member, rfl, rfl⟩
        · rintro ⟨declaration, member, rfl, rfl⟩
          exact ⟨⟨declaration, member, rfl⟩, rfl⟩

theorem judged_unique (result other : Except GrammarError Definition)
    (first : Judged source declarations result) (second : Judged source declarations other) :
    result = other := by
  cases first with
  | repeated front back again split distinct known =>
    cases second with
    | repeated others rest later same apart also =>
      have one : again = later := by
        apply first_unique front others back rest again later (split.symm.trans same)
        · rintro more rfl
          exact repeated_names others more later also distinct
        · rintro more rfl
          exact repeated_names front more again known apart
      rw [one]
    | undefined _ _ _ all => exact absurd (split ▸ all) (repeated_names front back again known)
    | sound _ all => exact absurd (split ▸ all) (repeated_names front back again known)
  | undefined before after mention distinct split declared unknown =>
    cases second with
    | repeated front back again same _ known =>
      exact absurd (same ▸ distinct) (repeated_names front back again known)
    | undefined others rest later _ same known missing =>
      have one : mention = later := by
        apply first_unique before others after rest mention later (split.symm.trans same)
        · rintro more rfl
          exact missing (declared later (List.mem_append_right _ (.head _)))
        · rintro more rfl
          exact unknown (known mention (List.mem_append_right _ (.head _)))
      rw [one]
    | sound _ _ known =>
      exact absurd (known mention (split ▸ List.mem_append_right _ (.head _))) unknown
  | sound definition distinct declared held =>
    cases second with
    | repeated front back again same _ known =>
      exact absurd (same ▸ distinct) (repeated_names front back again known)
    | undefined before after mention _ same _ missing =>
      exact absurd (declared mention (same ▸ List.mem_append_right _ (.head _))) missing
    | sound another _ _ kept =>
      have one : definition = another := by
        apply definition_eq
        intro name
        apply Option.ext
        intro statement
        rw [held, kept]
      rw [one]

end

theorem declarations_judged (source : String) (declarations : List Declaration)
    (result : Except GrammarError Definition) :
    Definition.ofDeclarations source declarations = result ↔ Judged source declarations result := by
  constructor
  · rintro rfl
    exact judged_of_declarations source declarations
  · intro judged
    exact judged_unique source declarations _ result (judged_of_declarations source declarations) judged

-- Two names are declared twice and one nowhere; the second `b` is reached first.
example : Definition.ofDeclarations "notes" [⟨"a", ⟨1, 1⟩, some [[⟨"c", none, ⟨1, 4⟩⟩]]⟩,
    ⟨"b", ⟨2, 1⟩, none⟩, ⟨"b", ⟨3, 1⟩, none⟩, ⟨"a", ⟨4, 1⟩, none⟩] =
      .error ⟨.duplicateStatement "b", some ⟨"notes", ⟨3, 1⟩⟩⟩ := rfl

end TreeGrammar
