import Mathlib.Data.List.Nodup
import TreeGrammar.Proofs.Definition.Faults
import TreeGrammar.Proofs.Definition.Stored
set_option autoImplicit false

namespace TreeGrammar

inductive Refused (earlier : List Statement) (statement : Statement) : GrammarFault → Prop where
  | name (unlawful : isIdentifier statement.name = false) :
      Refused earlier statement (.statementName statement.name)
  | alternative (lawful : isIdentifier statement.name = true) (empty : [] ∈ statement.alternatives) :
      Refused earlier statement (.emptyAlternative statement.name)
  | reference (before after : List Reference) (reference : Reference)
      (lawful : isIdentifier statement.name = true) (filled : [] ∉ statement.alternatives)
      (split : statement.references = before ++ reference :: after)
      (identifiers : ∀ other ∈ before, isIdentifier other.name = true)
      (unlawful : isIdentifier reference.name = false) :
      Refused earlier statement (.referenceName reference.name)
  | repeated (expressible : statement.Expressible)
      (known : statement.name ∈ earlier.map Statement.name) :
      Refused earlier statement (.duplicateStatement statement.name)

structure Clear (given : List Statement) : Prop where
  expressible : ∀ statement ∈ given, statement.Expressible
  distinct : (given.map Statement.name).Nodup

def FirstUndefined (given : List Statement) (name : String) : Prop :=
  ∃ ordered : List Statement, ordered.Perm given ∧
    (ordered.map fun statement => Text.bytes statement.name).Pairwise (· < ·) ∧
    ∃ before reference after, ordered.flatMap Statement.references = before ++ reference :: after ∧
      (∀ other ∈ before, other.name ∈ given.map Statement.name) ∧ reference.name = name ∧
      name ∉ given.map Statement.name

inductive Checked (given : List Statement) : Except GrammarError Definition → Prop where
  | refused (front back : List Statement) (statement : Statement) (fault : GrammarFault)
      (split : given = front ++ statement :: back) (clear : Clear front)
      (refused : Refused front statement fault) : Checked given (.error ⟨fault, none⟩)
  | undefined (name : String) (clear : Clear given) (first : FirstUndefined given name) :
      Checked given (.error ⟨.undefinedReference name, none⟩)
  | sound (definition : Definition) (clear : Clear given)
      (declared : ∀ statement ∈ given, ∀ reference ∈ statement.references,
        reference.name ∈ given.map Statement.name)
      (held : ∀ name statement, definition.statement? name = some statement ↔
        statement ∈ given ∧ statement.name = name) : Checked given (.ok definition)

inductive Agreed (source : String) (given : List Statement) :
    Except GrammarError Definition → Except GrammarError Definition → Prop where
  | built (definition : Definition) : Agreed source given (.ok definition) (.ok definition)
  | repeated (name : String) (position : Position) :
      Agreed source given (.error ⟨.duplicateStatement name, none⟩)
        (.error ⟨.duplicateStatement name, some ⟨source, position⟩⟩)
  | undefined (name other : String) (position : Position) (first : FirstUndefined given name) :
      Agreed source given (.error ⟨.undefinedReference name, none⟩)
        (.error ⟨.undefinedReference other, some ⟨source, position⟩⟩)

section

variable (earlier : List Statement) (statement : Statement) (fault : GrammarFault)

theorem refused_of_inexpressible (faulty : statement.inexpressible? = some fault) :
    Refused earlier statement fault := by
  rw [Statement.inexpressible?] at faulty
  split at faulty
  · rename_i unlawful
    cases faulty
    exact .name (by simpa using unlawful)
  · rename_i lawful
    have named : isIdentifier statement.name = true := by simpa using lawful
    split at faulty
    · rename_i unfilled
      cases faulty
      obtain ⟨alternative, listed, empty⟩ := List.any_eq_true.1 unfilled
      exact .alternative named (List.isEmpty_iff.1 empty ▸ listed)
    · rename_i filled
      obtain ⟨reference, found, rfl⟩ := Option.map_eq_some_iff.1 faulty
      obtain ⟨unlawful, before, after, split, identifiers⟩ := List.find?_eq_some_iff_append.1 found
      refine .reference before after reference named ?_ split ?_ (by simpa using unlawful)
      · intro empty
        exact filled (List.any_eq_true.2 ⟨[], empty, rfl⟩)
      · intro other member
        simpa using identifiers other member

theorem inexpressible_of_refused (refused : Refused earlier statement fault) :
    statement.inexpressible? = some fault ∨
      (statement.Expressible ∧ statement.name ∈ earlier.map Statement.name ∧
        fault = .duplicateStatement statement.name) := by
  cases refused with
  | name unlawful => exact .inl (by simp [Statement.inexpressible?, unlawful])
  | alternative lawful empty =>
    have unfilled : statement.alternatives.any List.isEmpty = true :=
      List.any_eq_true.2 ⟨[], empty, rfl⟩
    exact .inl (by simp [Statement.inexpressible?, lawful, unfilled])
  | reference before after reference lawful filled split identifiers unlawful =>
    have allFilled : ¬ statement.alternatives.any List.isEmpty = true := by
      intro unfilled
      obtain ⟨alternative, listed, empty⟩ := List.any_eq_true.1 unfilled
      exact filled (List.isEmpty_iff.1 empty ▸ listed)
    have found : statement.references.find? (!isIdentifier ·.name) = some reference := by
      refine List.find?_eq_some_iff_append.2 ⟨by simpa using unlawful, before, after, split, ?_⟩
      intro other member
      simpa using identifiers other member
    rw [Statement.inexpressible?, if_neg (by simp [lawful]), if_neg allFilled, found]
    exact .inl rfl
  | repeated expressible known => exact .inr ⟨expressible, known, rfl⟩

theorem refused_unique (others : List Statement) (fault other : GrammarFault)
    (first : Refused earlier statement fault) (second : Refused others statement other) :
    fault = other := by
  have never : ∀ some_fault, statement.inexpressible? = some some_fault → ¬ statement.Expressible := by
    intro some_fault faulty expressible
    rw [Definition.none_of_expressible statement expressible] at faulty
    cases faulty
  rcases inexpressible_of_refused earlier statement fault first with faulty | ⟨lawful, _, same⟩
  · rcases inexpressible_of_refused others statement other second with also | ⟨lawful, _⟩
    · exact Option.some.inj (faulty.symm.trans also)
    · exact absurd lawful (never fault faulty)
  · rcases inexpressible_of_refused others statement other second with also | ⟨_, _, alike⟩
    · exact absurd lawful (never other also)
    · rw [same, alike]

theorem refused_unclear (back : List Statement) (refused : Refused earlier statement fault) :
    ¬ Clear (earlier ++ statement :: back) := by
  intro clear
  have lawful := clear.expressible statement (List.mem_append_right earlier (.head back))
  rcases inexpressible_of_refused earlier statement fault refused with faulty | ⟨_, known, _⟩
  · rw [Definition.none_of_expressible statement lawful] at faulty
    cases faulty
  · have distinct := clear.distinct
    rw [List.map_append, List.nodup_append] at distinct
    exact distinct.2.2 statement.name known statement.name (.head _) rfl

end

def Statement.declared (statement : Statement) : Declaration :=
  ⟨statement.name, ⟨1, 1⟩,
    some (statement.alternatives.map fun alternative => alternative.map fun reference =>
      ⟨reference.name, some reference.multiplicity, ⟨1, 1⟩⟩)⟩

theorem declared_alternatives (statement : Statement) :
    statement.declared.alternatives = statement.alternatives := by
  simp [Statement.declared, Declaration.alternatives, Mention.reference, Function.comp_def]

namespace Definition

theorem collect_declares (given : List Statement) (statements collected : Statements)
    (success : collect statements given = .ok collected) :
    (∀ statement ∈ given, statement.Expressible) ∧
      declare statements (given.map Statement.declared) = .ok collected := by
  induction given generalizing statements with
  | nil =>
    cases success
    exact ⟨nofun, rfl⟩
  | cons first rest ih =>
    rw [collect] at success
    cases faulty : first.inexpressible? with
    | some fault =>
      rw [faulty] at success
      cases success
    | none =>
      simp only [faulty] at success
      by_cases known : statements.contains first.name = true
      · rw [if_pos known] at success
        cases success
      · rw [if_neg known] at success
        obtain ⟨expressible, declares⟩ := ih _ success
        refine ⟨List.forall_mem_cons.2 ⟨expressible_of_none first faulty, expressible⟩, ?_⟩
        rw [List.map_cons, declare, declared_alternatives]
        exact (if_neg known).trans declares

theorem collect_clear (given : List Statement) (collected : Statements)
    (success : collect ∅ given = .ok collected) :
    Clear given ∧ ∀ name, collected.contains name = true ↔ name ∈ given.map Statement.name := by
  obtain ⟨expressible, declares⟩ := collect_declares given ∅ collected success
  have names : (given.map Statement.declared).map Declaration.name = given.map Statement.name := by
    rw [List.map_map]
    rfl
  have distinct := (declare_names _ ∅ collected declares).1
  have contains := declare_contains _ collected declares
  rw [names] at distinct contains
  exact ⟨⟨expressible, distinct⟩, contains⟩

theorem collect_error (given : List Statement) (statements : Statements) (fault : GrammarFault)
    (failure : collect statements given = .error fault) :
    ∃ front statement back collected, given = front ++ statement :: back ∧
      collect statements front = .ok collected ∧
      (statement.inexpressible? = some fault ∨
        (statement.Expressible ∧ collected.contains statement.name = true ∧
          fault = .duplicateStatement statement.name)) := by
  induction given generalizing statements with
  | nil => cases failure
  | cons first rest ih =>
    rw [collect] at failure
    cases faulty : first.inexpressible? with
    | some found =>
      rw [faulty] at failure
      cases failure
      exact ⟨[], first, rest, statements, rfl, rfl, .inl faulty⟩
    | none =>
      simp only [faulty] at failure
      by_cases known : statements.contains first.name = true
      · rw [if_pos known] at failure
        cases failure
        exact ⟨[], first, rest, statements, rfl, rfl, .inr ⟨expressible_of_none first faulty, known, rfl⟩⟩
      · rw [if_neg known] at failure
        obtain ⟨front, statement, back, collected, rfl, success, refused⟩ := ih _ failure
        refine ⟨first :: front, statement, back, collected, rfl, ?_, refused⟩
        rw [collect, faulty]
        exact (if_neg known).trans success

end Definition

theorem ordered_references (given : List Statement) (collected : Statements)
    (success : Definition.collect ∅ given = .ok collected) :
    ∃ ordered : List Statement, ordered.Perm given ∧
      (ordered.map fun statement => Text.bytes statement.name).Pairwise (· < ·) ∧
      ordered.flatMap Statement.references = collected.references := by
  have ascending : (collected.entries.map fun entry => Text.bytes entry.1).Pairwise (· < ·) := by
    rw [List.pairwise_map]
    exact collected.ordered.imp fun less => (Text.bytes_lt _ _).2 less
  refine ⟨collected.entries.map fun entry => ⟨entry.1, entry.2⟩, ?_, ?_, ?_⟩
  · have distinct : (collected.entries.map fun entry => Statement.mk entry.1 entry.2).Nodup := by
      rw [List.Nodup, List.pairwise_map]
      apply collected.ordered.imp
      intro a b less same
      have equal : a.1 = b.1 := congrArg Statement.name same
      rw [equal] at less
      exact String.lt_irrefl _ less
    have clear := (Definition.collect_clear given collected success).1
    refine (List.perm_ext_iff_of_nodup distinct (List.Nodup.of_map _ clear.distinct)).2 ?_
    intro statement
    have held := Definition.hold_collect given ∅ collected success statement
    have noneBefore : ¬ Statements.Hold ∅ statement := nofun
    rw [or_iff_left noneBefore, Statements.Hold, ← NameMap.mem_entries_iff] at held
    rw [← held, List.mem_map]
    constructor
    · rintro ⟨entry, listed, rfl⟩
      exact listed
    · intro listed
      exact ⟨_, listed, rfl⟩
  · rw [List.map_map]
    exact ascending
  · rw [List.flatMap_map]
    rfl

theorem checked_of_statements (given : List Statement) :
    Checked given (Definition.ofStatements given) := by
  generalize outcome : Definition.ofStatements given = result
  have complete := fun definition success =>
    Definition.of_statements_complete given definition (outcome.trans success)
  unfold Definition.ofStatements at outcome
  split at outcome
  · rename_i fault failure
    obtain ⟨front, statement, back, collected, split, success, refused⟩ :=
      Definition.collect_error given ∅ fault failure
    obtain ⟨clear, names⟩ := Definition.collect_clear front collected success
    rw [← outcome]
    refine .refused front back statement fault split clear ?_
    rcases refused with faulty | ⟨expressible, known, rfl⟩
    · exact refused_of_inexpressible front statement fault faulty
    · exact .repeated expressible ((names statement.name).1 known)
  · rename_i collected success
    obtain ⟨clear, names⟩ := Definition.collect_clear given collected success
    obtain ⟨ordered, same, ascending, references⟩ := ordered_references given collected success
    split at outcome
    · rename_i reference undefined
      obtain ⟨unknown, before, after, split, earlier⟩ := List.find?_eq_some_iff_append.1 undefined
      rw [← outcome]
      refine .undefined reference.name clear
        ⟨ordered, same, ascending, before, reference, after, references.trans split, ?_, rfl, ?_⟩
      · intro other member
        rw [← names]
        simpa using earlier other member
      · rw [← names]
        simpa using unknown
    · rename_i known
      rw [← outcome]
      refine .sound _ clear ?_ (complete _ outcome.symm).keyed
      intro statement member reference referred
      have listed : reference ∈ collected.references := by
        rw [← references]
        exact List.mem_flatMap.2 ⟨statement, same.mem_iff.2 member, referred⟩
      rw [← names]
      simpa using List.find?_eq_none.1 known reference listed

theorem first_undefined_unique (given : List Statement) (name other : String)
    (first : FirstUndefined given name) (second : FirstUndefined given other) : name = other := by
  obtain ⟨ordered, same, ascending, before, reference, after, split, declared, rfl, unknown⟩ := first
  obtain ⟨sorted, alike, increasing, others, later, rest, cut, known, rfl, missing⟩ := second
  have one : ordered = sorted := by
    refine (same.trans alike.symm).eq_of_pairwise ?_ (List.pairwise_map.1 ascending)
      (List.pairwise_map.1 increasing)
    intro a b _ _ less more
    exact absurd ((Text.bytes_lt _ _).1 more) (String.lt_asymm ((Text.bytes_lt _ _).1 less))
  subst one
  have references : reference = later := by
    apply first_unique before others after rest reference later (split.symm.trans cut)
    · rintro more rfl
      exact missing (declared later (List.mem_append_right _ (.head _)))
    · rintro more rfl
      exact unknown (known reference (List.mem_append_right _ (.head _)))
  rw [references]

theorem undefined_undeclared (given : List Statement) (name : String)
    (first : FirstUndefined given name) :
    ∃ statement ∈ given, ∃ reference ∈ statement.references,
      reference.name ∉ given.map Statement.name := by
  obtain ⟨ordered, same, _, before, reference, after, split, _, rfl, unknown⟩ := first
  have listed : reference ∈ ordered.flatMap Statement.references := by
    rw [split]
    exact List.mem_append_right _ (.head _)
  obtain ⟨statement, member, referred⟩ := List.mem_flatMap.1 listed
  exact ⟨statement, same.mem_iff.1 member, reference, referred, unknown⟩

theorem checked_unique (given : List Statement) (result other : Except GrammarError Definition)
    (first : Checked given result) (second : Checked given other) : result = other := by
  cases first with
  | refused front back statement fault split clear refused =>
    cases second with
    | refused others rest later another cut alike also =>
      have one : statement = later := by
        apply first_unique front others back rest statement later (split.symm.trans cut)
        · rintro more rfl
          exact refused_unclear others later another more also clear
        · rintro more rfl
          exact refused_unclear front statement fault more refused alike
      subst one
      rw [refused_unique front statement others fault another refused also]
    | undefined _ all => exact absurd (split ▸ all) (refused_unclear front statement fault back refused)
    | sound _ all => exact absurd (split ▸ all) (refused_unclear front statement fault back refused)
  | undefined name clear unknown =>
    cases second with
    | refused front back statement fault split _ refused =>
      exact absurd (split ▸ clear) (refused_unclear front statement fault back refused)
    | undefined another _ missing => rw [first_undefined_unique given name another unknown missing]
    | sound _ _ declared =>
      obtain ⟨statement, member, reference, referred, undeclared⟩ :=
        undefined_undeclared given name unknown
      exact absurd (declared statement member reference referred) undeclared
  | sound definition clear declared held =>
    cases second with
    | refused front back statement fault split _ refused =>
      exact absurd (split ▸ clear) (refused_unclear front statement fault back refused)
    | undefined another _ missing =>
      obtain ⟨statement, member, reference, referred, undeclared⟩ :=
        undefined_undeclared given another missing
      exact absurd (declared statement member reference referred) undeclared
    | sound another _ _ kept =>
      have one : definition = another := by
        apply definition_eq
        intro name
        apply Option.ext
        intro statement
        rw [held, kept]
      rw [one]

section

variable (source : String) (declarations : List Declaration)

theorem names_of_statements :
    (declarations.map Declaration.statement).map Statement.name = declarations.map Declaration.name := by
  rw [List.map_map]
  rfl

theorem mentioned_reference (statement : Statement)
    (member : statement ∈ declarations.map Declaration.statement) (reference : Reference)
    (referred : reference ∈ statement.references) :
    ∃ mention ∈ declarations.flatMap Declaration.mentions, mention.name = reference.name := by
  obtain ⟨declaration, listed, rfl⟩ := List.mem_map.1 member
  have among : reference ∈ declaration.mentions.map Mention.reference :=
    flatten_alternatives declaration ▸ referred
  obtain ⟨mention, mentioned, rfl⟩ := List.mem_map.1 among
  exact ⟨mention, List.mem_flatMap.2 ⟨declaration, listed, mentioned⟩, rfl⟩

theorem referred_mention (mention : Mention)
    (member : mention ∈ declarations.flatMap Declaration.mentions) :
    ∃ statement ∈ declarations.map Declaration.statement, mention.reference ∈ statement.references := by
  obtain ⟨declaration, listed, mentioned⟩ := List.mem_flatMap.1 member
  refine ⟨declaration.statement, List.mem_map_of_mem listed, ?_⟩
  change mention.reference ∈ declaration.alternatives.flatten
  rw [flatten_alternatives]
  exact List.mem_map_of_mem mentioned

theorem agreed_of_expressible
    (expressible : ∀ statement ∈ declarations.map Declaration.statement, statement.Expressible) :
    Agreed source (declarations.map Declaration.statement)
      (Definition.ofStatements (declarations.map Declaration.statement))
      (Definition.ofDeclarations source declarations) := by
  have checked := checked_of_statements (declarations.map Declaration.statement)
  have judged := judged_of_declarations source declarations
  have complete := Definition.of_declarations_complete source declarations
  have names := names_of_statements declarations
  generalize Definition.ofStatements (declarations.map Declaration.statement) = given at checked ⊢
  generalize Definition.ofDeclarations source declarations = declared at judged complete ⊢
  have clear : (declarations.map Declaration.name).Nodup →
      Clear (declarations.map Declaration.statement) :=
    fun distinct => ⟨expressible, names ▸ distinct⟩
  cases judged with
  | repeated front back again split distinct known =>
    have whole : declarations.map Declaration.statement =
        front.map Declaration.statement ++ again.statement :: back.map Declaration.statement := by
      rw [split, List.map_append, List.map_cons]
    have lawful : ∀ statement ∈ front.map Declaration.statement, statement.Expressible := by
      intro statement member
      exact expressible statement (whole ▸ List.mem_append_left _ member)
    have refused : Refused (front.map Declaration.statement) again.statement
        (.duplicateStatement again.name) :=
      .repeated (expressible _ (whole ▸ List.mem_append_right _ (.head _)))
        (names_of_statements front ▸ known)
    rw [checked_unique _ given _ checked (.refused _ _ _ _ whole
      ⟨lawful, names_of_statements front ▸ distinct⟩ refused)]
    exact .repeated again.name again.position
  -- The mention is the first in the order of the text; given statements may report another name.
  | undefined before after mention distinct split known unknown =>
    obtain ⟨statement, member, referred⟩ := referred_mention declarations mention
      (split ▸ List.mem_append_right _ (.head _))
    cases checked with
    | refused front back statement fault cut _ refused =>
      exact absurd (cut ▸ clear distinct) (refused_unclear front statement fault back refused)
    | undefined name _ first => exact .undefined name mention.name mention.position first
    | sound _ _ all =>
      exact absurd (names ▸ all statement member mention.reference referred) unknown
  | sound definition distinct known held =>
    have sound : Checked (declarations.map Declaration.statement) (.ok definition) := by
      refine .sound definition (clear distinct) ?_ (complete definition rfl).keyed
      intro statement member reference referred
      obtain ⟨mention, mentioned, same⟩ :=
        mentioned_reference declarations statement member reference referred
      rw [names, ← same]
      exact known mention mentioned
    rw [checked_unique _ given _ checked sound]
    exact .built definition

end

theorem given_and_declared_agree :
    (∀ source declarations,
      (∀ statement ∈ declarations.map Declaration.statement, statement.Expressible) →
        Agreed source (declarations.map Declaration.statement)
          (Definition.ofStatements (declarations.map Declaration.statement))
          (Definition.ofDeclarations source declarations)) ∧
    ∀ given result, Definition.ofStatements given = result ↔ Checked given result := by
  refine ⟨agreed_of_expressible, ?_⟩
  intro given result
  constructor
  · rintro rfl
    exact checked_of_statements given
  · intro checked
    exact checked_unique given _ result (checked_of_statements given) checked

example : Definition.ofStatements [⟨"a", [[⟨"b", .exactlyOne⟩]]⟩, ⟨"a", [[]]⟩] =
    .error ⟨.emptyAlternative "a", none⟩ := rfl

-- The first undefined reference as written is `z`, and in the order of names it is `y`.
def crossed : List Declaration :=
  [⟨"b", ⟨1, 1⟩, some [[⟨"z", none, ⟨1, 4⟩⟩]]⟩,
    ⟨"a", ⟨2, 1⟩, some [[⟨"b", some .anyNumber, ⟨2, 4⟩⟩], [⟨"y", none, ⟨2, 9⟩⟩]]⟩]

theorem crossed_agree :
    (∀ statement ∈ crossed.map Declaration.statement, statement.Expressible) ∧
      Agreed "notes" (crossed.map Declaration.statement) (.error ⟨.undefinedReference "y", none⟩)
        (.error ⟨.undefinedReference "z", some ⟨"notes", ⟨1, 4⟩⟩⟩) := by
  have clear : ∀ statement ∈ crossed.map Declaration.statement, statement.inexpressible? = none := by
    decide
  have expressible := fun statement member =>
    expressible_of_none statement (clear statement member)
  have given : Definition.ofStatements (crossed.map Declaration.statement) =
      .error ⟨.undefinedReference "y", none⟩ := rfl
  have declared : Definition.ofDeclarations "notes" crossed =
      .error ⟨.undefinedReference "z", some ⟨"notes", ⟨1, 4⟩⟩⟩ := rfl
  have agreed := given_and_declared_agree.1 "notes" crossed expressible
  rw [given, declared] at agreed
  exact ⟨expressible, agreed⟩

end TreeGrammar
