import TreeGrammar.Proofs.Definition.Building
import TreeGrammar.Proofs.Definition.Contexts
set_option autoImplicit false

namespace TreeGrammar

def Statements.Hold (statements : Statements) (statement : Statement) : Prop :=
  statements.get? statement.name = some statement.alternatives

theorem hold_insert (statements : Statements) (fresh statement : Statement)
    (unknown : statements.contains fresh.name = false) :
    Statements.Hold (statements.insert fresh.name fresh.alternatives) statement ↔
      statement = fresh ∨ statements.Hold statement := by
  have missing : statements.get? fresh.name = none := by simpa [NameMap.contains] using unknown
  rw [Statements.Hold, NameMap.get?_insert]
  by_cases named : statement.name = fresh.name
  · rw [if_pos named, Option.some.injEq]
    constructor
    · intro same
      left
      cases statement
      cases fresh
      cases named
      cases same
      rfl
    · intro either
      rcases either with same | old
      · rw [same]
      · rw [Statements.Hold, named, missing] at old
        cases old
  · rw [if_neg named]
    constructor
    · exact .inr
    · intro either
      rcases either with same | old
      · exact absurd (congrArg Statement.name same) named
      · exact old

namespace Definition

structure Complete (definition : Definition) (given : List Statement) : Prop where
  keyed : ∀ name statement, definition.statement? name = some statement ↔
    statement ∈ given ∧ statement.name = name
  closed : ∀ name statement, definition.statement? name = some statement →
    ∀ alternative ∈ statement.alternatives, ∀ reference ∈ alternative,
      ∃ target, definition.statement? reference.name = some target
  indexed : ∀ target source multiplicity,
    multiplicity ∈ definition.contexts.tags target source ↔
      definition.References source target multiplicity
  filled : definition.contexts.Filled
  roots : ∀ statement, statement ∈ definition.roots ↔
    definition.statement? statement.name = some statement ∧
      ∀ source multiplicity, ¬ definition.References source statement.name multiplicity
  ordered : (definition.roots.map fun statement => Text.bytes statement.name).Pairwise (· < ·)

theorem reference_leads (definition : Definition) (name : String) (statement : Statement)
    (stated : definition.statement? name = some statement) (alternative : Alternative)
    (among : alternative ∈ statement.alternatives) (reference : Reference)
    (referred : reference ∈ alternative) :
    ∃ target, definition.statement? reference.name = some target := by
  have found := ((definition.statement_eq_some name statement).1 stated).2
  have inside := List.mem_flatten.2 ⟨alternative, among, referred⟩
  have known := definition.closed reference
    (List.mem_flatMap.2 ⟨_, NameMap.mem_of_get? found, inside⟩)
  obtain ⟨alternatives, declared⟩ := Option.isSome_iff_exists.1 known
  exact ⟨⟨reference.name, alternatives⟩,
    (definition.statement_eq_some reference.name _).2 ⟨rfl, declared⟩⟩

theorem complete_of_held (definition : Definition) (given : List Statement)
    (held : ∀ statement, definition.statements.Hold statement ↔ statement ∈ given) :
    definition.Complete given where
  keyed name statement := by
    rw [statement_eq_some, ← held statement, and_comm, Statements.Hold]
    constructor
    · intro ⟨found, named⟩
      exact ⟨named ▸ found, named⟩
    · intro ⟨found, named⟩
      exact ⟨named ▸ found, named⟩
  closed := definition.reference_leads
  indexed := definition.mem_contexts
  filled := definition.contexts_filled
  roots := definition.mem_roots
  ordered := definition.roots_ordered

theorem hold_collect (given : List Statement) (statements collected : Statements)
    (success : collect statements given = .ok collected) (statement : Statement) :
    collected.Hold statement ↔ statement ∈ given ∨ statements.Hold statement := by
  induction given generalizing statements with
  | nil =>
    cases success
    simp
  | cons first rest ih =>
    rw [collect] at success
    cases expressible : first.inexpressible? with
    | some fault =>
      rw [expressible] at success
      cases success
    | none =>
      simp only [expressible] at success
      cases repeated : statements.contains first.name with
      | true =>
        rw [if_pos repeated] at success
        cases success
      | false =>
        rw [repeated] at success
        rw [ih _ success, hold_insert statements first statement repeated, List.mem_cons, or_assoc,
          or_left_comm]

theorem hold_declare (declarations : List Declaration) (statements declared : Statements)
    (success : declare statements declarations = .ok declared) (statement : Statement) :
    declared.Hold statement ↔
      statement ∈ declarations.map Declaration.statement ∨ statements.Hold statement := by
  induction declarations generalizing statements with
  | nil =>
    cases success
    simp
  | cons first rest ih =>
    rw [declare] at success
    cases repeated : statements.contains first.name with
    | true =>
      rw [if_pos repeated] at success
      cases success
    | false =>
      rw [repeated] at success
      have joined := hold_insert statements first.statement statement repeated
      rw [ih _ success, List.map_cons, List.mem_cons, or_assoc, or_left_comm]
      exact or_congr_right joined

theorem of_statements_complete (given : List Statement) (definition : Definition)
    (success : ofStatements given = .ok definition) : definition.Complete given := by
  apply complete_of_held
  intro statement
  have held := hold_collect given ∅ _ (of_statements_ok given definition success) statement
  have noneBefore : ¬ Statements.Hold ∅ statement := nofun
  rw [held, or_iff_left noneBefore]

theorem of_declarations_complete (source : String) (declarations : List Declaration)
    (definition : Definition) (success : ofDeclarations source declarations = .ok definition) :
    definition.Complete (declarations.map Declaration.statement) := by
  apply complete_of_held
  intro statement
  have held := hold_declare declarations ∅ _
    (of_declarations_ok source declarations definition success) statement
  have noneBefore : ¬ Statements.Hold ∅ statement := nofun
  rw [held, or_iff_left noneBefore]

end Definition

theorem built_is_complete :
    (∀ given definition, Definition.ofStatements given = .ok definition →
      definition.Complete given) ∧
    (∀ source declarations definition,
      Definition.ofDeclarations source declarations = .ok definition →
        definition.Complete (declarations.map Declaration.statement)) ∧
    (∀ source text definition, Definition.parse source text = .ok definition →
      ∃ declarations, readDeclarations source text = .ok declarations ∧
        definition.Complete (declarations.map Declaration.statement)) ∧
    ∀ text definition, Definition.ofJson text = .ok definition →
      ∃ given, (Json.read text.toList).1.toStatements = .ok given ∧ definition.Complete given := by
  refine ⟨Definition.of_statements_complete, Definition.of_declarations_complete, ?_, ?_⟩
  · intro source text definition success
    obtain ⟨declarations, read, built⟩ := Definition.parse_ok source text definition success
    exact ⟨declarations, read,
      Definition.of_declarations_complete source declarations definition built⟩
  · intro text definition success
    obtain ⟨given, read, built⟩ := Definition.json_statements_ok text definition success
    exact ⟨given, read, Definition.of_statements_complete given definition built⟩

def nested : Definition :=
  ⟨⟨[("a", [[⟨"b", .exactlyOne⟩, ⟨"a", .atMostOne⟩, ⟨"b", .atMostOne⟩]]), ("b", []), ("c", [])],
    by decide⟩, by decide⟩

def nestedDeclarations : List Declaration :=
  [⟨"c", ⟨1, 1⟩, none⟩,
    ⟨"a", ⟨1, 4⟩, some [[⟨"b", none, ⟨1, 7⟩⟩, ⟨"a", some .atMostOne, ⟨1, 9⟩⟩,
      ⟨"b", some .atMostOne, ⟨1, 12⟩⟩]]⟩,
    ⟨"b", ⟨1, 16⟩, none⟩]

def nestedText : String := "c; a: b a? b?; b;"

def nestedJson : String :=
  "[[[\"c\",[]],[\"a\",[[[\"b\",\"NON_NULL\"],[\"a\",\"NULLABLE\"],[\"b\",\"NULLABLE\"]]]],[\"b\",[]]]]"

theorem nested_is_complete :
    (Definition.ofStatements nested.toList.reverse = .ok nested ∧
      nested.Complete nested.toList.reverse) ∧
    (Definition.ofDeclarations "notes" nestedDeclarations = .ok nested ∧
      nested.Complete (nestedDeclarations.map Declaration.statement)) ∧
    (Definition.parse "notes" nestedText = .ok nested ∧
      ∃ declarations, readDeclarations "notes" nestedText = .ok declarations ∧
        nested.Complete (declarations.map Declaration.statement)) ∧
    (Definition.ofJson nestedJson = .ok nested ∧
      ∃ given, (Json.read nestedJson.toList).1.toStatements = .ok given ∧
        nested.Complete given) ∧
    nested.contexts.tags "b" "a" = [.exactlyOne, .atMostOne] ∧
    nested.roots.map Statement.name = ["c"] := by
  obtain ⟨given, declared, parsed, stored⟩ := built_is_complete
  refine ⟨⟨?given, given _ _ ?given⟩, ⟨?declared, declared "notes" _ _ ?declared⟩,
    ⟨?parsed, parsed _ _ _ ?parsed⟩, ⟨?stored, stored _ _ ?stored⟩, ?merged, ?root⟩
  case given => rfl
  case declared => rfl
  case parsed => decide +kernel
  case stored => decide +kernel
  case merged => decide
  case root => decide

end TreeGrammar
