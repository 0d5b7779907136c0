import Mathlib.Control.Monad.Basic
import TreeGrammar.Definition.Contexts
import TreeGrammar.Definition.Json
import TreeGrammar.Proofs.Declaration.Reading
import TreeGrammar.Proofs.Definition.Building
import TreeGrammar.Proofs.Definition.Text
set_option autoImplicit false

namespace TreeGrammar

namespace Definition

structure Expressible (definition : Definition) : Prop where
  names : ∀ statement ∈ definition.toList, isIdentifier statement.name = true
  filled : ∀ statement ∈ definition.toList, [] ∉ statement.alternatives

def Survives (definition : Definition) (source : String) : Prop :=
  ∃ read, parse source definition.text = .ok read ∧ read.statements = definition.statements ∧
    read.contexts = definition.contexts

theorem statement_expressible (definition : Definition) (expressible : definition.Expressible)
    (statement : Statement) (member : statement ∈ definition.toList) : statement.Expressible := by
  refine ⟨expressible.names statement member, expressible.filled statement member, ?_⟩
  intro reference referred
  obtain ⟨entry, listed, rfl⟩ := List.mem_map.1 member
  have known := definition.closed reference (List.mem_flatMap.2 ⟨entry, listed, referred⟩)
  obtain ⟨alternatives, found⟩ := Option.isSome_iff_exists.1 known
  exact expressible.names ⟨reference.name, alternatives⟩
    (List.mem_map.2 ⟨_, NameMap.mem_of_get? found, rfl⟩)

theorem read_spelled (source text : String) (writings : List Written)
    (proper : ∀ written ∈ writings, written.Proper)
    (spells : Spells text.toList (writings.flatMap Written.tokens)) :
    ∃ declarations, readDeclarations source text = .ok declarations ∧
      declarations.map Declaration.statement = writings.map Written.statement := by
  obtain ⟨found, read, spelled⟩ := spells .start
  have tokenized : tokenize source text = .ok found := by rw [tokenize, read]
  obtain ⟨declarations, success, same⟩ :=
    read_declarations_ok source text found tokenized writings proper spelled
  refine ⟨declarations, success, ?_⟩
  rw [← same, List.map_map]
  exact List.map_congr_left fun declaration _ => (statement_written declaration).symm

theorem parse_spelled (source text : String) (writings : List Written) (definition : Definition)
    (proper : ∀ written ∈ writings, written.Proper)
    (spells : Spells text.toList (writings.flatMap Written.tokens))
    (same : writings.map Written.statement = definition.toList) :
    parse source text = .ok definition := by
  obtain ⟨declarations, success, statements⟩ := read_spelled source text writings proper spells
  rw [parse, success]
  exact of_declarations_listed source declarations definition (statements.trans same)

theorem parse_text (definition : Definition) (source : String)
    (expressible : definition.Expressible) : parse source definition.text = .ok definition := by
  have lawful := statement_expressible definition expressible
  have spells := spells_statements definition.toList lawful
  rw [← List.flatMap_map] at spells
  refine parse_spelled source definition.text _ definition ?_ spells ?_
  · intro written member
    obtain ⟨statement, listed, rfl⟩ := List.mem_map.1 member
    exact written_proper statement (lawful statement listed)
  · rw [List.map_map]
    exact (List.map_congr_left fun statement _ => written_statement statement).trans (List.map_id _)

theorem parse_expressible (source text : String) (definition : Definition)
    (success : parse source text = .ok definition) : definition.Expressible := by
  obtain ⟨declarations, declared, built⟩ := parse_ok source text definition success
  have collected := of_declarations_ok source declarations definition built
  obtain ⟨proper, found, tokenized, spelled⟩ :=
    read_declarations_tokens source text declarations declared
  have origin : ∀ statement ∈ definition.toList,
      ∃ declaration ∈ declarations, declaration.statement = statement := by
    intro statement member
    obtain ⟨entry, listed, rfl⟩ := List.mem_map.1 member
    rcases mem_declare collected listed with old | ⟨declaration, among, rfl⟩
    · cases old
    · exact ⟨declaration, among, rfl⟩
  refine ⟨?_, ?_⟩
  · intro statement member
    obtain ⟨declaration, among, rfl⟩ := origin statement member
    apply lexed_identifier .start text.toList found declaration.name
      (tokenize_ok source text found tokenized)
    rw [spelled]
    exact List.mem_flatMap.2 ⟨declaration, among, .head _⟩
  · intro statement member empty
    obtain ⟨declaration, among, rfl⟩ := origin statement member
    exact alternatives_filled declaration (proper declaration among) empty

theorem of_statements_expressible (given : List Statement) (definition : Definition)
    (success : ofStatements given = .ok definition) : definition.Expressible := by
  have collected := of_statements_ok given definition success
  have lawful : ∀ statement ∈ definition.toList, statement.Expressible := by
    intro statement member
    obtain ⟨entry, listed, rfl⟩ := List.mem_map.1 member
    rcases mem_collect given ∅ _ collected entry listed with old | ⟨statement, _, expressible, rfl⟩
    · cases old
    · exact expressible_of_none statement expressible
  exact ⟨fun statement member => (lawful statement member).name,
    fun statement member => (lawful statement member).filled⟩

theorem of_json_ok (text : String) (definition : Definition)
    (success : ofJson text = .ok definition) : ∃ given, ofStatements given = .ok definition := by
  obtain ⟨given, _, built⟩ := json_statements_ok text definition success
  exact ⟨given, built⟩

theorem survives_expressible (definition : Definition) (source : String) :
    definition.Survives source ↔ definition.Expressible := by
  constructor
  · intro ⟨read, success, same, _⟩
    have equal : read = definition := by
      cases read with
      | mk statements closed =>
        cases same
        rfl
    rw [equal] at success
    exact parse_expressible source definition.text definition success
  · intro expressible
    exact ⟨definition, parse_text definition source expressible, rfl, rfl⟩

end Definition

theorem text_round_trips (origin source : String) :
    (∀ declarations definition, Definition.ofDeclarations origin declarations = .ok definition →
      (definition.Survives source ↔ definition.Expressible)) ∧
    (∀ text definition, Definition.parse origin text = .ok definition → definition.Survives source) ∧
    (∀ given definition, Definition.ofStatements given = .ok definition →
      definition.Survives source) ∧
    ∀ text definition, Definition.ofJson text = .ok definition → definition.Survives source := by
  have survives := fun definition : Definition => definition.survives_expressible source
  refine ⟨?_, ?_, ?_, ?_⟩
  · intro declarations definition _
    exact survives definition
  · intro text definition success
    exact (survives definition).2 (Definition.parse_expressible origin text definition success)
  · intro given definition success
    exact (survives definition).2 (Definition.of_statements_expressible given definition success)
  · intro text definition success
    obtain ⟨given, built⟩ := Definition.of_json_ok text definition success
    exact (survives definition).2 (Definition.of_statements_expressible given definition built)

def letters : Definition :=
  ⟨⟨[("a", [[⟨"b", .anyNumber⟩]]), ("b", [])], by decide⟩, by decide⟩

theorem letters_round_trip :
    (Definition.ofDeclarations "first" [⟨"b", ⟨1, 1⟩, none⟩,
        ⟨"a", ⟨1, 4⟩, some [[⟨"b", some .anyNumber, ⟨1, 7⟩⟩]]⟩] = .ok letters ∧
      (letters.Survives "second" ↔ letters.Expressible)) ∧
    (Definition.parse "first" "b; a: b*;" = .ok letters ∧ letters.Survives "second") ∧
    (Definition.ofStatements [⟨"b", []⟩, ⟨"a", [[⟨"b", .anyNumber⟩]]⟩] = .ok letters ∧
      letters.Survives "second") ∧
    (Definition.ofJson "[[[\"a\", [[[\"b\", \"ZERO_OR_MORE\"]]]], [\"b\", []]]]" = .ok letters ∧
      letters.Survives "second") := by
  obtain ⟨declared, parsed, given, stored⟩ := text_round_trips "first" "second"
  refine ⟨⟨?declared, declared _ _ ?declared⟩, ⟨?parsed, parsed _ _ ?parsed⟩,
    ⟨?given, given _ _ ?given⟩, ⟨?stored, stored _ _ ?stored⟩⟩
  case declared => rfl
  case parsed => decide +kernel
  case given => rfl
  case stored => decide +kernel

end TreeGrammar
