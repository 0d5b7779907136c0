import TreeGrammar.Proofs.Definition.RoundTrip
import TreeGrammar.Proofs.Json.Layouts
set_option autoImplicit false

namespace TreeGrammar

namespace Json.Reading

variable {α : Type}

theorem items_read (item : Reading → Except Mismatch α) (json : α → Json)
    (each : ∀ a, item (json a).reading = .ok a) (values : List α) :
    toItems item (Json.array (values.map json)).reading = .ok values := by
  have found : (readingItems (values.map json)).mapM item = .ok values := by
    rw [reading_items, List.map_map]
    induction values with
    | nil => rfl
    | cons first rest ih =>
      rw [List.map_cons, List.mapM_cons, Function.comp_apply, each, ih]
      rfl
  rw [Json.reading, toItems, found]
  rfl

theorem multiplicity_read (multiplicity : Multiplicity) :
    toMultiplicity (Json.string multiplicity.word).reading = .ok multiplicity := by
  rw [Json.reading, toMultiplicity, ofMultiplicityWord, Multiplicity.ofWord?_word]

theorem pair_read {α β : Type} (record : String) (first : Field α) (second : Field β)
    (distinct : second.name ≠ first.name) (a : α) (b : β) (firstJson secondJson : Json)
    (firstRead : first.value firstJson.reading = .ok a)
    (secondRead : second.value secondJson.reading = .ok b) :
    toPair record first second
      (Json.object [(first.name, firstJson), (second.name, secondJson)]).reading = .ok (a, b) := by
  have members : toPairMembers first second none none
      [(some first.name, firstJson.reading), (some second.name, secondJson.reading)] =
        .ok (some a, some b) := by
    simp only [toPairMembers, toName, bind, Except.bind, if_true, if_neg distinct, Field.take, firstRead,
      secondRead, Functor.map, Except.map]
  simp only [Json.reading, readingMembers, toPair, members, bind, Except.bind, if_true, Field.require]
  rfl

theorem reference_read (reference : Reference) :
    toReference reference.toJson.reading = .ok reference := by
  have fields := pair_read "struct Reference" ⟨"name", toText⟩ ⟨"type", toMultiplicity⟩ (by decide)
    reference.name reference.multiplicity (.string reference.name)
    (.string reference.multiplicity.word) rfl (multiplicity_read reference.multiplicity)
  rw [toReference, Reference.toJson, fields]
  rfl

theorem statement_read (statement : Statement) :
    toStatement statement.toJson.reading = .ok statement := by
  have contents := items_read (toItems toReference) (fun alternative : Alternative =>
    .array (alternative.map Reference.toJson)) (items_read toReference Reference.toJson reference_read)
    statement.alternatives
  have fields := pair_read "struct Statement" ⟨"name", toText⟩
    ⟨"contents", toItems (toItems toReference)⟩ (by decide) statement.name statement.alternatives
    (.string statement.name)
    (.array (statement.alternatives.map fun alternative => .array (alternative.map Reference.toJson)))
    rfl contents
  rw [toStatement, Statement.toJson, fields]
  rfl

theorem statements_read (definition : Definition) :
    toStatements definition.toJson.reading = .ok definition.toList := by
  have statements := items_read toStatement Statement.toJson statement_read definition.toList
  have members : toSingleMembers ⟨"statements", toItems toStatement⟩ none
      [(some "statements", (Json.array (definition.toList.map Statement.toJson)).reading)] =
        .ok (some definition.toList) := by
    simp only [toSingleMembers, toName, bind, Except.bind, if_true, Field.take, statements, Functor.map,
      Except.map]
  rw [toStatements, Definition.toJson, Json.reading, readingMembers, readingMembers, toSingle]
  simp only [members, bind, Except.bind, if_true, Field.require]

end Json.Reading

namespace Definition

variable (definition : Definition)

theorem of_json_written (text : String)
    (read : Json.read text.toList = (definition.toJson.reading, true)) :
    ofJson text = (ofStatements definition.toList).mapError .grammar := by
  rw [ofJson, read]
  simp only [Json.Reading.statements_read, bind, Except.bind]
  cases ofStatements definition.toList with
  | error error => rfl
  | ok restored => rfl

theorem collect_ascending (front back : List Statement) (statements : Statements)
    (ascending : (statements.entries.map Prod.fst ++ front.map Statement.name).Pairwise (· < ·))
    (clear : ∀ statement ∈ front, statement.inexpressible? = none) :
    ∃ added, collect statements (front ++ back) = collect added back ∧
      added.entries = statements.entries ++
        front.map fun statement => (statement.name, statement.alternatives) := by
  induction front generalizing statements with
  | nil => exact ⟨statements, rfl, (List.append_nil _).symm⟩
  | cons first rest ih =>
    obtain ⟨fresh, inserted, onward⟩ :=
      NameMap.insert_ascending statements first.name first.alternatives _ ascending
    obtain ⟨added, success, entries⟩ := ih (statements.insert first.name first.alternatives) onward
      fun other member => clear other (.tail _ member)
    refine ⟨added, ?_, ?_⟩
    · rw [List.cons_append, collect, clear first (.head _)]
      dsimp only
      rw [fresh]
      exact success
    · rw [entries, inserted, List.append_assoc]
      rfl

theorem list_ascending : (definition.toList.map Statement.name).Pairwise (· < ·) := by
  rw [toList, List.map_map]
  exact List.pairwise_map.2 definition.statements.ordered

theorem of_statements_clear
    (clear : ∀ statement ∈ definition.toList, statement.inexpressible? = none) :
    ofStatements definition.toList = .ok definition := by
  obtain ⟨added, collected, entries⟩ :=
    collect_ascending definition.toList [] ∅ definition.list_ascending clear
  have listed : added = definition.statements := by
    apply NameMap.map_eq
    rw [entries, toList, List.map_map]
    exact List.map_id _
  rw [List.append_nil, collect, listed] at collected
  unfold ofStatements
  split
  · rename_i failed
    rw [collected] at failed
    cases failed
  · rename_i again found
    rw [collected] at found
    cases found
    split
    · rename_i reference undefined
      have unknown := List.find?_some undefined
      have known := definition.closed reference (List.mem_of_find?_eq_some undefined)
      rw [Bool.not_eq_true', known] at unknown
      cases unknown
    · rfl

theorem of_statements_faulty (front back : List Statement) (statement : Statement)
    (fault : GrammarFault) (split : definition.toList = front ++ statement :: back)
    (clear : ∀ earlier ∈ front, earlier.inexpressible? = none)
    (faulty : statement.inexpressible? = some fault) :
    ofStatements definition.toList = .error ⟨fault, none⟩ := by
  have ascending := definition.list_ascending
  rw [split, List.map_append] at ascending
  obtain ⟨added, collected, _⟩ :=
    collect_ascending front (statement :: back) ∅ (List.pairwise_append.1 ascending).1 clear
  have stopped : collect ∅ definition.toList = .error fault := by
    rw [split, collected, collect, faulty]
  rw [ofStatements, stopped]

theorem inexpressible_malformed (statement : Statement) (fault : GrammarFault)
    (faulty : statement.inexpressible? = some fault) :
    ∃ detail, fault.message = GrammarFault.malformed detail := by
  rw [Statement.inexpressible?] at faulty
  split at faulty
  · cases faulty
    exact ⟨_, rfl⟩
  · split at faulty
    · cases faulty
      exact ⟨_, rfl⟩
    · obtain ⟨reference, _, rfl⟩ := Option.map_eq_some_iff.1 faulty
      exact ⟨_, rfl⟩

theorem none_of_expressible (statement : Statement) (expressible : statement.Expressible) :
    statement.inexpressible? = none := by
  have filled : statement.alternatives.any List.isEmpty = false := by
    rw [List.any_eq_false]
    intro alternative listed empty
    rw [List.isEmpty_iff.1 empty] at listed
    exact expressible.filled listed
  have references : statement.references.find? (!isIdentifier ·.name) = none := by
    rw [List.find?_eq_none]
    intro reference member
    simp [expressible.references reference member]
  simp [Statement.inexpressible?, expressible.name, filled, references]

theorem expressible_iff :
    definition.Expressible ↔ ∀ statement ∈ definition.toList, statement.inexpressible? = none := by
  constructor
  · intro expressible statement member
    exact none_of_expressible statement
      (statement_expressible definition expressible statement member)
  · intro clear
    have lawful := fun statement member => expressible_of_none statement (clear statement member)
    exact ⟨fun statement member => (lawful statement member).name,
      fun statement member => (lawful statement member).filled⟩

theorem first_inexpressible (unlawful : ¬ definition.Expressible) :
    ∃ front statement back fault, definition.toList = front ++ statement :: back ∧
      (∀ earlier ∈ front, earlier.inexpressible? = none) ∧ statement.inexpressible? = some fault := by
  cases found : definition.toList.find? fun statement => statement.inexpressible?.isSome with
  | none =>
    have clear := List.find?_eq_none.1 found
    refine absurd ((definition.expressible_iff).2 ?_) unlawful
    intro statement member
    exact Option.not_isSome_iff_eq_none.1 (clear statement member)
  | some statement =>
    obtain ⟨faulty, front, back, split, clear⟩ := List.find?_eq_some_iff_append.1 found
    obtain ⟨fault, faulty⟩ := Option.isSome_iff_exists.1 faulty
    refine ⟨front, statement, back, fault, split, ?_, faulty⟩
    intro earlier member
    simpa using clear earlier member

def Restores (text : String) : Prop :=
  ∃ read, ofJson text = .ok read ∧ read.statements = definition.statements ∧
    read.contexts = definition.contexts

def Rejects (text : String) : Prop :=
  ∃ front statement back fault detail, definition.toList = front ++ statement :: back ∧
    (∀ earlier ∈ front, earlier.Expressible) ∧ ¬ statement.Expressible ∧
    statement.inexpressible? = some fault ∧
    ofJson text = .error (.grammar ⟨fault, none⟩) ∧
    (Json.Mismatch.grammar ⟨fault, none⟩).message? = some (GrammarFault.malformed detail)

section

variable (text : String) (read : Json.read text.toList = (definition.toJson.reading, true))

include read

theorem restores_expressible (expressible : definition.Expressible) :
    ofJson text = .ok definition := by
  rw [of_json_written definition text read,
    of_statements_clear definition ((definition.expressible_iff).1 expressible)]
  rfl

theorem rejects_inexpressible (unlawful : ¬ definition.Expressible) : definition.Rejects text := by
  obtain ⟨front, statement, back, fault, split, clear, faulty⟩ :=
    definition.first_inexpressible unlawful
  obtain ⟨detail, message⟩ := inexpressible_malformed statement fault faulty
  refine ⟨front, statement, back, fault, detail, split, ?_, ?_, faulty, ?_, congrArg some message⟩
  · intro earlier member
    exact expressible_of_none earlier (clear earlier member)
  · intro lawful
    rw [none_of_expressible statement lawful] at faulty
    cases faulty
  · rw [of_json_written definition text read,
      of_statements_faulty definition front back statement fault split clear faulty]
    rfl

end

end Definition

theorem stored_definitions_read_back (definition : Definition) (text : String)
    (stored : text = definition.toJson.compact ∨ text = definition.toJson.pretty) :
    Definition.ofJson text = (Definition.ofStatements definition.toList).mapError .grammar ∧
      (definition.Restores text ↔ definition.Expressible) ∧
      (definition.Rejects text ↔ ¬ definition.Expressible) := by
  have read : Json.read text.toList = (definition.toJson.reading, true) := by
    rcases stored with rfl | rfl
    · exact Json.read_compact definition.toJson
    · exact Json.read_pretty definition.toJson
  refine ⟨definition.of_json_written text read, ⟨?_, ?_⟩, ⟨?_, ?_⟩⟩
  · intro ⟨restored, success, same, _⟩
    have equal : restored = definition := by
      cases restored with
      | mk statements closed =>
        cases same
        rfl
    obtain ⟨given, built⟩ := Definition.of_json_ok text restored success
    exact equal ▸ Definition.of_statements_expressible given restored built
  · intro expressible
    exact ⟨definition, definition.restores_expressible text read expressible, rfl, rfl⟩
  · intro ⟨_, _, _, _, _, _, _, _, _, failed, _⟩ expressible
    rw [definition.restores_expressible text read expressible] at failed
    cases failed
  · exact definition.rejects_inexpressible text read

def strangers : Definition :=
  ⟨⟨[("a", [[⟨"b \"c\"\n", .atMostOne⟩]]), ("b \"c\"\n", [])], by decide⟩, by decide⟩

theorem letters_strangers_stored :
    (letters.Restores letters.toJson.pretty ↔ letters.Expressible) ∧
      Definition.ofJson strangers.toJson.compact =
        .error (.grammar ⟨.referenceName "b \"c\"\n", none⟩) ∧
      (strangers.Rejects strangers.toJson.compact ↔ ¬ strangers.Expressible) := by
  obtain ⟨_, restored, _⟩ := stored_definitions_read_back letters letters.toJson.pretty (.inr rfl)
  obtain ⟨verdict, _, rejected⟩ :=
    stored_definitions_read_back strangers strangers.toJson.compact (.inl rfl)
  exact ⟨restored, verdict.trans rfl, rejected⟩

end TreeGrammar
