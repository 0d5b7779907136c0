import TreeGrammar.Definition.Building
import TreeGrammar.Definition.Json
set_option autoImplicit false

namespace TreeGrammar

namespace NameMap

variable {α : Type}

theorem contains_later (map : NameMap α) (name : String)
    (later : ∀ entry ∈ map.entries, entry.1 < name) : map.contains name = false := by
  have absent : map.entries.lookup name = none := by
    apply List.lookup_eq_none_iff.2
    intro entry member
    apply bne_iff_ne.2
    intro same
    have smaller := later entry member
    rw [← same] at smaller
    exact String.lt_irrefl name smaller
  rw [contains, get?, absent]
  rfl

theorem alter_entries_later (name : String) (change : Option α → α) (entries : List (String × α))
    (later : ∀ entry ∈ entries, entry.1 < name) :
    alterEntries name change entries = entries ++ [(name, change none)] := by
  induction entries with
  | nil => rfl
  | cons entry rest ih =>
    have smaller := later entry (.head _)
    have others := ih fun other member => later other (.tail _ member)
    have different : ¬ name = entry.1 := by
      intro same
      rw [same] at smaller
      exact String.lt_irrefl entry.1 smaller
    rw [alterEntries, if_neg (String.lt_asymm smaller), if_neg different, others]
    rfl

theorem insert_later (map : NameMap α) (name : String) (value : α)
    (later : ∀ entry ∈ map.entries, entry.1 < name) :
    (map.insert name value).entries = map.entries ++ [(name, value)] :=
  alter_entries_later name (fun _ => value) map.entries later

theorem insert_ascending (map : NameMap α) (name : String) (value : α) (names : List String)
    (ascending : (map.entries.map Prod.fst ++ name :: names).Pairwise (· < ·)) :
    map.contains name = false ∧
      (map.insert name value).entries = map.entries ++ [(name, value)] ∧
      ((map.insert name value).entries.map Prod.fst ++ names).Pairwise (· < ·) := by
  have later : ∀ entry ∈ map.entries, entry.1 < name := by
    intro entry member
    exact (List.pairwise_append.1 ascending).2.2 entry.1 (List.mem_map_of_mem member) name (.head _)
  have inserted := insert_later map name value later
  refine ⟨contains_later map name later, inserted, ?_⟩
  rw [inserted, List.map_append, List.append_assoc]
  exact ascending

theorem map_eq (first second : NameMap α) (same : first.entries = second.entries) :
    first = second := by
  cases first with
  | mk entries ordered =>
    cases second with
    | mk others orderedOthers =>
      cases same
      rfl

end NameMap

theorem flatten_alternatives (declaration : Declaration) :
    declaration.alternatives.flatten = declaration.mentions.map Mention.reference := by
  rw [Declaration.alternatives, Declaration.mentions, List.map_flatten]

namespace Definition

theorem declare_ascending (declarations : List Declaration) (statements : Statements)
    (ascending : (statements.entries.map Prod.fst ++ declarations.map Declaration.name).Pairwise
      (· < ·)) :
    ∃ declared, declare statements declarations = .ok declared ∧
      declared.entries = statements.entries ++
        declarations.map fun declaration => (declaration.name, declaration.alternatives) := by
  induction declarations generalizing statements with
  | nil => exact ⟨statements, rfl, (List.append_nil _).symm⟩
  | cons first rest ih =>
    obtain ⟨fresh, inserted, onward⟩ :=
      NameMap.insert_ascending statements first.name first.alternatives _ ascending
    obtain ⟨declared, success, entries⟩ := ih (statements.insert first.name first.alternatives) onward
    refine ⟨declared, ?_, ?_⟩
    · rw [declare, fresh]
      exact success
    · rw [entries, inserted, List.append_assoc]
      rfl

theorem mem_collect (given : List Statement) (statements collected : Statements)
    (success : collect statements given = .ok collected) (entry : String × List Alternative)
    (member : entry ∈ collected.entries) :
    entry ∈ statements.entries ∨
      ∃ statement ∈ given, statement.inexpressible? = none ∧
        entry = (statement.name, statement.alternatives) := by
  induction given generalizing statements with
  | nil =>
    cases success
    exact .inl member
  | cons first rest ih =>
    rw [collect] at success
    cases expressible : first.inexpressible? with
    | some fault =>
      rw [expressible] at success
      cases success
    | none =>
      simp only [expressible] at success
      by_cases repeated : statements.contains first.name = true
      · rw [if_pos repeated] at success
        cases success
      · rw [if_neg repeated] at success
        rcases ih _ success with old | ⟨statement, among, known, same⟩
        · have found : _ = some entry.2 := NameMap.get?_of_mem old
          rw [NameMap.get?_insert] at found
          by_cases here : entry.1 = first.name
          · rw [if_pos here] at found
            refine .inr ⟨first, .head _, expressible, ?_⟩
            rw [← here, Option.some.inj found]
          · rw [if_neg here] at found
            exact .inl (NameMap.mem_of_get? found)
        · exact .inr ⟨statement, .tail _ among, known, same⟩

theorem of_statements_ok (given : List Statement) (definition : Definition)
    (success : ofStatements given = .ok definition) :
    collect ∅ given = .ok definition.statements := by
  rw [ofStatements] at success
  split at success
  · cases success
  · rename_i collected found
    split at success
    · cases success
    · cases success
      exact found

theorem of_declarations_ok (source : String) (declarations : List Declaration)
    (definition : Definition) (success : ofDeclarations source declarations = .ok definition) :
    declare ∅ declarations = .ok definition.statements := by
  unfold ofDeclarations at success
  split at success
  · cases success
  · rename_i declared found
    split at success
    · cases success
    · cases success
      exact found

theorem parse_ok (source text : String) (definition : Definition)
    (success : parse source text = .ok definition) :
    ∃ declarations, readDeclarations source text = .ok declarations ∧
      ofDeclarations source declarations = .ok definition := by
  rw [parse] at success
  cases declared : readDeclarations source text with
  | error fault =>
    rw [declared] at success
    cases success
  | ok declarations =>
    rw [declared] at success
    exact ⟨declarations, rfl, success⟩

theorem json_statements_ok (text : String) (definition : Definition)
    (success : ofJson text = .ok definition) :
    ∃ given, (Json.read text.toList).1.toStatements = .ok given ∧
      ofStatements given = .ok definition := by
  rw [ofJson] at success
  cases given : (Json.read text.toList).1.toStatements with
  | error mismatch =>
    simp only [given, bind, Except.bind] at success
    cases success
  | ok statements =>
    cases built : ofStatements statements with
    | error fault =>
      simp only [given, built, bind, Except.bind] at success
      cases success
    | ok read =>
      simp only [given, built, bind, Except.bind] at success
      by_cases ended : (Json.read text.toList).2 = true
      · rw [if_pos ended] at success
        cases success
        exact ⟨statements, rfl, built⟩
      · rw [if_neg ended] at success
        cases success

theorem of_declarations_listed (source : String) (declarations : List Declaration)
    (definition : Definition)
    (same : declarations.map Declaration.statement = definition.toList) :
    ofDeclarations source declarations = .ok definition := by
  have listed : declarations.map (fun declaration => (declaration.name, declaration.alternatives)) =
      definition.statements.entries := by
    have pairs := congrArg (List.map fun statement : Statement =>
      (statement.name, statement.alternatives)) same
    rw [toList, List.map_map, List.map_map] at pairs
    exact pairs.trans (List.map_id _)
  have names : declarations.map Declaration.name = definition.statements.entries.map Prod.fst := by
    rw [← listed, List.map_map]
    rfl
  obtain ⟨declared, success, entries⟩ := declare_ascending declarations ∅ (by
    change (declarations.map Declaration.name).Pairwise _
    rw [names]
    exact List.pairwise_map.2 definition.statements.ordered)
  have rebuilt : declared = definition.statements := by
    apply NameMap.map_eq
    rw [entries, listed]
    rfl
  subst rebuilt
  unfold ofDeclarations
  split
  · rename_i repeated failed
    rw [success] at failed
    cases failed
  · rename_i again found
    rw [success] at found
    cases found
    split
    · rename_i mention undefined
      have unknown := List.find?_some undefined
      obtain ⟨declaration, among, mentioned⟩ := List.mem_flatMap.1 (List.mem_of_find?_eq_some undefined)
      have known := definition.closed mention.reference (by
        rw [Statements.references, ← listed, List.flatMap_map]
        refine List.mem_flatMap.2 ⟨declaration, among, ?_⟩
        rw [flatten_alternatives]
        exact List.mem_map_of_mem mentioned)
      rw [Bool.not_eq_true'] at unknown
      exact absurd known (by rw [Mention.reference, unknown]; decide)
    · rfl

end Definition

end TreeGrammar
