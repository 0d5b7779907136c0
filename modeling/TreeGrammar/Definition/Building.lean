import TreeGrammar.Declaration.Reader
import TreeGrammar.Definition
set_option autoImplicit false

namespace TreeGrammar

namespace Statement

def inexpressible? (statement : Statement) : Option GrammarFault :=
  if !isIdentifier statement.name then some (.statementName statement.name)
  else if statement.alternatives.any List.isEmpty then some (.emptyAlternative statement.name)
  else (statement.references.find? (!isIdentifier ·.name)).map (.referenceName ·.name)

end Statement

namespace Definition

def collect (statements : Statements) : List Statement → Except GrammarFault Statements
  | [] => .ok statements
  | statement :: rest =>
    match statement.inexpressible? with
    | some fault => .error fault
    | none =>
      if statements.contains statement.name then .error (.duplicateStatement statement.name)
      else collect (statements.insert statement.name statement.alternatives) rest

def ofStatements (statements : List Statement) : Except GrammarError Definition :=
  match collect ∅ statements with
  | .error fault => .error ⟨fault, none⟩
  | .ok collected =>
    match undefined : collected.references.find? (!collected.contains ·.name) with
    | some reference => .error ⟨.undefinedReference reference.name, none⟩
    | none => .ok ⟨collected, fun reference member => by
        simpa using List.find?_eq_none.1 undefined reference member⟩

def declare (statements : Statements) : List Declaration → Except Declaration Statements
  | [] => .ok statements
  | declaration :: rest =>
    if statements.contains declaration.name then .error declaration
    else declare (statements.insert declaration.name declaration.alternatives) rest

theorem mem_declare {declarations : List Declaration} {statements declared : Statements}
    (success : declare statements declarations = .ok declared) {entry : String × List Alternative}
    (member : entry ∈ declared.entries) :
    entry ∈ statements.entries ∨
      ∃ declaration ∈ declarations, entry = (declaration.name, declaration.alternatives) := by
  induction declarations generalizing statements with
  | nil =>
    cases success
    exact .inl member
  | cons first rest ih =>
    rw [declare] at success
    split at success
    · cases success
    · rcases ih success with old | ⟨declaration, among, same⟩
      · obtain ⟨name, alternatives⟩ := entry
        have found := NameMap.get?_of_mem old
        rw [NameMap.get?_insert] at found
        split at found
        · rename_i here
          exact .inr ⟨first, .head _, by rw [here, Option.some.inj found]⟩
        · exact .inl (NameMap.mem_of_get? found)
      · exact .inr ⟨declaration, .tail _ among, same⟩

theorem mention_of_declare {declarations : List Declaration} {declared : Statements}
    (success : declare ∅ declarations = .ok declared) {reference : Reference}
    (member : reference ∈ declared.references) :
    ∃ mention ∈ declarations.flatMap Declaration.mentions, mention.reference = reference := by
  obtain ⟨entry, among, inside⟩ := List.mem_flatMap.1 member
  rcases mem_declare success among with old | ⟨declaration, listed, same⟩
  · cases old
  · rw [same] at inside
    obtain ⟨alternative, alternativeMember, referenceMember⟩ := List.mem_flatten.1 inside
    obtain ⟨mentions, mentionsMember, rfl⟩ := List.mem_map.1 alternativeMember
    obtain ⟨mention, mentionMember, rfl⟩ := List.mem_map.1 referenceMember
    exact ⟨mention, List.mem_flatMap.2
      ⟨declaration, listed, List.mem_flatten.2 ⟨mentions, mentionsMember, mentionMember⟩⟩, rfl⟩

def ofDeclarations (source : String) (declarations : List Declaration) :
    Except GrammarError Definition :=
  match success : declare ∅ declarations with
  | .error repeated =>
    .error ⟨.duplicateStatement repeated.name, some ⟨source, repeated.position⟩⟩
  | .ok declared =>
    match undefined : (declarations.flatMap Declaration.mentions).find?
        (!declared.contains ·.name) with
    | some mention => .error ⟨.undefinedReference mention.name, some ⟨source, mention.position⟩⟩
    | none => .ok ⟨declared, fun reference member => by
        obtain ⟨mention, listed, rfl⟩ := mention_of_declare success member
        simpa [Mention.reference] using List.find?_eq_none.1 undefined mention listed⟩

def parse (source text : String) : Except GrammarError Definition := do
  ofDeclarations source (← readDeclarations source text)

end Definition

end TreeGrammar
