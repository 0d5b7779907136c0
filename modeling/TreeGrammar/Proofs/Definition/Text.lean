import TreeGrammar.Definition.Building
import TreeGrammar.Proofs.Declaration.Written
import TreeGrammar.Proofs.Token.Lexing
set_option autoImplicit false

namespace TreeGrammar

def Reference.printed (reference : Reference) : Tagged :=
  ⟨reference.name,
    if reference.multiplicity = .exactlyOne then none else some reference.multiplicity⟩

def Statement.written (statement : Statement) : Written :=
  ⟨statement.name,
    if statement.alternatives = [] then none
    else some (statement.alternatives.map (·.map Reference.printed))⟩

structure Statement.Expressible (statement : Statement) : Prop where
  name : isIdentifier statement.name = true
  filled : [] ∉ statement.alternatives
  references : ∀ reference ∈ statement.references, isIdentifier reference.name = true

theorem expressible_of_none (statement : Statement) (none : statement.inexpressible? = none) :
    statement.Expressible := by
  rw [Statement.inexpressible?] at none
  split at none
  · cases none
  · rename_i name
    split at none
    · cases none
    · rename_i filled
      refine ⟨by simpa using name, ?_, ?_⟩
      · intro empty
        exact filled (List.any_eq_true.2 ⟨[], empty, rfl⟩)
      · intro reference member
        have found := List.find?_eq_none.1 (Option.map_eq_none_iff.1 none) reference member
        simpa using found

theorem printed_reference (reference : Reference) : reference.printed.reference = reference := by
  cases reference with
  | mk name multiplicity => cases multiplicity <;> rfl

theorem printed_text (reference : Reference) : reference.printed.text = reference.text := by
  cases reference with
  | mk name multiplicity => cases multiplicity <;> rfl

theorem printed_alternative (alternative : Alternative) :
    (alternative.map Reference.printed).map Tagged.reference = alternative := by
  induction alternative with
  | nil => rfl
  | cons reference rest ih => rw [List.map_cons, List.map_cons, ih, printed_reference]

theorem written_statement (statement : Statement) : statement.written.statement = statement := by
  cases statement with
  | mk name alternatives =>
    by_cases leaf : alternatives = []
    · rw [leaf]
      rfl
    · have back : alternatives.map (fun alternative =>
          (alternative.map Reference.printed).map Tagged.reference) = alternatives :=
        (List.map_congr_left fun alternative _ => printed_alternative alternative).trans
          (List.map_id _)
      rw [Statement.written, if_neg leaf, Written.statement, Option.getD_some, List.map_map]
      exact congrArg (Statement.mk name) back

theorem written_proper (statement : Statement) (expressible : statement.Expressible) :
    statement.written.Proper := by
  intro contents written
  rw [Statement.written] at written
  by_cases leaf : statement.alternatives = []
  · rw [if_pos leaf] at written
    cases written
  · rw [if_neg leaf] at written
    cases written
    refine ⟨fun empty => leaf (List.map_eq_nil_iff.1 empty), ?_⟩
    intro empty
    obtain ⟨alternative, member, same⟩ := List.mem_map.1 empty
    rw [List.map_eq_nil_iff.1 same] at member
    exact expressible.filled member

theorem spells_name (name : String) (rest : List Char) (tokens : List Token)
    (identifier : isIdentifier name = true) (apart : Apart rest) (spells : Spells rest tokens) :
    Spells (name.toList ++ rest) (.identifier name :: tokens) := by
  have word := spells_word name.toList rest tokens
  rw [String.ofList_toList] at word
  exact word identifier apart spells

theorem spells_tagged (tagged : Tagged) (rest : List Char) (tokens : List Token)
    (identifier : isIdentifier tagged.name = true) (apart : Apart rest)
    (spells : Spells rest tokens) :
    Spells (tagged.text.toList ++ rest) (tagged.tokens ++ tokens) := by
  cases tagged with
  | mk name tag =>
    cases tag with
    | none => exact spells_name name rest tokens identifier apart spells
    | some multiplicity =>
      have mark : Token.ofMark? multiplicity.tag = some (.tag multiplicity) := by
        cases multiplicity <;> decide
      have between : Apart (multiplicity.tag :: rest) := by
        intro c first
        cases first
        cases multiplicity <;> decide
      rw [Tagged.text, String.toList_push, List.append_assoc]
      exact spells_name name (multiplicity.tag :: rest) (.tag multiplicity :: tokens) identifier
        between (spells_mark multiplicity.tag (.tag multiplicity) rest tokens mark spells)

theorem spells_reference (reference : Reference) (rest : List Char) (tokens : List Token)
    (identifier : isIdentifier reference.name = true) (apart : Apart rest)
    (spells : Spells rest tokens) :
    Spells (reference.text.toList ++ rest) (reference.printed.tokens ++ tokens) := by
  rw [← printed_text]
  exact spells_tagged reference.printed rest tokens identifier apart spells

theorem spells_alternative (alternative : Alternative) (rest : List Char) (tokens : List Token)
    (filled : alternative ≠ [])
    (identifiers : ∀ reference ∈ alternative, isIdentifier reference.name = true)
    (apart : Apart rest) (spells : Spells rest tokens) :
    Spells (alternative.text.toList ++ rest)
      (Written.alternativeTokens (alternative.map Reference.printed) ++ tokens) := by
  induction alternative with
  | nil => exact absurd rfl filled
  | cons reference others ih =>
    have here := identifiers reference (.head _)
    cases others with
    | nil =>
      have only := spells_reference reference rest tokens here apart spells
      simpa [Alternative.text, Written.alternativeTokens] using only
    | cons second others =>
      have later := ih (List.cons_ne_nil _ _) fun other listed => identifiers other (.tail _ listed)
      have blank := spells_blank ' ' _ _ (by decide) later
      have between : Apart (' ' :: (Alternative.text (second :: others)).toList ++ rest) := by
        intro c first
        cases first
        decide
      have whole := spells_reference reference _ _ here between blank
      simpa [Alternative.text, Written.alternativeTokens] using whole

theorem spells_alternatives (alternatives : List Alternative) (rest : List Char)
    (tokens : List Token) (filled : [] ∉ alternatives)
    (identifiers : ∀ reference ∈ alternatives.flatten, isIdentifier reference.name = true)
    (apart : Apart rest) (spells : Spells rest tokens) :
    Apart ((Statement.alternativesText " | " alternatives).toList ++ rest) ∧
      Spells ((Statement.alternativesText " | " alternatives).toList ++ rest)
        ((alternatives.flatMap fun alternative =>
          .pipe :: Written.alternativeTokens (alternative.map Reference.printed)) ++ tokens) := by
  induction alternatives with
  | nil => exact ⟨apart, spells⟩
  | cons alternative others ih =>
    have inside : ∀ reference ∈ alternative, isIdentifier reference.name = true :=
      fun reference member => identifiers reference (List.mem_flatten.2 ⟨_, .head _, member⟩)
    obtain ⟨between, later⟩ := ih (fun empty => filled (.tail _ empty)) fun reference member => by
      obtain ⟨other, listed, among⟩ := List.mem_flatten.1 member
      exact identifiers reference (List.mem_flatten.2 ⟨other, .tail _ listed, among⟩)
    have here := spells_alternative alternative _ _ (fun empty => filled (empty ▸ .head _)) inside
      between later
    have marked := spells_blank ' ' _ _ (by decide)
      (spells_mark '|' .pipe _ _ rfl (spells_blank ' ' _ _ (by decide) here))
    refine ⟨?_, ?_⟩
    · intro c first
      simp [Statement.alternativesText] at first
      rw [← first]
      decide
    · simpa [Statement.alternativesText] using marked

theorem spells_statement (statement : Statement) (rest : List Char) (tokens : List Token)
    (expressible : statement.Expressible) (spells : Spells rest tokens) :
    Spells (statement.text.toList ++ rest) (statement.written.tokens ++ tokens) := by
  obtain ⟨identifier, filled, identifiers⟩ := expressible
  have ended := spells_mark ';' .semicolon rest tokens rfl spells
  have apart : Apart (';' :: rest) := by
    intro c first
    cases first
    decide
  cases statement with
  | mk name alternatives =>
    cases alternatives with
    | nil =>
      have bare := spells_name name (';' :: rest) _ identifier apart ended
      simpa [Statement.text, Statement.alternativesText, Statement.written, Written.tokens] using bare
    | cons alternative others =>
      obtain ⟨between, later⟩ := spells_alternatives others (';' :: rest) _
        (fun empty => filled (.tail _ empty))
        (fun reference member => identifiers reference (by
          rw [Statement.references, List.flatten_cons]
          exact List.mem_append_right _ member))
        apart ended
      have first := spells_alternative alternative _ _ (fun empty => filled (empty ▸ .head _))
        (fun reference member => identifiers reference (by
          rw [Statement.references, List.flatten_cons]
          exact List.mem_append_left _ member))
        between later
      have colon := spells_mark ':' .colon _ _ rfl (spells_blank ' ' _ _ (by decide) first)
      have whole := spells_name name _ _ identifier (by
        intro c first
        cases first
        decide) colon
      simpa [Statement.text, Statement.alternativesText, Statement.written, Written.tokens,
        Written.contentsTokens, List.flatMap_map] using whole

theorem spells_statements (statements : List Statement)
    (expressible : ∀ statement ∈ statements, statement.Expressible) :
    Spells (statements.foldr (fun statement rest => statement.text ++ "\n" ++ rest) "").toList
      (statements.flatMap fun statement => statement.written.tokens) := by
  induction statements with
  | nil => exact spells_nil
  | cons statement rest ih =>
    have later := spells_blank '\n' _ _ (by decide)
      (ih fun other listed => expressible other (.tail _ listed))
    have here := spells_statement statement _ _ (expressible statement (.head _)) later
    simpa using here

end TreeGrammar
