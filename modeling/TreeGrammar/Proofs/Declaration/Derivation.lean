import TreeGrammar.Proofs.Declaration.Grammar
set_option autoImplicit false

namespace TreeGrammar

def Token.multiplicity? : Token → Option Multiplicity
  | .tag multiplicity => some multiplicity
  | _ => none

def tagNext (lexemes : List Lexeme) : Option Multiplicity :=
  lexemes.head?.bind (·.token.multiplicity?)

def namesIn : List Lexeme → List Mention
  | [] => []
  | lexeme :: rest =>
    match lexeme.token with
    | .identifier name => ⟨name, tagNext rest, lexeme.position⟩ :: namesIn rest
    | _ => namesIn rest

def Declaration.names (declaration : Declaration) : List Mention :=
  ⟨declaration.name, none, declaration.position⟩ :: declaration.mentions

theorem names_append (front back : List Lexeme) (untagged : tagNext back = none) :
    namesIn (front ++ back) = namesIn front ++ namesIn back := by
  induction front with
  | nil => rfl
  | cons lexeme rest ih =>
    have next : tagNext (rest ++ back) = tagNext rest := by
      cases rest with
      | nil => exact untagged
      | cons second others => rfl
    rw [List.cons_append, namesIn, namesIn, ih, next]
    split
    · rfl
    · rfl

namespace Reading

def unfinishedNames : Unfinished → List Mention
  | .nothing => []
  | .named name position => [⟨name, none, position⟩]
  | .within name position finished current =>
    ⟨name, none, position⟩ :: (finished.reverse.flatten ++ current.reverse)

def names (reading : Reading) : List Mention :=
  reading.declared.reverse.flatMap Declaration.names ++ unfinishedNames reading.unfinished

theorem names_mention (declared : List Declaration) (name : String) (position : Position)
    (finished : List (List Mention)) (current : List Mention) (mention : Mention) :
    names ⟨declared, .within name position finished (mention :: current)⟩ =
      names ⟨declared, .within name position finished current⟩ ++ [mention] := by
  simp [names, unfinishedNames]

theorem last_mentioned (declared : List Declaration) (name : String) (position : Position)
    (finished : List (List Mention)) (current : List Mention) (mentioned : String)
    (place : Position) (front : List Lexeme)
    (spelled : tokens ⟨declared, .within name position finished (⟨mentioned, none, place⟩ :: current)⟩ =
      front.map Lexeme.token) :
    ∃ before word, front = before ++ [word] ∧ word.token = .identifier mentioned := by
  have ends : front.map Lexeme.token =
      tokens ⟨declared, .within name position finished current⟩ ++ [.identifier mentioned] := by
    rw [← spelled]
    simp [tokens, unfinishedTokens, Written.alternativeTokens, Mention.tagged, Tagged.tokens]
  obtain ⟨before, after, rfl, _, last⟩ := List.map_eq_append_iff.1 ends
  obtain ⟨word, others, rfl, named, none⟩ := List.map_eq_cons_iff.1 last
  rw [List.map_eq_nil_iff.1 none]
  exact ⟨before, word, rfl, named⟩

theorem steps_names (reading next : Reading) (lexeme : Lexeme) (front : List Lexeme)
    (steps : Steps reading lexeme next) (spelled : reading.tokens = front.map Lexeme.token)
    (named : reading.names = namesIn front) : next.names = namesIn (front ++ [lexeme]) := by
  have plain (untagged : lexeme.token.multiplicity? = none)
      (added : next.names = reading.names ++ namesIn [lexeme]) :
      next.names = namesIn (front ++ [lexeme]) := by
    rw [added, named, names_append front [lexeme] untagged]
  cases steps with
  | name declared lexeme name token =>
    apply plain
    · exact congrArg Token.multiplicity? token
    · simp [names, unfinishedNames, namesIn, token, tagNext]
  | bare declared lexeme name position token =>
    apply plain
    · exact congrArg Token.multiplicity? token
    · simp [names, unfinishedNames, namesIn, token, Declaration.names, Declaration.mentions]
  | colon declared lexeme name position token =>
    apply plain
    · exact congrArg Token.multiplicity? token
    · simp [names, unfinishedNames, namesIn, token]
  | mention declared lexeme name position finished current mentioned token =>
    apply plain
    · exact congrArg Token.multiplicity? token
    · simp [names_mention, namesIn, token, tagNext]
  | tag declared lexeme name position finished current mentioned place multiplicity token =>
    -- The tag belongs to the name before it and changes what was found there.
    obtain ⟨before, word, rfl, mention⟩ := last_mentioned declared name position finished current
      mentioned place front spelled
    have untagged : tagNext [word] = none := by simp [tagNext, mention, Token.multiplicity?]
    rw [names_mention, names_append before [word] untagged] at named
    obtain ⟨earlier, last⟩ := List.append_inj' named (by simp [namesIn, mention])
    have here : place = word.position := by simpa [namesIn, mention, tagNext] using last
    rw [names_mention, List.append_assoc, List.singleton_append,
      names_append before [word, lexeme] untagged, earlier, here]
    simp [namesIn, mention, token, tagNext, Token.multiplicity?]
  | pipe declared lexeme name position finished current begun token =>
    apply plain
    · exact congrArg Token.multiplicity? token
    · simp [names, unfinishedNames, namesIn, token]
  | close declared lexeme name position finished current begun token =>
    apply plain
    · exact congrArg Token.multiplicity? token
    · simp [names, unfinishedNames, namesIn, token, Declaration.names, Declaration.mentions]

theorem read_names (lexemes : List Lexeme) (next : Reading)
    (read : start.readAll lexemes = .ok next) : next.names = namesIn lexemes := by
  refine (read_invariant (fun front later => later.tokens = front.map Lexeme.token ∧
    later.names = namesIn front) ?_ start next [] lexemes ⟨rfl, rfl⟩ read).2
  intro front middle lexeme last steps before
  refine ⟨?_, steps_names middle last lexeme front steps before.1 before.2⟩
  rw [steps_tokens middle last lexeme steps, before.1, List.map_append]
  rfl

end Reading

theorem read_declarations_names (source text : String) (found : List Lexeme)
    (declarations : List Declaration) (tokenized : tokenize source text = .ok found)
    (success : readDeclarations source text = .ok declarations) :
    declarations.flatMap Declaration.names = namesIn found := by
  obtain ⟨others, again, read⟩ := read_declarations_run source text declarations success
  rw [tokenized] at again
  cases again
  have names := Reading.read_names found _ read
  rw [Reading.names, Reading.unfinishedNames, List.append_nil, List.reverse_reverse] at names
  exact names

theorem read_declarations_derives (source text : String) (found : List Lexeme)
    (declarations : List Declaration) (tokenized : tokenize source text = .ok found)
    (success : readDeclarations source text = .ok declarations) :
    Grammar.Derives (declarations.map Declaration.written) (found.map Lexeme.token) := by
  obtain ⟨proper, others, again, spelled⟩ :=
    read_declarations_tokens source text declarations success
  rw [tokenized] at again
  cases again
  refine ⟨?_, ?_⟩
  · intro written member
    obtain ⟨declaration, listed, rfl⟩ := List.mem_map.1 member
    exact proper declaration listed
  · rw [List.flatMap_map, spelled]

theorem tokenize_places (source text : String) (found : List Lexeme)
    (tokenized : tokenize source text = .ok found) :
    ∀ lexeme ∈ found, lexeme.position = Position.ofOffset text lexeme.start := by
  intro lexeme member
  have layout := (tokenize_layout source text found).1 tokenized
  exact ((layout_in text [] text.toList found layout rfl).1 lexeme member).1.place

theorem read_is_derivation (source text : String) (found : List Lexeme)
    (tokenized : tokenize source text = .ok found) :
    ((∃ declarations, readDeclarations source text = .ok declarations) ↔
      found.map Lexeme.token ∈ Grammar.definition) ∧
    ∀ declarations, readDeclarations source text = .ok declarations →
      (declarations.flatMap fun declaration => declaration.written.tokens) =
        found.map Lexeme.token ∧
      (∀ writings, Grammar.Derives writings (found.map Lexeme.token) ↔
        writings = declarations.map Declaration.written) ∧
      (∀ declaration ∈ declarations, declaration.contents = none ↔
        declaration.written.tokens = [.identifier declaration.name, .semicolon]) ∧
      declarations.flatMap Declaration.names = namesIn found ∧
      ∀ lexeme ∈ found, lexeme.position = Position.ofOffset text lexeme.start := by
  have derived := fun declarations =>
    read_declarations_derives source text found declarations tokenized
  refine ⟨⟨?_, ?_⟩, ?_⟩
  · intro ⟨declarations, success⟩
    exact (Grammar.mem_definition _).2 ⟨_, derived declarations success⟩
  · intro sentence
    obtain ⟨writings, proper, spelled⟩ := (Grammar.mem_definition _).1 sentence
    obtain ⟨declarations, success, _⟩ :=
      read_declarations_ok source text found tokenized writings proper spelled.symm
    exact ⟨declarations, success⟩
  · intro declarations success
    refine ⟨?_, ?_, ?_, read_declarations_names source text found declarations tokenized success,
      tokenize_places source text found tokenized⟩
    · rw [← (derived declarations success).spelled, List.flatMap_map]
    · intro writings
      constructor
      · intro ⟨proper, spelled⟩
        obtain ⟨others, again, same⟩ :=
          read_declarations_ok source text found tokenized writings proper spelled.symm
        rw [success] at again
        cases again
        exact same.symm
      · intro same
        subst same
        exact derived declarations success
    · intro declaration _
      cases declaration with
      | mk name position contents => cases contents <;> simp [Declaration.written, Written.tokens]

def starredLexemes : List Lexeme :=
  [⟨.identifier "a", 0, 1, ⟨1, 1⟩⟩, ⟨.colon, 1, 2, ⟨1, 2⟩⟩, ⟨.identifier "b", 3, 4, ⟨1, 4⟩⟩,
    ⟨.tag .anyNumber, 4, 5, ⟨1, 5⟩⟩, ⟨.pipe, 6, 7, ⟨1, 7⟩⟩, ⟨.identifier "c", 8, 9, ⟨1, 9⟩⟩,
    ⟨.semicolon, 9, 10, ⟨1, 10⟩⟩]

def starredDeclarations : List Declaration :=
  [⟨"a", ⟨1, 1⟩, some [[⟨"b", some .anyNumber, ⟨1, 4⟩⟩], [⟨"c", none, ⟨1, 9⟩⟩]]⟩]

theorem starred_is_derivation :
    tokenize "stars" "a: b* | c;" = .ok starredLexemes ∧
    readDeclarations "stars" "a: b* | c;" = .ok starredDeclarations ∧
    starredLexemes.map Lexeme.token ∈ Grammar.definition ∧
    (∀ writings, Grammar.Derives writings (starredLexemes.map Lexeme.token) ↔
      writings = starredDeclarations.map Declaration.written) ∧
    starredDeclarations.flatMap Declaration.names = namesIn starredLexemes := by
  have tokenized : tokenize "stars" "a: b* | c;" = .ok starredLexemes := by decide +kernel
  have success : readDeclarations "stars" "a: b* | c;" = .ok starredDeclarations := by decide +kernel
  obtain ⟨accepted, derivation⟩ := read_is_derivation "stars" "a: b* | c;" starredLexemes tokenized
  obtain ⟨_, only, _, named, _⟩ := derivation starredDeclarations success
  exact ⟨tokenized, success, accepted.1 ⟨_, success⟩, only, named⟩

end TreeGrammar
