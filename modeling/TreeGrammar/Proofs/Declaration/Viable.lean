import TreeGrammar.Proofs.Declaration.Derivation
set_option autoImplicit false

namespace TreeGrammar

def Grammar.Viable (tokens : List Token) : Prop := ∃ whole ∈ definition, tokens <+: whole

theorem viable_shorter (front tokens : List Token) (within : front <+: tokens)
    (viable : Grammar.Viable tokens) : Grammar.Viable front := by
  obtain ⟨whole, sentence, starts⟩ := viable
  exact ⟨whole, sentence, within.trans starts⟩

def Token.loose (token : Token) : Lexeme := ⟨token, 0, 0, default⟩

namespace Reading

theorem can_finish (reading : Reading) :
    ∃ ending declared, reading.readAll ending = .ok ⟨declared, .nothing⟩ := by
  cases reading with
  | mk declared unfinished =>
    cases unfinished with
    | nothing => exact ⟨[], declared, rfl⟩
    | named name position => exact ⟨[Token.semicolon.loose], _, rfl⟩
    | within name position finished current =>
      cases current with
      | nil => exact ⟨[(Token.identifier name).loose, Token.semicolon.loose], _, rfl⟩
      | cons last earlier => exact ⟨[Token.semicolon.loose], _, rfl⟩

theorem viable_of_read (lexemes : List Lexeme) (reading : Reading)
    (read : start.readAll lexemes = .ok reading) : Grammar.Viable (lexemes.map Lexeme.token) := by
  obtain ⟨ending, declared, finished⟩ := can_finish reading
  have whole : start.readAll (lexemes ++ ending) = .ok ⟨declared, .nothing⟩ := by
    rw [read_append, read]
    exact finished
  obtain ⟨proper, tokens⟩ := read_tokens start _ _ ⟨nofun, nofun⟩ whole
  refine ⟨(lexemes ++ ending).map Lexeme.token, (Grammar.mem_definition _).2
    ⟨declared.reverse.map Declaration.written, ?_, ?_⟩, ?_⟩
  · intro written member
    obtain ⟨declaration, listed, rfl⟩ := List.mem_map.1 member
    exact proper.declared declaration (List.mem_reverse.1 listed)
  · rw [Reading.tokens, unfinishedTokens, List.append_nil] at tokens
    rw [List.flatMap_map]
    exact tokens
  · rw [List.map_append]
    exact List.prefix_append _ _

theorem read_of_viable (lexemes : List Lexeme)
    (viable : Grammar.Viable (lexemes.map Lexeme.token)) :
    ∃ reading, start.readAll lexemes = .ok reading := by
  obtain ⟨_, sentence, rest, rfl⟩ := viable
  obtain ⟨writings, proper, spelled⟩ := (Grammar.mem_definition _).1 sentence
  have tokens : (lexemes ++ rest.map Token.loose).map Lexeme.token =
      writings.flatMap Written.tokens := by
    rw [spelled, List.map_append, List.map_map]
    exact congrArg _ (List.map_id rest)
  obtain ⟨declarations, _, read⟩ := read_all_written [] _ writings proper tokens
  change start.readAll _ = _ at read
  rw [read_append] at read
  cases first : start.readAll lexemes with
  | error stopped =>
    rw [first] at read
    cases read
  | ok reading => exact ⟨reading, rfl⟩

theorem viable_iff_read (lexemes : List Lexeme) :
    Grammar.Viable (lexemes.map Lexeme.token) ↔ ∃ reading, start.readAll lexemes = .ok reading :=
  ⟨read_of_viable lexemes, fun ⟨reading, read⟩ => viable_of_read lexemes reading read⟩

theorem read_stop (reading : Reading) (lexemes : List Lexeme) (stopped : Lexeme)
    (read : reading.readAll lexemes = .error stopped) :
    ∃ front back, lexemes = front ++ stopped :: back ∧
      (∃ next, reading.readAll front = .ok next) ∧
      reading.readAll (front ++ [stopped]) = .error stopped := by
  induction lexemes generalizing reading with
  | nil => cases read
  | cons lexeme rest ih =>
    rw [read_cons] at read
    cases stepped : reading.step lexeme with
    | error other =>
      have same : other = lexeme := by
        rw [step] at stepped
        cases next : reading.step? lexeme with
        | some next =>
          rw [next] at stepped
          cases stepped
        | none =>
          rw [next] at stepped
          cases stepped
          rfl
      rw [stepped] at read
      cases read
      subst same
      refine ⟨[], rest, rfl, ⟨reading, rfl⟩, ?_⟩
      rw [List.nil_append, read_cons, stepped]
      rfl
    | ok middle =>
      rw [stepped] at read
      obtain ⟨front, back, split, ⟨next, before⟩, stops⟩ := ih middle read
      refine ⟨lexeme :: front, back, ?_, ⟨next, ?_⟩, ?_⟩
      · rw [split, List.cons_append]
      · rw [read_cons, stepped]
        exact before
      · rw [List.cons_append, read_cons, stepped]
        exact stops

end Reading

theorem stop_least (front : List Lexeme) (stopped : Lexeme) (back : List Lexeme)
    (before : Grammar.Viable (front.map Lexeme.token))
    (stuck : ¬ Grammar.Viable ((front ++ [stopped]).map Lexeme.token)) :
    IsLeast {i | ¬ Grammar.Viable (((front ++ stopped :: back).map Lexeme.token).take (i + 1))}
      front.length := by
  refine ⟨?_, ?_⟩
  · have taken : (front ++ stopped :: back).take (front.length + 1) = front ++ [stopped] := by
      simp [List.take_append]
    change ¬ Grammar.Viable _
    rw [← List.map_take, taken]
    exact stuck
  · intro i later
    by_contra earlier
    rw [Nat.not_le] at earlier
    apply later
    apply viable_shorter _ (front.map Lexeme.token) _ before
    have inside : i + 1 ≤ (front.map Lexeme.token).length := by
      rw [List.length_map]
      omega
    rw [List.map_append, List.take_append_of_le_length inside]
    exact List.take_prefix _ _

theorem read_declarations_error (source text : String) (found : List Lexeme) (error : GrammarError)
    (tokenized : tokenize source text = .ok found)
    (rejected : readDeclarations source text = .error error) :
    (Grammar.Viable (found.map Lexeme.token) ∧
      error = ⟨.unexpectedEnd, some ⟨source, .endOf text⟩⟩) ∨
    ∃ front stopped back, found = front ++ stopped :: back ∧
      Grammar.Viable (front.map Lexeme.token) ∧
      ¬ Grammar.Viable ((front ++ [stopped]).map Lexeme.token) ∧
      error = ⟨.unexpectedToken stopped.token, some ⟨source, stopped.position⟩⟩ := by
  rw [readDeclarations, tokenized] at rejected
  simp only [bind, Except.bind] at rejected
  cases read : Reading.start.readAll found with
  | ok reading =>
    rw [read] at rejected
    refine .inl ⟨Reading.viable_of_read found reading read, ?_⟩
    cases finished : reading.finish? with
    | some declarations =>
      simp only [finished] at rejected
      cases rejected
    | none =>
      simp only [finished] at rejected
      cases rejected
      rfl
  | error stopped =>
    rw [read] at rejected
    cases rejected
    obtain ⟨front, back, split, before, stops⟩ := Reading.read_stop _ found stopped read
    refine .inr ⟨front, stopped, back, split, (Reading.viable_iff_read front).2 before, ?_, rfl⟩
    rw [Reading.viable_iff_read, stops]
    rintro ⟨_, impossible⟩
    cases impossible

theorem syntax_error_after_viable (source text : String) (found : List Lexeme) (error : GrammarError)
    (tokenized : tokenize source text = .ok found)
    (rejected : readDeclarations source text = .error error) :
    (Grammar.Viable (found.map Lexeme.token) →
      error = ⟨.unexpectedEnd, some ⟨source, .after text.toList⟩⟩ ∧
      error.fault.found? = none ∧
      error.fault.message = GrammarFault.malformed "unexpected end of input") ∧
    (¬ Grammar.Viable (found.map Lexeme.token) →
      ∃ i lexeme, IsLeast {i | ¬ Grammar.Viable ((found.map Lexeme.token).take (i + 1))} i ∧
        found[i]? = some lexeme ∧
        error = ⟨.unexpectedToken lexeme.token, some ⟨source, .ofOffset text lexeme.start⟩⟩ ∧
        error.fault.found? = some lexeme.token.text ∧
        error.fault.message = GrammarFault.malformed ("unexpected " ++ lexeme.token.shown)) := by
  rcases read_declarations_error source text found error tokenized rejected with
    ⟨viable, rfl⟩ | ⟨front, stopped, back, rfl, before, stuck, rfl⟩
  · refine ⟨fun _ => ⟨?_, rfl, rfl⟩, fun stuck => absurd viable stuck⟩
    rw [position_end]
  · have place := tokenize_places source text _ tokenized stopped (by simp)
    refine ⟨fun viable => ?_, fun _ => ⟨front.length, stopped, stop_least front stopped back before stuck,
      by simp, ?_, rfl, rfl⟩⟩
    · refine absurd (viable_shorter _ _ ?_ viable) stuck
      rw [List.map_append, List.map_append, List.prefix_append_right_inj]
      exact List.prefix_append [stopped.token] _
    · rw [place]

def pipedLexemes : List Lexeme :=
  [⟨.identifier "a", 0, 1, ⟨1, 1⟩⟩, ⟨.colon, 1, 2, ⟨1, 2⟩⟩, ⟨.identifier "b", 3, 4, ⟨1, 4⟩⟩,
    ⟨.pipe, 5, 6, ⟨1, 6⟩⟩, ⟨.semicolon, 6, 7, ⟨1, 7⟩⟩]

def semicolonError : GrammarError :=
  ⟨.unexpectedToken .semicolon, some ⟨"pipes", ⟨1, 7⟩⟩⟩

def endError : GrammarError := ⟨.unexpectedEnd, some ⟨"pipes", ⟨1, 5⟩⟩⟩

theorem piped_error_after_viable :
    (tokenize "pipes" "a: b" = .ok (pipedLexemes.take 3) ∧
      readDeclarations "pipes" "a: b" = .error endError ∧
      Grammar.Viable ((pipedLexemes.take 3).map Lexeme.token) ∧
      endError = ⟨.unexpectedEnd, some ⟨"pipes", .after "a: b".toList⟩⟩) ∧
    tokenize "pipes" "a: b |;" = .ok pipedLexemes ∧
    readDeclarations "pipes" "a: b |;" = .error semicolonError ∧
    ¬ Grammar.Viable (pipedLexemes.map Lexeme.token) ∧
    ∃ i lexeme, IsLeast {i | ¬ Grammar.Viable ((pipedLexemes.map Lexeme.token).take (i + 1))} i ∧
      pipedLexemes[i]? = some lexeme ∧
      semicolonError = ⟨.unexpectedToken lexeme.token,
        some ⟨"pipes", .ofOffset "a: b |;" lexeme.start⟩⟩ := by
  have shortTokens : tokenize "pipes" "a: b" = .ok (pipedLexemes.take 3) := by decide +kernel
  have shortError : readDeclarations "pipes" "a: b" = .error endError := by decide +kernel
  have longTokens : tokenize "pipes" "a: b |;" = .ok pipedLexemes := by decide +kernel
  have longError : readDeclarations "pipes" "a: b |;" = .error semicolonError := by decide +kernel
  have viable : Grammar.Viable ((pipedLexemes.take 3).map Lexeme.token) :=
    (Reading.viable_iff_read _).2 ⟨_, rfl⟩
  have stuck : ¬ Grammar.Viable (pipedLexemes.map Lexeme.token) := by
    rw [Reading.viable_iff_read]
    rintro ⟨reading, read⟩
    cases read
  have short := syntax_error_after_viable "pipes" "a: b" _ _ shortTokens shortError
  have long := syntax_error_after_viable "pipes" "a: b |;" _ _ longTokens longError
  obtain ⟨i, lexeme, least, here, same, _⟩ := long.2 stuck
  exact ⟨⟨shortTokens, shortError, viable, (short.1 viable).1⟩, longTokens, longError, stuck, i,
    lexeme, least, here, same⟩

end TreeGrammar
