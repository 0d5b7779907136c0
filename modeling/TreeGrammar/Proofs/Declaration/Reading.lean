import TreeGrammar.Declaration.Reader
import TreeGrammar.Proofs.Declaration.Written
set_option autoImplicit false

namespace TreeGrammar

namespace Reading

theorem read_cons (reading : Reading) (lexeme : Lexeme) (rest : List Lexeme) :
    reading.readAll (lexeme :: rest) = reading.step lexeme >>= fun next => next.readAll rest :=
  List.foldlM_cons

theorem read_append (reading : Reading) (front back : List Lexeme) :
    reading.readAll (front ++ back) = reading.readAll front >>= fun next => next.readAll back :=
  List.foldlM_append

inductive Steps : Reading → Lexeme → Reading → Prop where
  | name (declared : List Declaration) (lexeme : Lexeme) (name : String)
      (spelled : lexeme.token = .identifier name) :
      Steps ⟨declared, .nothing⟩ lexeme ⟨declared, .named name lexeme.position⟩
  | bare (declared : List Declaration) (lexeme : Lexeme) (name : String) (position : Position)
      (spelled : lexeme.token = .semicolon) :
      Steps ⟨declared, .named name position⟩ lexeme ⟨⟨name, position, none⟩ :: declared, .nothing⟩
  | colon (declared : List Declaration) (lexeme : Lexeme) (name : String) (position : Position)
      (spelled : lexeme.token = .colon) :
      Steps ⟨declared, .named name position⟩ lexeme ⟨declared, .within name position [] []⟩
  | mention (declared : List Declaration) (lexeme : Lexeme) (name : String) (position : Position)
      (finished : List (List Mention)) (current : List Mention) (mentioned : String)
      (spelled : lexeme.token = .identifier mentioned) :
      Steps ⟨declared, .within name position finished current⟩ lexeme
        ⟨declared, .within name position finished (⟨mentioned, none, lexeme.position⟩ :: current)⟩
  | tag (declared : List Declaration) (lexeme : Lexeme) (name : String) (position : Position)
      (finished : List (List Mention)) (current : List Mention) (mentioned : String)
      (place : Position) (multiplicity : Multiplicity) (spelled : lexeme.token = .tag multiplicity) :
      Steps ⟨declared, .within name position finished (⟨mentioned, none, place⟩ :: current)⟩ lexeme
        ⟨declared, .within name position finished (⟨mentioned, some multiplicity, place⟩ :: current)⟩
  | pipe (declared : List Declaration) (lexeme : Lexeme) (name : String) (position : Position)
      (finished : List (List Mention)) (current : List Mention) (begun : current ≠ [])
      (spelled : lexeme.token = .pipe) :
      Steps ⟨declared, .within name position finished current⟩ lexeme
        ⟨declared, .within name position (current.reverse :: finished) []⟩
  | close (declared : List Declaration) (lexeme : Lexeme) (name : String) (position : Position)
      (finished : List (List Mention)) (current : List Mention) (begun : current ≠ [])
      (spelled : lexeme.token = .semicolon) :
      Steps ⟨declared, .within name position finished current⟩ lexeme
        ⟨⟨name, position, some (finished.reverse ++ [current.reverse])⟩ :: declared, .nothing⟩

theorem step_ok (reading next : Reading) (lexeme : Lexeme) (steps : Steps reading lexeme next) :
    reading.step lexeme = .ok next := by
  have stepped : reading.step? lexeme = some next := by
    cases steps with
    | name declared lexeme name spelled => rw [step?, spelled]
    | bare declared lexeme name position spelled => rw [step?, spelled]
    | colon declared lexeme name position spelled => rw [step?, spelled]
    | mention declared lexeme name position finished current mentioned spelled => rw [step?, spelled]
    | tag declared lexeme name position finished current mentioned place multiplicity spelled =>
      rw [step?, spelled]
    | pipe declared lexeme name position finished current begun spelled =>
      cases current with
      | nil => exact absurd rfl begun
      | cons last earlier => rw [step?, spelled]
    | close declared lexeme name position finished current begun spelled =>
      cases current with
      | nil => exact absurd rfl begun
      | cons last earlier => simp only [step?, spelled, List.reverse_cons]
  rw [step, stepped]

theorem step_inversion (reading next : Reading) (lexeme : Lexeme)
    (stepped : reading.step lexeme = .ok next) : Steps reading lexeme next := by
  cases found : reading.step? lexeme with
  | none =>
    rw [step, found] at stepped
    cases stepped
  | some result =>
    rw [step, found] at stepped
    cases stepped
    cases reading with
    | mk declared unfinished =>
      unfold step? at found
      split at found
      · rename_i name before spelled
        cases before
        cases found
        exact .name declared lexeme name spelled
      · rename_i name position before spelled
        cases before
        cases found
        exact .bare declared lexeme name position spelled
      · rename_i name position before spelled
        cases before
        cases found
        exact .colon declared lexeme name position spelled
      · rename_i name position finished current mentioned before spelled
        cases before
        cases found
        exact .mention declared lexeme name position finished current mentioned spelled
      · rename_i name position finished mentioned place earlier multiplicity before spelled
        cases before
        cases found
        exact .tag declared lexeme name position finished earlier mentioned place multiplicity spelled
      · rename_i name position finished last earlier before spelled
        cases before
        cases found
        exact .pipe declared lexeme name position finished (last :: earlier) (List.cons_ne_nil _ _)
          spelled
      · rename_i name position finished last earlier before spelled
        cases before
        cases found
        rw [List.reverse_cons]
        exact .close declared lexeme name position finished (last :: earlier) (List.cons_ne_nil _ _)
          spelled
      · cases found

theorem read_first (reading next : Reading) (lexeme : Lexeme) (rest : List Lexeme)
    (read : reading.readAll (lexeme :: rest) = .ok next) :
    ∃ middle, Steps reading lexeme middle ∧ middle.readAll rest = .ok next := by
  rw [read_cons] at read
  cases stepped : reading.step lexeme with
  | error stopped =>
    rw [stepped] at read
    cases read
  | ok middle =>
    rw [stepped] at read
    exact ⟨middle, step_inversion reading middle lexeme stepped, read⟩

section

variable (declared : List Declaration) (name : String) (position : Position)
  (finished : List (List Mention)) (current : List Mention)

theorem mentions_begun (mentions : List Mention) (alternative : List Tagged)
    (same : mentions.map Mention.tagged = alternative) (referring : alternative ≠ []) :
    mentions.reverse ≠ [] := by
  intro empty
  rw [List.reverse_eq_nil_iff.1 empty] at same
  exact referring same.symm

theorem read_tagged (lexemes : List Lexeme) (tagged : Tagged)
    (spelled : lexemes.map Lexeme.token = tagged.tokens) :
    ∃ mention : Mention, mention.tagged = tagged ∧
      readAll ⟨declared, .within name position finished current⟩ lexemes =
        .ok ⟨declared, .within name position finished (mention :: current)⟩ := by
  obtain ⟨word, after, rfl, named, spelled⟩ := List.map_eq_cons_iff.1 spelled
  have first := step_ok _ _ _ (.mention declared word name position finished current tagged.name named)
  cases tagged with
  | mk mentioned tag =>
    cases tag with
    | none =>
      rw [List.map_eq_nil_iff.1 spelled, read_cons, first]
      exact ⟨⟨mentioned, none, word.position⟩, rfl, rfl⟩
    | some multiplicity =>
      obtain ⟨mark, others, rfl, marked, spelled⟩ := List.map_eq_cons_iff.1 spelled
      have second := step_ok _ _ _ (.tag declared mark name position finished current mentioned
        word.position multiplicity marked)
      rw [List.map_eq_nil_iff.1 spelled, read_cons, first]
      refine ⟨⟨mentioned, some multiplicity, word.position⟩, rfl, ?_⟩
      change readAll _ [mark] = _
      rw [read_cons, second]
      rfl

theorem read_alternative (lexemes : List Lexeme) (alternative : List Tagged)
    (spelled : lexemes.map Lexeme.token = Written.alternativeTokens alternative) :
    ∃ mentions : List Mention, mentions.map Mention.tagged = alternative ∧
      readAll ⟨declared, .within name position finished current⟩ lexemes =
        .ok ⟨declared, .within name position finished (mentions.reverse ++ current)⟩ := by
  induction alternative generalizing lexemes current with
  | nil =>
    rw [List.map_eq_nil_iff.1 spelled]
    exact ⟨[], rfl, rfl⟩
  | cons tagged rest ih =>
    rw [Written.alternativeTokens, List.flatMap_cons] at spelled
    obtain ⟨front, back, rfl, spelledFront, spelledBack⟩ := List.map_eq_append_iff.1 spelled
    obtain ⟨mention, same, first⟩ :=
      read_tagged declared name position finished current front tagged spelledFront
    obtain ⟨mentions, others, later⟩ := ih (mention :: current) back spelledBack
    refine ⟨mention :: mentions, ?_, ?_⟩
    · rw [List.map_cons, same, others]
    · rw [read_append, first, List.reverse_cons, List.append_assoc]
      exact later

theorem read_alternatives (lexemes : List Lexeme) (rest : List (List Tagged))
    (proper : [] ∉ rest) (begun : current ≠ [])
    (spelled : lexemes.map Lexeme.token =
      rest.flatMap (fun alternative => .pipe :: Written.alternativeTokens alternative) ++
        [.semicolon]) :
    ∃ contents : List (List Mention), contents.map (·.map Mention.tagged) = rest ∧
      readAll ⟨declared, .within name position finished current⟩ lexemes =
        .ok ⟨⟨name, position, some (finished.reverse ++ current.reverse :: contents)⟩ :: declared,
          .nothing⟩ := by
  induction rest generalizing lexemes finished current with
  | nil =>
    obtain ⟨semicolon, others, rfl, marked, none⟩ := List.map_eq_cons_iff.1 spelled
    refine ⟨[], rfl, ?_⟩
    rw [List.map_eq_nil_iff.1 none, read_cons,
      step_ok _ _ _ (.close declared semicolon name position finished current begun marked)]
    rfl
  | cons alternative rest ih =>
    rw [List.flatMap_cons, List.cons_append, List.cons_append] at spelled
    obtain ⟨pipe, others, rfl, marked, spelled⟩ := List.map_eq_cons_iff.1 spelled
    rw [List.append_assoc] at spelled
    obtain ⟨front, back, rfl, spelledFront, spelledBack⟩ := List.map_eq_append_iff.1 spelled
    obtain ⟨mentions, same, read⟩ := read_alternative declared name position
      (current.reverse :: finished) [] front alternative spelledFront
    rw [List.append_nil] at read
    have next := mentions_begun mentions alternative same fun empty => proper (empty ▸ .head _)
    obtain ⟨contents, mapped, later⟩ := ih (current.reverse :: finished) mentions.reverse back
      (fun empty => proper (.tail _ empty)) next spelledBack
    refine ⟨mentions :: contents, ?_, ?_⟩
    · rw [List.map_cons, same, mapped]
    · rw [read_cons, step_ok _ _ _ (.pipe declared pipe name position finished current begun marked)]
      change readAll _ (front ++ back) = _
      rw [read_append, read]
      change readAll _ back = _
      rw [later, List.reverse_reverse, List.reverse_cons, List.append_assoc]
      rfl

end

theorem read_written (declared : List Declaration) (lexemes : List Lexeme) (written : Written)
    (proper : written.Proper) (spelled : lexemes.map Lexeme.token = written.tokens) :
    ∃ declaration : Declaration, declaration.written = written ∧
      readAll ⟨declared, .nothing⟩ lexemes = .ok ⟨declaration :: declared, .nothing⟩ := by
  obtain ⟨word, after, rfl, named, spelled⟩ := List.map_eq_cons_iff.1 spelled
  have first := step_ok _ _ _ (.name declared word written.name named)
  cases written with
  | mk name contents =>
    cases contents with
    | none =>
      obtain ⟨semicolon, others, rfl, marked, none⟩ := List.map_eq_cons_iff.1 spelled
      refine ⟨⟨name, word.position, .none⟩, rfl, ?_⟩
      rw [read_cons, first]
      change readAll _ (semicolon :: others) = _
      rw [List.map_eq_nil_iff.1 none, read_cons, step_ok _ _ _ (.bare declared semicolon name word.position marked)]
      rfl
    | some contents =>
      obtain ⟨filled, referring⟩ := proper contents rfl
      cases contents with
      | nil => exact absurd rfl filled
      | cons alternative rest =>
        obtain ⟨colon, others, rfl, marked, spelled⟩ := List.map_eq_cons_iff.1 spelled
        rw [Written.contentsTokens, List.append_assoc] at spelled
        obtain ⟨front, back, rfl, spelledFront, spelledBack⟩ := List.map_eq_append_iff.1 spelled
        obtain ⟨mentions, same, read⟩ :=
          read_alternative declared name word.position [] [] front alternative spelledFront
        rw [List.append_nil] at read
        have begun := mentions_begun mentions alternative same fun empty =>
          referring (empty ▸ .head _)
        obtain ⟨contents, mapped, later⟩ := read_alternatives declared name word.position []
          mentions.reverse back rest (fun empty => referring (.tail _ empty)) begun spelledBack
        refine ⟨⟨name, word.position, some (mentions :: contents)⟩, ?_, ?_⟩
        · simp only [Declaration.written, Option.map_some, List.map_cons, same, mapped]
        · rw [read_cons, first]
          change readAll _ (colon :: (front ++ back)) = _
          rw [read_cons, step_ok _ _ _ (.colon declared colon name word.position marked)]
          change readAll _ (front ++ back) = _
          rw [read_append, read]
          change readAll _ back = _
          rw [later, List.reverse_reverse]
          rfl

theorem read_all_written (declared : List Declaration) (lexemes : List Lexeme)
    (writings : List Written) (proper : ∀ written ∈ writings, written.Proper)
    (spelled : lexemes.map Lexeme.token = writings.flatMap Written.tokens) :
    ∃ declarations : List Declaration, declarations.map Declaration.written = writings ∧
      readAll ⟨declared, .nothing⟩ lexemes = .ok ⟨declarations.reverse ++ declared, .nothing⟩ := by
  induction writings generalizing declared lexemes with
  | nil =>
    rw [List.map_eq_nil_iff.1 spelled]
    exact ⟨[], rfl, rfl⟩
  | cons written rest ih =>
    rw [List.flatMap_cons] at spelled
    obtain ⟨front, back, rfl, spelledFront, spelledBack⟩ := List.map_eq_append_iff.1 spelled
    obtain ⟨declaration, same, first⟩ :=
      read_written declared front written (proper written (.head _)) spelledFront
    obtain ⟨declarations, others, later⟩ := ih (declaration :: declared) back
      (fun other listed => proper other (.tail _ listed)) spelledBack
    refine ⟨declaration :: declarations, ?_, ?_⟩
    · rw [List.map_cons, same, others]
    · rw [read_append, first, List.reverse_cons, List.append_assoc]
      exact later

def unfinishedTokens : Unfinished → List Token
  | .nothing => []
  | .named name _ => [.identifier name]
  | .within name _ finished current =>
    [.identifier name, .colon] ++
      finished.reverse.flatMap (fun alternative =>
        Written.alternativeTokens (alternative.map Mention.tagged) ++ [.pipe]) ++
      Written.alternativeTokens (current.reverse.map Mention.tagged)

def tokens (reading : Reading) : List Token :=
  reading.declared.reverse.flatMap (fun declaration => declaration.written.tokens) ++
    unfinishedTokens reading.unfinished

def finishedAlternatives : Unfinished → List (List Mention)
  | .within _ _ finished _ => finished
  | _ => []

structure Proper (reading : Reading) : Prop where
  declared : ∀ declaration ∈ reading.declared, declaration.written.Proper
  finished : [] ∉ finishedAlternatives reading.unfinished

theorem steps_tokens (reading next : Reading) (lexeme : Lexeme) (steps : Steps reading lexeme next) :
    next.tokens = reading.tokens ++ [lexeme.token] := by
  cases steps with
  | name declared lexeme name spelled => simp [tokens, unfinishedTokens, spelled]
  | bare declared lexeme name position spelled =>
    simp [tokens, unfinishedTokens, Declaration.written, Written.tokens, spelled]
  | colon declared lexeme name position spelled =>
    simp [tokens, unfinishedTokens, Written.alternativeTokens, spelled]
  | mention declared lexeme name position finished current mentioned spelled =>
    simp [tokens, unfinishedTokens, Written.alternativeTokens, Mention.tagged, Tagged.tokens, spelled]
  | tag declared lexeme name position finished current mentioned place multiplicity spelled =>
    simp [tokens, unfinishedTokens, Written.alternativeTokens, Mention.tagged, Tagged.tokens, spelled]
  | pipe declared lexeme name position finished current begun spelled =>
    simp [tokens, unfinishedTokens, Written.alternativeTokens, spelled]
  | close declared lexeme name position finished current begun spelled =>
    simp only [tokens, unfinishedTokens, Declaration.written, Written.tokens, spelled,
      Option.map_some, List.reverse_cons, List.flatMap_append, List.flatMap_singleton,
      List.map_append, List.map_cons, List.map_nil, contents_tokens_append, List.flatMap_map]
    simp

theorem steps_proper (reading next : Reading) (lexeme : Lexeme) (steps : Steps reading lexeme next)
    (proper : reading.Proper) : next.Proper := by
  obtain ⟨before, done⟩ := proper
  cases steps with
  | name declared lexeme name spelled => exact ⟨before, List.not_mem_nil⟩
  | bare declared lexeme name position spelled =>
    refine ⟨?_, List.not_mem_nil⟩
    intro declaration listed
    rcases List.mem_cons.1 listed with rfl | earlier
    · intro contents written
      cases written
    · exact before declaration earlier
  | colon declared lexeme name position spelled => exact ⟨before, List.not_mem_nil⟩
  | mention declared lexeme name position finished current mentioned spelled =>
    exact ⟨before, done⟩
  | tag declared lexeme name position finished current mentioned place multiplicity spelled =>
    exact ⟨before, done⟩
  | pipe declared lexeme name position finished current begun spelled =>
    refine ⟨before, ?_⟩
    intro empty
    rcases List.mem_cons.1 empty with same | earlier
    · exact begun (List.reverse_eq_nil_iff.1 same.symm)
    · exact done earlier
  | close declared lexeme name position finished current begun spelled =>
    refine ⟨?_, List.not_mem_nil⟩
    intro declaration listed
    rcases List.mem_cons.1 listed with rfl | earlier
    · intro contents written
      cases written
      refine ⟨by simp, ?_⟩
      intro empty
      obtain ⟨alternative, member, same⟩ := List.mem_map.1 empty
      rw [List.map_eq_nil_iff.1 same] at member
      rcases List.mem_append.1 member with earlier | last
      · exact done (List.mem_reverse.1 earlier)
      · exact begun (List.reverse_eq_nil_iff.1 (List.mem_singleton.1 last).symm)
    · exact before declaration earlier

theorem read_invariant (holds : List Lexeme → Reading → Prop)
    (carried : ∀ front reading lexeme next, Steps reading lexeme next → holds front reading →
      holds (front ++ [lexeme]) next)
    (reading next : Reading) (front lexemes : List Lexeme) (before : holds front reading)
    (read : reading.readAll lexemes = .ok next) : holds (front ++ lexemes) next := by
  induction lexemes generalizing reading front with
  | nil =>
    cases read
    rw [List.append_nil]
    exact before
  | cons lexeme rest ih =>
    obtain ⟨middle, steps, onward⟩ := read_first reading next lexeme rest read
    have later := ih middle (front ++ [lexeme]) (carried front reading lexeme middle steps before) onward
    rw [List.append_assoc] at later
    exact later

theorem read_tokens (reading next : Reading) (lexemes : List Lexeme) (proper : reading.Proper)
    (read : reading.readAll lexemes = .ok next) :
    next.Proper ∧ next.tokens = reading.tokens ++ lexemes.map Lexeme.token := by
  refine read_invariant (fun front later => later.Proper ∧
    later.tokens = reading.tokens ++ front.map Lexeme.token) ?_ reading next [] lexemes
    ⟨proper, (List.append_nil _).symm⟩ read
  intro front middle lexeme last steps before
  refine ⟨steps_proper middle last lexeme steps before.1, ?_⟩
  rw [steps_tokens middle last lexeme steps, before.2, List.append_assoc, List.map_append]
  rfl

end Reading

theorem tokenize_ok (source text : String) (found : List Lexeme)
    (tokenized : tokenize source text = .ok found) : lexemes .start text.toList = .ok found := by
  rw [tokenize] at tokenized
  cases read : lexemes .start text.toList with
  | error stray =>
    rw [read] at tokenized
    cases tokenized
  | ok others =>
    rw [read] at tokenized
    cases tokenized
    rfl

theorem read_declarations_ok (source text : String) (found : List Lexeme)
    (tokenized : tokenize source text = .ok found) (writings : List Written)
    (proper : ∀ written ∈ writings, written.Proper)
    (spelled : found.map Lexeme.token = writings.flatMap Written.tokens) :
    ∃ declarations, readDeclarations source text = .ok declarations ∧
      declarations.map Declaration.written = writings := by
  obtain ⟨declarations, same, read⟩ := Reading.read_all_written [] found writings proper spelled
  refine ⟨declarations, ?_, same⟩
  have started : Reading.start.readAll found = .ok ⟨declarations.reverse ++ [], .nothing⟩ := read
  rw [readDeclarations, tokenized]
  simp only [bind, Except.bind, started]
  rw [Reading.finish?, List.append_nil, List.reverse_reverse]

theorem read_declarations_run (source text : String) (declarations : List Declaration)
    (success : readDeclarations source text = .ok declarations) :
    ∃ found, tokenize source text = .ok found ∧
      Reading.start.readAll found = .ok ⟨declarations.reverse, .nothing⟩ := by
  rw [readDeclarations] at success
  cases tokenized : tokenize source text with
  | error fault =>
    rw [tokenized] at success
    cases success
  | ok found =>
    rw [tokenized] at success
    simp only [bind, Except.bind] at success
    cases read : Reading.start.readAll found with
    | error stopped =>
      rw [read] at success
      cases success
    | ok reading =>
      rw [read] at success
      cases reading with
      | mk declared unfinished =>
        cases unfinished with
        | nothing =>
          cases success
          refine ⟨found, rfl, ?_⟩
          rw [read, List.reverse_reverse]
        | named name position => cases success
        | within name position finished current => cases success

theorem read_declarations_tokens (source text : String) (declarations : List Declaration)
    (success : readDeclarations source text = .ok declarations) :
    (∀ declaration ∈ declarations, declaration.written.Proper) ∧
      ∃ found, tokenize source text = .ok found ∧
        found.map Lexeme.token = declarations.flatMap fun declaration => declaration.written.tokens := by
  obtain ⟨found, tokenized, read⟩ := read_declarations_run source text declarations success
  obtain ⟨proper, tokens⟩ := Reading.read_tokens Reading.start _ found
    ⟨fun declaration listed => absurd listed List.not_mem_nil, List.not_mem_nil⟩ read
  refine ⟨?_, found, tokenized, ?_⟩
  · intro declaration listed
    exact proper.declared declaration (List.mem_reverse.2 listed)
  · rw [Reading.tokens, Reading.unfinishedTokens, List.append_nil, List.reverse_reverse] at tokens
    exact tokens.symm

end TreeGrammar
