import TreeGrammar.Proofs.Declaration.Reading
import TreeGrammar.Proofs.Definition.Diagnostics
import TreeGrammar.Proofs.Token.Joined
set_option autoImplicit false

namespace TreeGrammar

def Mention.down (lines : Nat) (mention : Mention) : Mention :=
  { mention with position := mention.position.down lines }

def Declaration.down (lines : Nat) (declaration : Declaration) : Declaration :=
  ⟨declaration.name, declaration.position.down lines,
    declaration.contents.map fun contents => contents.map (·.map (Mention.down lines))⟩

def Unfinished.down (lines : Nat) : Unfinished → Unfinished
  | nothing => nothing
  | named name position => named name (position.down lines)
  | within name position finished current =>
    within name (position.down lines) (finished.map (·.map (Mention.down lines)))
      (current.map (Mention.down lines))

namespace Reading

section

variable (upper : List Declaration) (bytes lines : Nat)

def below (reading : Reading) : Reading :=
  ⟨reading.declared.map (Declaration.down lines) ++ upper, reading.unfinished.down lines⟩

theorem step_below (reading : Reading) (lexeme : Lexeme) :
    (reading.below upper lines).step? (lexeme.down bytes lines) =
      (reading.step? lexeme).map (below upper lines) := by
  obtain ⟨declared, unfinished⟩ := reading
  obtain ⟨token, start, stop, position⟩ := lexeme
  cases unfinished with
  | nothing => cases token <;> rfl
  | named name place => cases token <;> rfl
  | within name place finished current =>
    cases current with
    | nil => cases token <;> rfl
    | cons last earlier =>
      -- A tag is read only behind a mention that has none yet.
      obtain ⟨mentioned, tag, placed⟩ := last
      cases tag <;> cases token <;>
        simp [step?, below, Lexeme.down, Unfinished.down, Mention.down, Declaration.down]

theorem read_below (reading : Reading) (lexemes : List Lexeme) :
    (reading.below upper lines).readAll (lexemes.map (Lexeme.down bytes lines)) =
      ((reading.readAll lexemes).map (below upper lines)).mapError (Lexeme.down bytes lines) := by
  induction lexemes generalizing reading with
  | nil => rfl
  | cons lexeme rest ih =>
    have stepped := step_below upper bytes lines reading lexeme
    rw [List.map_cons, read_cons, read_cons, step, step, stepped]
    cases reading.step? lexeme with
    | none => rfl
    | some next => exact ih next

theorem finish_below (reading : Reading) :
    (reading.below upper lines).finish? =
      reading.finish?.map fun declarations => upper.reverse ++ declarations.map (Declaration.down lines) := by
  obtain ⟨declared, unfinished⟩ := reading
  cases unfinished with
  | nothing => simp [finish?, below, Unfinished.down, List.map_reverse]
  | named name position => rfl
  | within name position finished current => rfl

end

end Reading

def GrammarError.down (lines : Nat) (error : GrammarError) : GrammarError :=
  ⟨error.fault, error.location.map fun location =>
    ⟨location.source, location.position.down lines⟩⟩

theorem end_below (text below : String) :
    Position.endOf (text ++ "\n" ++ below) = (Position.endOf below).down (lineCount text) := by
  have split : (text ++ "\n" ++ below).toList = text.toList ++ ['\n'] ++ below.toList := by simp
  rw [Position.endOf, split, Cursor.past_append, start_below, past_down]
  rfl

theorem tokenize_below (source text below : String) (found : List Lexeme)
    (read : tokenize source text = .ok found) :
    tokenize source (text ++ "\n" ++ below) =
      ((tokenize source below).map fun later =>
        found ++ later.map (Lexeme.down (String.utf8Len (text.toList ++ ['\n'])) (lineCount text))).mapError
        (GrammarError.down (lineCount text)) := by
  have split : (text ++ "\n" ++ below).toList = text.toList ++ '\n' :: below.toList := by simp
  rw [tokenize, split, lexemes_below text.toList below.toList found (tokenize_ok source text found read),
    tokenize]
  cases lexemes .start below.toList with
  | error stray => rfl
  | ok later => rfl

theorem read_declarations_below (source text below : String) (declarations : List Declaration)
    (success : readDeclarations source text = .ok declarations) :
    readDeclarations source (text ++ "\n" ++ below) =
      ((readDeclarations source below).map fun later =>
        declarations ++ later.map (Declaration.down (lineCount text))).mapError
        (GrammarError.down (lineCount text)) := by
  obtain ⟨found, tokenized, read⟩ := read_declarations_run source text declarations success
  rw [readDeclarations, tokenize_below source text below found tokenized, readDeclarations]
  cases tokenize source below with
  | error error => rfl
  | ok later =>
    have onward := Reading.read_below declarations.reverse
      (String.utf8Len (text.toList ++ ['\n'])) (lineCount text) .start later
    have whole : Reading.start.readAll (found ++ later.map (Lexeme.down
        (String.utf8Len (text.toList ++ ['\n'])) (lineCount text))) =
        ((Reading.start.readAll later).map (Reading.below declarations.reverse (lineCount text))).mapError
          (Lexeme.down (String.utf8Len (text.toList ++ ['\n'])) (lineCount text)) := by
      rw [Reading.read_append, read]
      exact onward
    simp only [Except.map, Except.mapError, bind, Except.bind] at whole ⊢
    rw [whole]
    cases Reading.start.readAll later with
    | error stopped => rfl
    | ok reading =>
      simp only [Reading.finish_below, List.reverse_reverse]
      cases reading.finish? with
      | none => simp only [Option.map_none, end_below]; rfl
      | some others => rfl

theorem joined_texts_read (source text below : String) (declarations : List Declaration)
    (success : readDeclarations source text = .ok declarations) :
    (∀ others, readDeclarations source below = .ok others →
      readDeclarations source (text ++ "\n" ++ below) =
        .ok (declarations ++ others.map (Declaration.down (lineCount text)))) ∧
    ∀ error, readDeclarations source below = .error error →
      ∃ place, error.location = some ⟨source, place⟩ ∧
        readDeclarations source (text ++ "\n" ++ below) =
          .error ⟨error.fault, some ⟨source, ⟨place.line + lineCount text, place.column⟩⟩⟩ := by
  have whole := read_declarations_below source text below declarations success
  refine ⟨?_, ?_⟩
  · intro others read
    rw [read] at whole
    exact whole
  · intro error failure
    obtain ⟨place, located, _⟩ := read_error_points source below error failure
    rw [failure] at whole
    refine ⟨place, located, whole.trans ?_⟩
    change Except.error (error.down (lineCount text)) = _
    rw [GrammarError.down, located]
    rfl

def upperDeclarations : List Declaration := [⟨"a", ⟨1, 1⟩, some [[⟨"b", none, ⟨1, 4⟩⟩]]⟩]

theorem notes_joined :
    readDeclarations "notes" "a: b; // é" = .ok upperDeclarations ∧
    (readDeclarations "notes" "\n b;" = .ok [⟨"b", ⟨2, 2⟩, none⟩] ∧
      readDeclarations "notes" ("a: b; // é" ++ "\n" ++ "\n b;") =
        .ok (upperDeclarations ++ [⟨"b", ⟨3, 2⟩, none⟩])) ∧
    readDeclarations "notes" "b: |" = .error ⟨.unexpectedToken .pipe, some ⟨"notes", ⟨1, 4⟩⟩⟩ ∧
      readDeclarations "notes" ("a: b; // é" ++ "\n" ++ "b: |") =
        .error ⟨.unexpectedToken .pipe, some ⟨"notes", ⟨2, 4⟩⟩⟩ := by
  have upper : readDeclarations "notes" "a: b; // é" = .ok upperDeclarations := by decide +kernel
  have lower : readDeclarations "notes" "\n b;" = .ok [⟨"b", ⟨2, 2⟩, none⟩] := by decide +kernel
  have faulty : readDeclarations "notes" "b: |" =
      .error ⟨.unexpectedToken .pipe, some ⟨"notes", ⟨1, 4⟩⟩⟩ := by decide +kernel
  have joined := (joined_texts_read "notes" "a: b; // é" "\n b;" _ upper).1 _ lower
  obtain ⟨_, placed, failed⟩ := (joined_texts_read "notes" "a: b; // é" "b: |" _ upper).2 _ faulty
  cases placed
  exact ⟨upper, ⟨lower, joined⟩, faulty, failed⟩

end TreeGrammar
