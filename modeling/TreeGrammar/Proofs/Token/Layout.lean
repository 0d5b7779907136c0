import TreeGrammar.GrammarError
import TreeGrammar.Proofs.Position
import TreeGrammar.Proofs.Token.Lexing
set_option autoImplicit false

namespace TreeGrammar

inductive Gap (rest : List Char) : List Char → Prop where
  | nothing : Gap rest []
  | blank (c : Char) (gap : List Char) (blank : Token.isBlank c = true) (more : Gap rest gap) :
      Gap rest (c :: gap)
  | comment (body gap : List Char) (inside : '\n' ∉ body) (ended : LineEnd (gap ++ rest))
      (more : Gap rest gap) : Gap rest ('/' :: '/' :: (body ++ gap))

def Token.lexemeAfter (token : Token) (front : List Char) : Lexeme :=
  ⟨token, String.utf8Len front, String.utf8Len (front ++ token.text.toList), .after front⟩

inductive Layout : List Char → List Char → List Lexeme → Prop where
  | last (before gap : List Char) (gapped : Gap [] gap) : Layout before gap []
  | token (before gap : List Char) (token : Token) (rest : List Char) (found : List Lexeme)
      (gapped : Gap (token.text.toList ++ rest) gap) (stands : token.Stands rest)
      (more : Layout (before ++ gap ++ token.text.toList) rest found) :
      Layout before (gap ++ (token.text.toList ++ rest)) (token.lexemeAfter (before ++ gap) :: found)

theorem lexemes_gap (cursor : Cursor) (gap rest : List Char) (gapped : Gap rest gap) :
    lexemes cursor (gap ++ rest) = lexemes (cursor.past gap) rest := by
  induction gapped generalizing cursor with
  | nothing => rfl
  | blank c gap blank more ih =>
    rw [List.cons_append, lexemes_blank cursor c _ blank, ih, Cursor.past_cons]
  | comment body gap inside ended more ih =>
    have split : '/' :: '/' :: (body ++ gap) ++ rest = '/' :: '/' :: (body ++ (gap ++ rest)) := by simp
    rw [split, lexemes_comment cursor body _ inside ended, ih, ← Cursor.past_append]
    rfl

theorem lexeme_started (front : List Char) (token : Token) :
    Lexeme.mk token (Cursor.start.past front).offset
      ((Cursor.start.past front).past token.text.toList).offset (Cursor.start.past front).position =
      token.lexemeAfter front := by
  rw [← Cursor.past_append, Cursor.past_offset, Cursor.past_offset, Cursor.past_position,
    Token.lexemeAfter]
  simp [Cursor.start]

theorem lexemes_token_after (before : List Char) (token : Token) (rest : List Char)
    (stands : token.Stands rest) :
    lexemes (Cursor.start.past before) (token.text.toList ++ rest) =
      (lexemes (Cursor.start.past (before ++ token.text.toList)) rest).map
        (List.cons (token.lexemeAfter before)) := by
  rw [lexemes_token _ token rest stands, lexeme_started, Cursor.past_append]

theorem lexemes_of_layout (before text : List Char) (found : List Lexeme)
    (layout : Layout before text found) : lexemes (Cursor.start.past before) text = .ok found := by
  induction layout with
  | last before gap gapped =>
    have skipped := lexemes_gap (Cursor.start.past before) gap [] gapped
    rw [List.append_nil] at skipped
    rw [skipped, lexemes_nil]
  | token before gap token rest found gapped stands more ih =>
    rw [lexemes_gap _ gap _ gapped, ← Cursor.past_append, lexemes_token_after _ token rest stands, ih]
    rfl

theorem layout_gap (before piece text : List Char) (found : List Lexeme)
    (longer : ∀ gap rest, gap ++ rest = text → Gap rest gap → Gap rest (piece ++ gap))
    (layout : Layout (before ++ piece) text found) : Layout before (piece ++ text) found := by
  generalize front : before ++ piece = preceding at layout
  cases layout with
  | last preceding gap gapped => exact .last before _ (longer _ [] (List.append_nil _) gapped)
  | token preceding gap token rest found gapped stands more =>
    subst front
    rw [← List.append_assoc, List.append_assoc before piece gap]
    rw [List.append_assoc before piece gap] at more
    exact .token before (piece ++ gap) token rest found (longer _ _ rfl gapped) stands more

theorem layout_of_lexemes (before text : List Char) (found : List Lexeme)
    (read : lexemes (Cursor.start.past before) text = .ok found) : Layout before text found := by
  induction course text generalizing before found with
  | done =>
    rw [lexemes_nil] at read
    cases read
    exact .last before [] .nothing
  | blank c rest blank more ih =>
    rw [lexemes_blank _ c rest blank] at read
    refine layout_gap before [c] rest found ?_ (ih (before ++ [c]) found ?_)
    · intro gap after _ gapped
      exact .blank c gap blank gapped
    · rw [Cursor.past_append]
      exact read
  | comment body rest inside ended more ih =>
    rw [lexemes_comment _ body rest inside ended, ← Cursor.past_append] at read
    refine layout_gap before ('/' :: '/' :: body) rest found ?_ (ih _ found read)
    intro gap after split gapped
    exact .comment body gap inside (split ▸ ended) gapped
  | token token rest stands more ih =>
    rw [lexemes_token_after before token rest stands] at read
    cases later : lexemes (Cursor.start.past (before ++ token.text.toList)) rest with
    | error stray =>
      rw [later] at read
      cases read
    | ok others =>
      rw [later] at read
      cases read
      have next := ih (before ++ token.text.toList) others later
      have here := Layout.token before [] token rest others .nothing stands
      rw [List.append_nil] at here
      exact here next
  | stray c rest lost =>
    rw [lexemes_lost _ c rest lost] at read
    cases read

theorem layout_iff_lexemes (text : List Char) (found : List Lexeme) :
    Layout [] text found ↔ lexemes .start text = .ok found :=
  ⟨lexemes_of_layout [] text found, layout_of_lexemes [] text found⟩

structure Stops (cursor : Cursor) (text : List Char) (stray : Stray) (front back : List Char) :
    Prop where
  split : text = front ++ stray.character :: back
  place : stray.position = (cursor.past front).position
  read : ∃ found, lexemes cursor front = .ok found
  longest : ∀ more, more <+: back → ∀ found,
    lexemes cursor (front ++ stray.character :: more) ≠ .ok found

theorem stops_later (cursor : Cursor) (piece rest : List Char) (stray : Stray)
    (front back : List Char) (change : List Lexeme → List Lexeme)
    (read : ∀ text, text = front ∨ (∃ more, text = front ++ stray.character :: more) →
      lexemes cursor (piece ++ text) = (lexemes (cursor.past piece) text).map change)
    (stops : Stops (cursor.past piece) rest stray front back) :
    Stops cursor (piece ++ rest) stray (piece ++ front) back := by
  obtain ⟨split, place, ⟨found, first⟩, longest⟩ := stops
  refine ⟨?_, ?_, ⟨change found, ?_⟩, ?_⟩
  · rw [split, List.append_assoc]
  · rw [place, Cursor.past_append]
  · rw [read front (.inl rfl), first]
    rfl
  · intro more within others
    rw [List.append_assoc, read _ (.inr ⟨more, rfl⟩)]
    cases later : lexemes (cursor.past piece) (front ++ stray.character :: more) with
    | error stopped => exact nofun
    | ok found => exact absurd later (longest more within found)

theorem head_kept (p : Char → Prop) (front : List Char) (c : Char) (back text : List Char)
    (holds : ∀ d ∈ (front ++ c :: back).head?, p d)
    (part : text = front ∨ ∃ more, text = front ++ c :: more) : ∀ d ∈ text.head?, p d := by
  cases front with
  | nil =>
    obtain rfl | ⟨more, rfl⟩ := part
    · exact nofun
    · exact holds
  | cons first front =>
    obtain rfl | ⟨more, rfl⟩ := part
    · exact holds
    · exact holds

theorem lexemes_stop (cursor : Cursor) (text : List Char) (stray : Stray)
    (read : lexemes cursor text = .error stray) : ∃ front back, Stops cursor text stray front back := by
  induction course text generalizing cursor with
  | done =>
    rw [lexemes_nil] at read
    cases read
  | blank c rest blank more ih =>
    rw [lexemes_blank cursor c rest blank] at read
    obtain ⟨front, back, stops⟩ := ih _ read
    refine ⟨[c] ++ front, back, stops_later cursor [c] rest stray front back id ?_ stops⟩
    intro text _
    rw [Except.map_id]
    exact lexemes_blank cursor c text blank
  | comment body rest inside ended more ih =>
    rw [lexemes_comment cursor body rest inside ended] at read
    obtain ⟨front, back, stops⟩ := ih _ read
    refine ⟨'/' :: '/' :: body ++ front, back,
      stops_later cursor ('/' :: '/' :: body) rest stray front back id ?_ stops⟩
    intro text part
    rw [Except.map_id]
    rw [LineEnd, stops.split] at ended
    exact lexemes_comment cursor body text inside (head_kept _ front _ back text ended part)
  | token token rest stands more ih =>
    rw [lexemes_token cursor token rest stands] at read
    cases later : lexemes (cursor.past token.text.toList) rest with
    | ok others =>
      rw [later] at read
      cases read
    | error stopped =>
      rw [later] at read
      cases read
      obtain ⟨front, back, stops⟩ := ih _ later
      refine ⟨token.text.toList ++ front, back,
        stops_later cursor token.text.toList rest stray front back (List.cons ⟨token, cursor.offset,
          (cursor.past token.text.toList).offset, cursor.position⟩) ?_ stops⟩
      intro text part
      refine lexemes_token cursor token text fun name same => ?_
      obtain ⟨identifier, apart⟩ := stands name same
      rw [Apart, stops.split] at apart
      exact ⟨identifier, head_kept _ front _ back text apart part⟩
  | stray c rest lost =>
    rw [lexemes_lost cursor c rest lost] at read
    cases read
    refine ⟨[], rest, rfl, rfl, ⟨[], lexemes_nil cursor⟩, ?_⟩
    intro more within found
    -- A slash is still alone: what follows it is what followed it in the text.
    have still : Lost c more := by
      refine ⟨lost.blank, ?_, lost.word, lost.mark⟩
      intro ⟨slash, second⟩
      obtain ⟨others, rfl⟩ := within
      exact lost.comment ⟨slash, by rw [List.head?_append, second]; rfl⟩
    rw [List.nil_append, lexemes_lost cursor c more still]
    exact nofun

structure LongestLaidOut (text front : List Char) : Prop where
  starts : front <+: text
  laid : ∃ found, Layout [] front found
  longest : ∀ other, other <+: text → (∃ found, Layout [] other found) → other.length ≤ front.length

theorem stops_longest (text : List Char) (stray : Stray) (front back : List Char)
    (stops : Stops .start text stray front back) : LongestLaidOut text front := by
  obtain ⟨split, place, ⟨found, read⟩, longest⟩ := stops
  refine ⟨⟨_, split.symm⟩, ⟨found, (layout_iff_lexemes front found).2 read⟩, ?_⟩
  intro other within ⟨others, laid⟩
  by_contra longer
  rw [Nat.not_le] at longer
  obtain ⟨more, rfl⟩ := List.prefix_of_prefix_length_le ⟨_, split.symm⟩ within (Nat.le_of_lt longer)
  rw [split, List.prefix_append_right_inj] at within
  cases more with
  | nil => simp at longer
  | cons c more =>
    obtain ⟨rfl, inner⟩ := List.cons_prefix_cons.1 within
    exact longest more inner others ((layout_iff_lexemes _ others).1 laid)

structure Lexeme.In (lexeme : Lexeme) (text : String) : Prop where
  wide : lexeme.start < lexeme.stop
  startBoundary : String.Pos.Raw.IsValid text ⟨lexeme.start⟩
  stopBoundary : String.Pos.Raw.IsValid text ⟨lexeme.stop⟩
  slice : String.Pos.Raw.extract text ⟨lexeme.start⟩ ⟨lexeme.stop⟩ = lexeme.token.text
  place : lexeme.position = Position.ofOffset text lexeme.start

theorem token_filled (token : Token) (rest : List Char) (stands : token.Stands rest) :
    token.text.toList ≠ [] := by
  by_cases named : ∃ name, token = .identifier name
  · obtain ⟨name, rfl⟩ := named
    have identifier := (stands name rfl).1
    intro empty
    rw [Token.text] at empty
    rw [isIdentifier, empty] at identifier
    cases identifier
  · obtain ⟨c, text, _⟩ := token_mark token fun name same => named ⟨name, same⟩
    rw [text]
    exact List.cons_ne_nil c []

theorem lexeme_in (text : String) (front : List Char) (token : Token) (rest : List Char)
    (stands : token.Stands rest) (split : text.toList = front ++ (token.text.toList ++ rest)) :
    (token.lexemeAfter front).In text := by
  have filled := token_filled token rest stands
  have behind : text.toList = (front ++ token.text.toList) ++ rest := by
    rw [split, List.append_assoc]
  refine ⟨?_, boundary text front _ split, boundary text _ rest behind, ?_, ?_⟩
  · have wide : String.utf8Len token.text.toList ≠ 0 := fun none =>
      filled (String.utf8Len_eq_zero.1 none)
    simp only [Token.lexemeAfter, String.utf8Len_append]
    omega
  · have cut := String.extract_of_valid front token.text.toList rest
    rw [← behind, String.ofList_toList, String.ofList_toList] at cut
    rw [Token.lexemeAfter, String.utf8Len_append]
    exact cut
  · exact (position_of_offset text front _ split).symm

theorem layout_in (text : String) (before after : List Char) (found : List Lexeme)
    (layout : Layout before after found) (split : text.toList = before ++ after) :
    (∀ lexeme ∈ found, lexeme.In text ∧ String.utf8Len before ≤ lexeme.start) ∧
      found.Pairwise fun earlier later => earlier.stop ≤ later.start := by
  induction layout with
  | last before gap gapped => exact ⟨nofun, .nil⟩
  | token before gap token rest found gapped stands more ih =>
    rw [← List.append_assoc] at split
    have here := lexeme_in text (before ++ gap) token rest stands split
    rw [← List.append_assoc] at split
    obtain ⟨inside, increasing⟩ := ih split
    refine ⟨?_, List.pairwise_cons.2 ⟨fun later member => (inside later member).2, increasing⟩⟩
    intro lexeme member
    rcases List.mem_cons.1 member with rfl | later
    · refine ⟨here, ?_⟩
      simp [Token.lexemeAfter]
    · refine ⟨(inside lexeme later).1, Nat.le_trans ?_ (inside lexeme later).2⟩
      simp only [String.utf8Len_append]
      omega

theorem tokenize_layout (source text : String) (found : List Lexeme) :
    tokenize source text = .ok found ↔ Layout [] text.toList found := by
  rw [layout_iff_lexemes, tokenize]
  cases read : lexemes .start text.toList with
  | ok others => simp
  | error stray => simp

theorem tokenize_stray (source text : String) (front back : List Char) (stray : Stray)
    (read : lexemes .start text.toList = .error stray)
    (stops : Stops .start text.toList stray front back) :
    tokenize source text =
      .error ⟨.strayCharacter stray.character, some ⟨source, .after front⟩⟩ := by
  have place := stops.place
  rw [Cursor.past_position] at place
  rw [tokenize, read]
  simp only [place]

theorem tokens_are_laid_out (source text : String) :
    (∀ found, tokenize source text = .ok found ↔ Layout [] text.toList found) ∧
    (∀ found, Layout [] text.toList found →
      (∀ lexeme ∈ found, lexeme.In text) ∧
        found.Pairwise fun earlier later => earlier.stop ≤ later.start) ∧
    ((¬ ∃ found, Layout [] text.toList found) →
      ∃ front c back, text.toList = front ++ c :: back ∧ LongestLaidOut text.toList front ∧
        tokenize source text = .error ⟨.strayCharacter c, some ⟨source, .after front⟩⟩) := by
  refine ⟨tokenize_layout source text, ?_, ?_⟩
  · intro found layout
    obtain ⟨inside, increasing⟩ := layout_in text [] text.toList found layout rfl
    exact ⟨fun lexeme member => (inside lexeme member).1, increasing⟩
  · intro none
    cases read : lexemes .start text.toList with
    | ok found => exact absurd ⟨found, (layout_iff_lexemes _ found).2 read⟩ none
    | error stray =>
      obtain ⟨front, back, stops⟩ := lexemes_stop .start text.toList stray read
      exact ⟨front, stray.character, back, stops.split, stops_longest _ stray front back stops,
        tokenize_stray source text front back stray read stops⟩

theorem notes_laid_out :
    (Layout [] "b1; // é".toList [⟨.identifier "b1", 0, 2, ⟨1, 1⟩⟩, ⟨.semicolon, 2, 3, ⟨1, 3⟩⟩] ∧
      (∀ lexeme ∈ [⟨.identifier "b1", 0, 2, ⟨1, 1⟩⟩, ⟨.semicolon, 2, 3, ⟨1, 3⟩⟩],
        Lexeme.In lexeme "b1; // é") ∧
      [⟨.identifier "b1", 0, 2, ⟨1, 1⟩⟩, ⟨.semicolon, 2, 3, ⟨1, 3⟩⟩].Pairwise
        fun earlier later : Lexeme => earlier.stop ≤ later.start) ∧
    (¬ ∃ found, Layout [] "// é\nab/ c".toList found) ∧
    ∃ front c back, "// é\nab/ c".toList = front ++ c :: back ∧
      LongestLaidOut "// é\nab/ c".toList front ∧
      tokenize "notes" "// é\nab/ c" = .error ⟨.strayCharacter c, some ⟨"notes", .after front⟩⟩ := by
  obtain ⟨written, inside, _⟩ := tokens_are_laid_out "notes" "b1; // é"
  obtain ⟨laid, _, stray⟩ := tokens_are_laid_out "notes" "// é\nab/ c"
  have read : tokenize "notes" "b1; // é" =
      .ok [⟨.identifier "b1", 0, 2, ⟨1, 1⟩⟩, ⟨.semicolon, 2, 3, ⟨1, 3⟩⟩] := by decide +kernel
  have stopped : tokenize "notes" "// é\nab/ c" =
      .error ⟨.strayCharacter '/', some ⟨"notes", ⟨2, 3⟩⟩⟩ := by decide +kernel
  have none : ¬ ∃ found, Layout [] "// é\nab/ c".toList found := by
    rintro ⟨found, layout⟩
    rw [(laid found).2 layout] at stopped
    cases stopped
  exact ⟨⟨(written _).1 read, inside _ ((written _).1 read)⟩, none, stray none⟩

end TreeGrammar
