import TreeGrammar.Proofs.Declaration.Viable
import TreeGrammar.Proofs.Definition.Faults
set_option autoImplicit false

namespace TreeGrammar

theorem layout_places (before text : List Char) (found : List Lexeme)
    (layout : Layout before text found) :
    (∀ lexeme ∈ found, ∃ gap rest, text = gap ++ (lexeme.token.text.toList ++ rest) ∧
      lexeme.token.Stands rest ∧ lexeme.position = .after (before ++ gap)) ∧
      found.Pairwise fun earlier later => earlier.position < later.position := by
  induction layout with
  | last before gap gapped => exact ⟨nofun, .nil⟩
  | token before gap token rest found gapped stands more ih =>
    obtain ⟨inside, increasing⟩ := ih
    refine ⟨?_, List.pairwise_cons.2 ⟨?_, increasing⟩⟩
    · intro lexeme member
      rcases List.mem_cons.1 member with rfl | later
      · exact ⟨gap, rest, rfl, stands, rfl⟩
      · obtain ⟨between, tail, split, alone, place⟩ := inside lexeme later
        refine ⟨gap ++ token.text.toList ++ between, tail, ?_, alone, ?_⟩
        · rw [split, List.append_assoc, List.append_assoc]
        · rw [place, List.append_assoc, List.append_assoc, List.append_assoc]
    · intro lexeme later
      obtain ⟨between, tail, _, _, place⟩ := inside lexeme later
      rw [place, List.append_assoc (before ++ gap)]
      apply Position.after_lt
      exact List.append_ne_nil_of_left_ne_nil (token_filled token rest stands) between

def Position.Names (position : Position) (source text name : String) : Prop :=
  ∃ found lexeme, tokenize source text = .ok found ∧ lexeme ∈ found ∧
    lexeme.token = .identifier name ∧ lexeme.position = position

theorem lexeme_shows (source text : String) (found : List Lexeme)
    (tokenized : tokenize source text = .ok found) (lexeme : Lexeme) (member : lexeme ∈ found) :
    lexeme.token.text ≠ "" ∧ lexeme.position.Shows text.toList lexeme.token.text.toList := by
  have layout := (tokenize_layout source text found).1 tokenized
  obtain ⟨gap, rest, split, stands, place⟩ := (layout_places [] text.toList found layout).1 lexeme member
  refine ⟨?_, ?_⟩
  · intro empty
    refine token_filled lexeme.token rest stands ?_
    rw [empty]
    rfl
  · rw [place, split]
    exact Position.shows_after gap _ rest

theorem names_shows (position : Position) (source text name : String)
    (named : position.Names source text name) :
    name ≠ "" ∧ position.Shows text.toList name.toList := by
  obtain ⟨found, lexeme, tokenized, member, token, rfl⟩ := named
  have shown := lexeme_shows source text found tokenized lexeme member
  rw [token] at shown
  exact shown

theorem mem_names (lexemes : List Lexeme) (mention : Mention) (member : mention ∈ namesIn lexemes) :
    ∃ lexeme ∈ lexemes, lexeme.token = .identifier mention.name ∧
      lexeme.position = mention.position := by
  induction lexemes with
  | nil => cases member
  | cons lexeme rest ih =>
    rw [namesIn] at member
    split at member
    · rename_i name token
      rcases List.mem_cons.1 member with rfl | later
      · exact ⟨lexeme, .head _, token, rfl⟩
      · obtain ⟨other, among, same⟩ := ih later
        exact ⟨other, .tail _ among, same⟩
    · obtain ⟨other, among, same⟩ := ih member
      exact ⟨other, .tail _ among, same⟩

theorem names_increasing (lexemes : List Lexeme)
    (increasing : lexemes.Pairwise fun earlier later => earlier.position < later.position) :
    (namesIn lexemes).Pairwise fun earlier later => earlier.position < later.position := by
  induction lexemes with
  | nil => exact .nil
  | cons lexeme rest ih =>
    obtain ⟨before, later⟩ := List.pairwise_cons.1 increasing
    rw [namesIn]
    split
    · refine List.pairwise_cons.2 ⟨?_, ih later⟩
      intro mention member
      obtain ⟨other, among, _, place⟩ := mem_names rest mention member
      exact place ▸ before other among
    · exact ih later

section

variable (source text : String) (declarations : List Declaration)
  (success : readDeclarations source text = .ok declarations)

include success

theorem declared_names :
    (∀ mention ∈ declarations.flatMap Declaration.names,
      mention.position.Names source text mention.name) ∧
      (declarations.flatMap Declaration.names).Pairwise
        fun earlier later => earlier.position < later.position := by
  obtain ⟨found, tokenized, _⟩ := read_declarations_run source text declarations success
  have layout := (tokenize_layout source text found).1 tokenized
  rw [read_declarations_names source text found declarations tokenized success]
  refine ⟨?_, names_increasing found (layout_places [] text.toList found layout).2⟩
  intro mention member
  obtain ⟨lexeme, among, token, place⟩ := mem_names found mention member
  exact ⟨found, lexeme, tokenized, among, token, place⟩

theorem declaration_names (declaration : Declaration) (member : declaration ∈ declarations) :
    declaration.position.Names source text declaration.name :=
  (declared_names source text declarations success).1 ⟨declaration.name, none, declaration.position⟩
    (List.mem_flatMap.2 ⟨declaration, member, .head _⟩)

theorem mention_names (mention : Mention) (member : mention ∈ declarations.flatMap Declaration.mentions) :
    mention.position.Names source text mention.name := by
  obtain ⟨declaration, among, listed⟩ := List.mem_flatMap.1 member
  exact (declared_names source text declarations success).1 mention
    (List.mem_flatMap.2 ⟨declaration, among, .tail _ listed⟩)

theorem earlier_declaration (front back : List Declaration) (earlier later : Declaration)
    (split : declarations = front ++ later :: back) (before : earlier ∈ front) :
    earlier.position < later.position := by
  have increasing := (declared_names source text declarations success).2
  rw [split, List.flatMap_append, List.flatMap_cons, List.pairwise_append] at increasing
  exact increasing.2.2 ⟨earlier.name, none, earlier.position⟩
    (List.mem_flatMap.2 ⟨earlier, before, .head _⟩) ⟨later.name, none, later.position⟩
    (List.mem_append_left _ (.head _))

end

structure GrammarFault.PointsAt (fault : GrammarFault) (source text : String) (position : Position) :
    Prop where
  shown : ∀ name, fault.found? = some name →
    name ≠ "" ∧ position.Shows text.toList name.toList
  undefined : ∀ name, fault = .undefinedReference name → position.Names source text name
  duplicate : ∀ name, fault = .duplicateStatement name → position.Names source text name ∧
    ∃ declarations, readDeclarations source text = .ok declarations ∧
      ∃ earlier ∈ declarations, earlier.name = name ∧ earlier.position < position ∧
        earlier.position.Names source text name
  ended : fault.found? = none → position = .after text.toList

theorem stray_points (source text : String) (stray : Stray)
    (read : lexemes .start text.toList = .error stray) :
    ∃ position, tokenize source text =
        .error ⟨.strayCharacter stray.character, some ⟨source, position⟩⟩ ∧
      (GrammarFault.strayCharacter stray.character).PointsAt source text position := by
  obtain ⟨front, back, stops⟩ := lexemes_stop .start text.toList stray read
  refine ⟨_, tokenize_stray source text front back stray read stops, ?_, nofun, nofun, nofun⟩
  intro name same
  cases same
  refine ⟨String.singleton_ne_empty, ?_⟩
  rw [String.toList_singleton, stops.split]
  exact Position.shows_after front [stray.character] back

theorem read_error_points (source text : String) (error : GrammarError)
    (failure : readDeclarations source text = .error error) :
    ∃ position, error.location = some ⟨source, position⟩ ∧
      error.fault.PointsAt source text position := by
  cases read : lexemes .start text.toList with
  | error stray =>
    obtain ⟨position, stopped, points⟩ := stray_points source text stray read
    rw [readDeclarations, stopped] at failure
    cases failure
    exact ⟨position, rfl, points⟩
  | ok found =>
    have tokenized : tokenize source text = .ok found := by rw [tokenize, read]
    rcases read_declarations_error source text found error tokenized failure with
      ⟨_, rfl⟩ | ⟨front, stopped, back, rfl, _, _, rfl⟩
    · exact ⟨_, rfl, by rintro _ ⟨⟩, by rintro _ ⟨⟩, by rintro _ ⟨⟩, fun _ => position_end text⟩
    · refine ⟨_, rfl, ?_, by rintro _ ⟨⟩, by rintro _ ⟨⟩, by rintro ⟨⟩⟩
      intro name same
      cases same
      exact lexeme_shows source text _ tokenized stopped (List.mem_append_right _ (.head _))

theorem judged_points (source text : String) (declarations : List Declaration) (error : GrammarError)
    (success : readDeclarations source text = .ok declarations)
    (judged : Judged source declarations (.error error)) :
    ∃ position, error.location = some ⟨source, position⟩ ∧
      error.fault.PointsAt source text position := by
  cases judged with
  | repeated front back again split distinct known =>
    have named := declaration_names source text declarations success again
      (split ▸ List.mem_append_right _ (.head _))
    refine ⟨again.position, rfl, ?_, nofun, ?_, nofun⟩
    · intro name same
      cases same
      exact names_shows _ source text _ named
    · intro name same
      cases same
      obtain ⟨earlier, before, same⟩ := List.mem_map.1 known
      have listed : earlier ∈ declarations := split ▸ List.mem_append_left _ before
      have first := declaration_names source text declarations success earlier listed
      exact ⟨named, declarations, success, earlier, listed, same,
        earlier_declaration source text declarations success front back earlier again split before,
        same ▸ first⟩
  | undefined before after mention distinct split declared unknown =>
    have named := mention_names source text declarations success mention
      (split ▸ List.mem_append_right _ (.head _))
    refine ⟨mention.position, rfl, ?_, ?_, nofun, nofun⟩
    · intro name same
      cases same
      exact names_shows _ source text _ named
    · intro name same
      cases same
      exact named

theorem diagnostics_point_at_text (source text : String) (error : GrammarError)
    (failure : Definition.parse source text = .error error) :
    ∃ position, error.location = some ⟨source, position⟩ ∧
      error.fault.PointsAt source text position := by
  rw [Definition.parse] at failure
  cases read : readDeclarations source text with
  | error fault =>
    rw [read] at failure
    cases failure
    exact read_error_points source text error read
  | ok declarations =>
    rw [read] at failure
    have judged := judged_of_declarations source declarations
    change Definition.ofDeclarations source declarations = .error error at failure
    rw [failure] at judged
    exact judged_points source text declarations error read judged

def repeatedText : String := "a; // é\nb: a; a: b;"

def repeatedError : GrammarError := ⟨.duplicateStatement "a", some ⟨"notes", ⟨2, 7⟩⟩⟩

def openText : String := "a: b // é"

def openError : GrammarError := ⟨.unexpectedEnd, some ⟨"notes", ⟨1, 10⟩⟩⟩

theorem repeated_open_points :
    (Definition.parse "notes" repeatedText = .error repeatedError ∧
      repeatedError.fault.PointsAt "notes" repeatedText ⟨2, 7⟩ ∧
      ∃ place, place < (⟨2, 7⟩ : Position) ∧ place.Names "notes" repeatedText "a") ∧
    Definition.parse "notes" openText = .error openError ∧
    openError.fault.PointsAt "notes" openText ⟨1, 10⟩ := by
  have repeated : Definition.parse "notes" repeatedText = .error repeatedError := by decide +kernel
  have cut : Definition.parse "notes" openText = .error openError := by decide +kernel
  obtain ⟨_, here, points⟩ := diagnostics_point_at_text "notes" repeatedText repeatedError repeated
  cases here
  obtain ⟨_, there, ends⟩ := diagnostics_point_at_text "notes" openText openError cut
  cases there
  obtain ⟨_, _, _, earlier, _, _, before, named⟩ := points.duplicate "a" rfl
  exact ⟨⟨repeated, points, earlier.position, before, named⟩, cut, ends⟩

end TreeGrammar
