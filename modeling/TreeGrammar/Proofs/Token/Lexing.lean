import TreeGrammar.Token.Lexer
set_option autoImplicit false

namespace TreeGrammar

def Spells (text : List Char) (tokens : List Token) : Prop :=
  ∀ cursor, ∃ found, lexemes cursor text = .ok found ∧ found.map Lexeme.token = tokens

def Apart (text : List Char) : Prop := ∀ c ∈ text.head?, Token.continuesIdentifier c = false

def LineEnd (text : List Char) : Prop := ∀ c ∈ text.head?, c = '\n'

def Token.Stands (token : Token) (rest : List Char) : Prop :=
  ∀ name, token = .identifier name → isIdentifier name = true ∧ Apart rest

structure Lost (c : Char) (rest : List Char) : Prop where
  blank : Token.isBlank c = false
  comment : ¬ (c = '/' ∧ rest.head? = some '/')
  word : Token.startsIdentifier c = false
  mark : Token.ofMark? c = none

theorem blank_no_start (c : Char) (blank : Token.isBlank c = true) :
    Token.startsIdentifier c = false := by
  simp only [Token.isBlank, Bool.or_eq_true, decide_eq_true_eq] at blank
  rcases blank with (((rfl | rfl) | rfl) | rfl) | rfl <;> decide

theorem identifier_characters (name : String) (identifier : isIdentifier name = true) (c : Char)
    (member : c ∈ name.toList) : Token.continuesIdentifier c = true := by
  rw [isIdentifier] at identifier
  cases word : name.toList with
  | nil =>
    rw [word] at member
    cases member
  | cons first rest =>
    rw [word, Bool.and_eq_true] at identifier
    rw [word] at member
    obtain ⟨start, all⟩ := identifier
    rcases List.mem_cons.1 member with rfl | later
    · rw [Token.startsIdentifier, Bool.or_eq_true] at start
      rw [Token.continuesIdentifier, Char.isAlphanum]
      rcases start with letter | underscore
      · rw [letter]
        rfl
      · rw [underscore, Bool.or_true]
    · exact List.all_eq_true.1 all c later

theorem identifier_lacks (name : String) (identifier : isIdentifier name = true) (c : Char)
    (outside : Token.continuesIdentifier c = false) : c ∉ name.toList := by
  intro member
  rw [identifier_characters name identifier c member] at outside
  cases outside

theorem tag_of_mark (c : Char) (multiplicity : Multiplicity)
    (found : Multiplicity.ofTag? c = some multiplicity) : multiplicity.tag = c := by
  rw [Multiplicity.ofTag?] at found
  have tagged := List.find?_some found
  exact of_decide_eq_true tagged

theorem mark_alone (c : Char) (token : Token) (mark : Token.ofMark? c = some token) :
    Token.isBlank c = false ∧ c ≠ '/' ∧ Token.startsIdentifier c = false := by
  rw [Token.ofMark?] at mark
  by_cases colon : c = ':'
  · rw [colon]
    decide
  by_cases semicolon : c = ';'
  · rw [semicolon]
    decide
  by_cases pipe : c = '|'
  · rw [pipe]
    decide
  rw [if_neg colon, if_neg semicolon, if_neg pipe] at mark
  obtain ⟨multiplicity, found, _⟩ := Option.map_eq_some_iff.1 mark
  rw [← tag_of_mark c multiplicity found]
  cases multiplicity <;> decide

theorem mark_no_identifier (c : Char) (name : String) :
    Token.ofMark? c ≠ some (.identifier name) := by
  intro mark
  rw [Token.ofMark?] at mark
  split at mark
  · cases mark
  · split at mark
    · cases mark
    · split at mark
      · cases mark
      · obtain ⟨multiplicity, _, same⟩ := Option.map_eq_some_iff.1 mark
        cases same

theorem mark_text (c : Char) (token : Token) (mark : Token.ofMark? c = some token) :
    token.text.toList = [c] := by
  rw [Token.ofMark?] at mark
  by_cases colon : c = ':'
  · rw [if_pos colon] at mark
    cases mark
    rw [colon]
    rfl
  by_cases semicolon : c = ';'
  · rw [if_neg colon, if_pos semicolon] at mark
    cases mark
    rw [semicolon]
    rfl
  by_cases pipe : c = '|'
  · rw [if_neg colon, if_neg semicolon, if_pos pipe] at mark
    cases mark
    rw [pipe]
    rfl
  rw [if_neg colon, if_neg semicolon, if_neg pipe] at mark
  obtain ⟨multiplicity, found, rfl⟩ := Option.map_eq_some_iff.1 mark
  rw [← tag_of_mark c multiplicity found]
  exact String.toList_singleton _

theorem token_mark (token : Token) (unnamed : ∀ name, token ≠ .identifier name) :
    ∃ c, token.text.toList = [c] ∧ Token.ofMark? c = some token := by
  cases token with
  | identifier name => exact absurd rfl (unnamed name)
  | colon => exact ⟨':', rfl, rfl⟩
  | semicolon => exact ⟨';', rfl, rfl⟩
  | pipe => exact ⟨'|', rfl, rfl⟩
  | tag multiplicity =>
    refine ⟨multiplicity.tag, String.toList_singleton _, ?_⟩
    cases multiplicity <;> decide

theorem take_run (p : Char → Bool) (run rest : List Char) (all : ∀ c ∈ run, p c = true)
    (ends : ∀ c ∈ rest.head?, p c = false) :
    (run ++ rest).takeWhile p = run ∧ (run ++ rest).dropWhile p = rest := by
  rw [List.takeWhile_append_of_pos all, List.dropWhile_append_of_pos all]
  cases rest with
  | nil => simp
  | cons c rest =>
    have stops := ends c rfl
    simp [stops]

theorem run_ends (p : Char → Bool) (text : List Char) :
    ∀ c ∈ (text.dropWhile p).head?, p c = false := by
  intro c first
  have stops := List.head?_dropWhile_not p text
  rw [Option.mem_def.1 first] at stops
  exact stops

theorem lexemes_nil (cursor : Cursor) : lexemes cursor [] = .ok [] := by rw [lexemes]

theorem lexemes_blank (cursor : Cursor) (c : Char) (rest : List Char)
    (blank : Token.isBlank c = true) :
    lexemes cursor (c :: rest) = lexemes (cursor.advance c) rest := by
  rw [lexemes, if_pos blank]

theorem lexemes_comment (cursor : Cursor) (body rest : List Char) (inside : '\n' ∉ body)
    (ended : LineEnd rest) :
    lexemes cursor ('/' :: '/' :: (body ++ rest)) = lexemes (cursor.past ('/' :: '/' :: body)) rest := by
  have line : ∀ c ∈ '/' :: body, decide (c ≠ '\n') = true := by
    intro c member
    rcases List.mem_cons.1 member with rfl | deeper
    · decide
    · exact decide_eq_true fun feed => inside (feed ▸ deeper)
  obtain ⟨taken, dropped⟩ := take_run _ ('/' :: body) rest line fun c first => by
    simp [ended c first]
  rw [List.cons_append] at taken dropped
  have blank : ¬ Token.isBlank '/' = true := by decide
  rw [lexemes, if_neg blank, if_pos ⟨rfl, rfl⟩, taken, dropped]
  rfl

theorem lexemes_token (cursor : Cursor) (token : Token) (rest : List Char)
    (stands : token.Stands rest) :
    lexemes cursor (token.text.toList ++ rest) =
      (lexemes (cursor.past token.text.toList) rest).map (List.cons ⟨token, cursor.offset,
        (cursor.past token.text.toList).offset, cursor.position⟩) := by
  by_cases named : ∃ name, token = .identifier name
  · obtain ⟨name, rfl⟩ := named
    obtain ⟨identifier, apart⟩ := stands name rfl
    rw [Token.text]
    rw [isIdentifier] at identifier
    cases word : name.toList with
    | nil =>
      rw [word] at identifier
      cases identifier
    | cons c more =>
      rw [word, Bool.and_eq_true] at identifier
      obtain ⟨start, all⟩ := identifier
      obtain ⟨taken, dropped⟩ := take_run _ more rest (List.all_eq_true.1 all) apart
      have blank : ¬ Token.isBlank c = true := by
        intro blank
        rw [blank_no_start c blank] at start
        cases start
      have comment : ¬ (c = '/' ∧ (more ++ rest).head? = some '/') := by
        intro both
        obtain ⟨rfl, _⟩ := both
        revert start
        decide
      have same : String.ofList (c :: more) = name := by rw [← word, String.ofList_toList]
      rw [List.cons_append, lexemes, if_neg blank, if_neg comment, if_pos start, taken, dropped,
        ← same]
      rfl
  · obtain ⟨c, text, mark⟩ := token_mark token fun name same => named ⟨name, same⟩
    obtain ⟨blank, slash, start⟩ := mark_alone c token mark
    have comment : ¬ (c = '/' ∧ rest.head? = some '/') := fun both => slash both.1
    rw [text, List.singleton_append, lexemes, blank, if_neg Bool.false_ne_true, if_neg comment, start,
      if_neg Bool.false_ne_true, mark]
    rfl

theorem lexemes_lost (cursor : Cursor) (c : Char) (rest : List Char) (lost : Lost c rest) :
    lexemes cursor (c :: rest) = .error ⟨c, cursor.position⟩ := by
  rw [lexemes, lost.blank, if_neg Bool.false_ne_true, if_neg lost.comment, lost.word,
    if_neg Bool.false_ne_true, lost.mark]

inductive Course : List Char → Prop where
  | done : Course []
  | blank (c : Char) (rest : List Char) (blank : Token.isBlank c = true) (more : Course rest) :
      Course (c :: rest)
  | comment (body rest : List Char) (inside : '\n' ∉ body) (ended : LineEnd rest)
      (more : Course rest) : Course ('/' :: '/' :: (body ++ rest))
  | token (token : Token) (rest : List Char) (stands : token.Stands rest) (more : Course rest) :
      Course (token.text.toList ++ rest)
  | stray (c : Char) (rest : List Char) (lost : Lost c rest) : Course (c :: rest)

theorem course (text : List Char) : Course text := by
  have along (cursor : Cursor) : Course text := by
    induction cursor, text using lexemes.induct with
    | case1 cursor => exact .done
    | case2 cursor c rest blank ih => exact .blank c rest blank ih
    | case3 cursor c rest blank comment text ih =>
      obtain ⟨rfl, second⟩ := comment
      obtain ⟨more, rfl⟩ := List.head?_eq_some_iff.1 second
      have ended := run_ends (· ≠ '\n') more
      rw [List.dropWhile_cons_of_pos (by decide)] at ih
      rw [← List.takeWhile_append_dropWhile (p := (· ≠ '\n')) (l := more)]
      refine .comment _ _ ?_ ?_ ih
      · intro feed
        have kept := List.all_eq_true.1 List.all_takeWhile '\n' feed
        revert kept
        decide
      · intro c first
        simpa using ended c first
    | case4 cursor c rest blank comment start word after ih =>
      have text : (Token.identifier (String.ofList word)).text.toList = word := String.toList_ofList
      have split : c :: rest = word ++ rest.dropWhile Token.continuesIdentifier := by
        rw [List.cons_append, List.takeWhile_append_dropWhile]
      rw [split, ← text]
      refine .token _ _ ?_ ih
      intro name same
      cases same
      refine ⟨?_, run_ends Token.continuesIdentifier rest⟩
      rw [isIdentifier, String.toList_ofList]
      simp [word, start]
    | case5 cursor c rest blank comment start mark =>
      exact .stray c rest ⟨Bool.eq_false_iff.2 blank, comment, Bool.eq_false_iff.2 start, mark⟩
    | case6 cursor c rest blank comment start token mark after ih =>
      rw [← List.singleton_append, ← mark_text c token mark]
      refine .token token rest ?_ ih
      intro name same
      subst same
      exact absurd mark (mark_no_identifier c name)
  exact along .start

theorem spells_nil : Spells [] [] := by
  intro cursor
  exact ⟨[], lexemes_nil cursor, rfl⟩

theorem spells_blank (c : Char) (rest : List Char) (tokens : List Token)
    (blank : Token.isBlank c = true) (spells : Spells rest tokens) : Spells (c :: rest) tokens := by
  intro cursor
  rw [lexemes_blank cursor c rest blank]
  exact spells (cursor.advance c)

theorem spells_token (token : Token) (rest : List Char) (tokens : List Token)
    (stands : token.Stands rest) (spells : Spells rest tokens) :
    Spells (token.text.toList ++ rest) (token :: tokens) := by
  intro cursor
  obtain ⟨found, read, spelled⟩ := spells (cursor.past token.text.toList)
  rw [lexemes_token cursor token rest stands, read]
  refine ⟨_, rfl, ?_⟩
  rw [List.map_cons, spelled]

theorem spells_mark (c : Char) (token : Token) (rest : List Char) (tokens : List Token)
    (mark : Token.ofMark? c = some token) (spells : Spells rest tokens) :
    Spells (c :: rest) (token :: tokens) := by
  rw [← List.singleton_append, ← mark_text c token mark]
  refine spells_token token rest tokens ?_ spells
  intro name same
  subst same
  exact absurd mark (mark_no_identifier c name)

theorem spells_word (word rest : List Char) (tokens : List Token)
    (identifier : isIdentifier (String.ofList word) = true) (apart : Apart rest)
    (spells : Spells rest tokens) :
    Spells (word ++ rest) (.identifier (String.ofList word) :: tokens) := by
  have text : (Token.identifier (String.ofList word)).text.toList = word := String.toList_ofList
  have stands : (Token.identifier (String.ofList word)).Stands rest := by
    intro name same
    cases same
    exact ⟨identifier, apart⟩
  have token := spells_token _ rest tokens stands spells
  rw [text] at token
  exact token

theorem lexed_identifier (cursor : Cursor) (text : List Char) (found : List Lexeme) (name : String)
    (read : lexemes cursor text = .ok found)
    (member : Token.identifier name ∈ found.map Lexeme.token) : isIdentifier name = true := by
  induction course text generalizing cursor found with
  | done =>
    rw [lexemes_nil] at read
    cases read
    cases member
  | blank c rest blank more ih =>
    rw [lexemes_blank cursor c rest blank] at read
    exact ih _ found read member
  | comment body rest inside ended more ih =>
    rw [lexemes_comment cursor body rest inside ended] at read
    exact ih _ found read member
  | token token rest stands more ih =>
    rw [lexemes_token cursor token rest stands] at read
    cases later : lexemes (cursor.past token.text.toList) rest with
    | error stray =>
      rw [later] at read
      cases read
    | ok others =>
      rw [later] at read
      cases read
      rcases List.mem_cons.1 member with here | further
      · exact (stands name here.symm).1
      · exact ih _ others later further
  | stray c rest lost =>
    rw [lexemes_lost cursor c rest lost] at read
    cases read

end TreeGrammar
