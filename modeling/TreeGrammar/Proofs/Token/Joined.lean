import TreeGrammar.GrammarError
import TreeGrammar.Proofs.Position
import TreeGrammar.Proofs.Token.Lexing
set_option autoImplicit false

namespace TreeGrammar

def Position.down (lines : Nat) (position : Position) : Position :=
  ⟨position.line + lines, position.column⟩

def Cursor.down (bytes lines : Nat) (cursor : Cursor) : Cursor :=
  ⟨cursor.offset + bytes, cursor.line + lines, cursor.column, cursor.lineStart + bytes⟩

def Lexeme.down (bytes lines : Nat) (lexeme : Lexeme) : Lexeme :=
  ⟨lexeme.token, lexeme.start + bytes, lexeme.stop + bytes, lexeme.position.down lines⟩

def Stray.down (lines : Nat) (stray : Stray) : Stray :=
  ⟨stray.character, stray.position.down lines⟩

section

variable (bytes lines : Nat)

theorem advance_down (cursor : Cursor) (c : Char) :
    (cursor.down bytes lines).advance c = (cursor.advance c).down bytes lines := by
  by_cases feed : c = '\n'
  · simp only [Cursor.advance, Cursor.down, if_pos feed, Nat.add_right_comm]
  · simp only [Cursor.advance, Cursor.down, if_neg feed, Nat.add_right_comm]

theorem past_down (cursor : Cursor) (text : List Char) :
    (cursor.down bytes lines).past text = (cursor.past text).down bytes lines := by
  induction text generalizing cursor with
  | nil => rfl
  | cons c rest ih => rw [Cursor.past_cons, Cursor.past_cons, advance_down, ih]

theorem lexemes_down (cursor : Cursor) (text : List Char) :
    lexemes (cursor.down bytes lines) text =
      ((lexemes cursor text).map (List.map (Lexeme.down bytes lines))).mapError (Stray.down lines) := by
  induction course text generalizing cursor with
  | done =>
    rw [lexemes_nil, lexemes_nil]
    rfl
  | blank c rest blank more ih =>
    rw [lexemes_blank _ c rest blank, lexemes_blank _ c rest blank, advance_down, ih]
  | comment body rest inside ended more ih =>
    rw [lexemes_comment _ body rest inside ended, lexemes_comment _ body rest inside ended, past_down, ih]
  | token token rest stands more ih =>
    rw [lexemes_token _ token rest stands, lexemes_token _ token rest stands, past_down, ih]
    cases lexemes (cursor.past token.text.toList) rest with
    | error stray => rfl
    | ok found => rfl
  | stray c rest lost =>
    rw [lexemes_lost _ c rest lost, lexemes_lost _ c rest lost]
    rfl

end

theorem head_fed (p : Char → Prop) (feed : p '\n') (text back : List Char)
    (holds : ∀ c ∈ text.head?, p c) : ∀ c ∈ (text ++ '\n' :: back).head?, p c := by
  cases text with
  | nil =>
    intro c first
    cases first
    exact feed
  | cons first rest => exact holds

theorem lexemes_fed (cursor : Cursor) (front back : List Char) (found : List Lexeme)
    (read : lexemes cursor front = .ok found) :
    lexemes cursor (front ++ '\n' :: back) =
      (lexemes (cursor.past (front ++ ['\n'])) back).map (found ++ ·) := by
  induction course front generalizing cursor found with
  | done =>
    rw [lexemes_nil] at read
    cases read
    exact (lexemes_blank cursor '\n' back (by decide)).trans (congrFun Except.map_id _).symm
  | blank c rest blank more ih =>
    rw [lexemes_blank cursor c rest blank] at read
    rw [List.cons_append, lexemes_blank cursor c _ blank, ih _ found read]
    rfl
  | comment body rest inside ended more ih =>
    rw [lexemes_comment cursor body rest inside ended] at read
    -- Where the upper text ends within the comment, the line feed ends it.
    have still : LineEnd (rest ++ '\n' :: back) := head_fed (· = '\n') rfl rest back ended
    have split : '/' :: '/' :: (body ++ rest) ++ '\n' :: back =
        '/' :: '/' :: (body ++ (rest ++ '\n' :: back)) := by simp
    rw [split, lexemes_comment cursor body _ inside still, ih _ found read, ← Cursor.past_append]
    simp
  | token token rest stands more ih =>
    have still : token.Stands (rest ++ '\n' :: back) := by
      intro name same
      obtain ⟨identifier, apart⟩ := stands name same
      exact ⟨identifier, head_fed _ (by decide) rest back apart⟩
    rw [lexemes_token cursor token rest stands] at read
    cases later : lexemes (cursor.past token.text.toList) rest with
    | error stray =>
      rw [later] at read
      cases read
    | ok others =>
      rw [later] at read
      cases read
      rw [List.append_assoc, lexemes_token cursor token _ still, ih _ others later,
        ← Cursor.past_append, List.append_assoc]
      cases lexemes (cursor.past (token.text.toList ++ (rest ++ ['\n']))) back with
      | error stray => rfl
      | ok found => rfl
  | stray c rest lost =>
    rw [lexemes_lost cursor c rest lost] at read
    cases read

theorem start_below (text : List Char) :
    Cursor.start.past (text ++ ['\n']) =
      Cursor.start.down (String.utf8Len (text ++ ['\n'])) (text.count '\n' + 1) := by
  have line : (Cursor.start.past text).line = text.count '\n' + 1 :=
    congrArg Position.line (Cursor.past_position text)
  have offset : (Cursor.start.past text).offset = 0 + String.utf8Len text := Cursor.past_offset .start text
  have size : String.utf8Len (text ++ ['\n']) = String.utf8Len text + '\n'.utf8Size := by
    rw [String.utf8Len_append, String.utf8Len_cons]
    rfl
  rw [Cursor.past_append, Cursor.past_cons, Cursor.past_nil, Cursor.advance, if_pos rfl, line, offset,
    size]
  simp only [Cursor.down, Cursor.start, Nat.zero_add, Nat.add_comm 1]

theorem lexemes_below (text back : List Char) (found : List Lexeme)
    (read : lexemes .start text = .ok found) :
    lexemes .start (text ++ '\n' :: back) =
      ((lexemes .start back).map fun later =>
        found ++ later.map (Lexeme.down (String.utf8Len (text ++ ['\n'])) (text.count '\n' + 1))).mapError
        (Stray.down (text.count '\n' + 1)) := by
  rw [lexemes_fed .start text back found read, start_below, lexemes_down]
  cases lexemes .start back with
  | error stray => rfl
  | ok later => rfl

end TreeGrammar
