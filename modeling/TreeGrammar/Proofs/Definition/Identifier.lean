import Mathlib.Data.List.TFAE
import Mathlib.Tactic.TFAE
import TreeGrammar.Proofs.Definition.RoundTrip
import TreeGrammar.Proofs.Token.Layout
set_option autoImplicit false

namespace TreeGrammar

def IsLetter (c : Char) : Prop := 'a' ≤ c ∧ c ≤ 'z' ∨ 'A' ≤ c ∧ c ≤ 'Z' ∨ c = '_'

def IsDigit (c : Char) : Prop := '0' ≤ c ∧ c ≤ '9'

def IsWord (text : List Char) : Prop :=
  ∃ first rest, text = first :: rest ∧ IsLetter first ∧ ∀ c ∈ rest, IsLetter c ∨ IsDigit c

theorem starts_iff_letter (c : Char) : Token.startsIdentifier c = true ↔ IsLetter c := by
  have upper : c.isUpper = true ↔ 'A' ≤ c ∧ c ≤ 'Z' := decide_eq_true_iff
  have lower : c.isLower = true ↔ 'a' ≤ c ∧ c ≤ 'z' :=
    Bool.and_eq_true_iff.trans (and_congr decide_eq_true_iff decide_eq_true_iff)
  have letter : c.isAlpha = true ↔ c.isUpper = true ∨ c.isLower = true := Bool.or_eq_true_iff
  simp only [Token.startsIdentifier, Bool.or_eq_true, letter, upper, lower, decide_eq_true_eq, IsLetter,
    or_assoc]
  exact or_left_comm

theorem continues_iff (c : Char) : Token.continuesIdentifier c = true ↔ IsLetter c ∨ IsDigit c := by
  rw [← starts_iff_letter]
  simp only [Token.continuesIdentifier, Token.startsIdentifier, Char.isAlphanum, Char.isDigit,
    Bool.or_eq_true, Bool.and_eq_true, decide_eq_true_eq, IsDigit, Char.le_def]
  exact or_right_comm

theorem identifier_iff_word (text : String) : isIdentifier text = true ↔ IsWord text.toList := by
  rw [isIdentifier, IsWord]
  cases text.toList with
  | nil => simp
  | cons c rest => simp [starts_iff_letter, continues_iff]

theorem whole_token (source text name : String) (place : Position)
    (tokenized : tokenize source text = .ok [⟨.identifier name, 0, text.utf8ByteSize, place⟩]) :
    isIdentifier text = true := by
  have layout := (tokenize_layout source text _).1 tokenized
  have slice := ((layout_in text [] text.toList _ layout rfl).1 _ (.head _)).1.slice
  have whole := String.extract_of_valid [] text.toList []
  rw [List.nil_append, List.append_nil, String.ofList_toList, String.utf8Len_toList] at whole
  simp only [String.utf8Len_nil, Nat.zero_add] at whole
  -- The token has all bytes of the text, so it is the text.
  have same : text = name := whole.symm.trans slice
  rw [same]
  exact lexed_identifier .start text.toList _ name (tokenize_ok source text _ tokenized) (.head _)

theorem identifier_token (source text : String) (identifier : isIdentifier text = true) :
    tokenize source text = .ok [⟨.identifier text, 0, text.utf8ByteSize, ⟨1, 1⟩⟩] := by
  have stands : (Token.identifier text).Stands [] := by
    intro name same
    cases same
    exact ⟨identifier, nofun⟩
  have layout := Layout.token [] [] (.identifier text) [] [] .nothing stands (.last _ [] .nothing)
  have lexeme : (Token.identifier text).lexemeAfter [] =
      ⟨.identifier text, 0, text.utf8ByteSize, ⟨1, 1⟩⟩ := by
    rw [Token.lexemeAfter, ← String.utf8Len_toList]
    rfl
  refine (tokenize_layout source text _).2 ?_
  rw [List.append_nil, List.nil_append, List.append_nil, lexeme] at layout
  exact layout

def Definition.leaf (name : String) : Definition :=
  ⟨⟨[(name, [])], List.pairwise_singleton _ _⟩, nofun⟩

theorem identifier_declares (source text : String) (identifier : isIdentifier text = true) :
    Definition.parse source (text ++ ";") = .ok (Definition.leaf text) := by
  have ended := spells_mark ';' .semicolon [] [] rfl spells_nil
  have spells := spells_name text [';'] _ identifier (by
    intro c first
    cases first
    decide) ended
  refine Definition.parse_spelled source _ [⟨text, none⟩] _ ?_ ?_ rfl
  · intro written member
    rw [List.mem_singleton.1 member]
    exact nofun
  · rw [String.toList_append]
    exact spells

theorem identifiers_coincide (source text : String) :
    List.TFAE [isIdentifier text = true,
      IsWord text.toList,
      ∃ name place, tokenize source text = .ok [⟨.identifier name, 0, text.utf8ByteSize, place⟩],
      ∃ definition, Definition.parse source (text ++ ";") = .ok definition ∧
        definition.toList = [⟨text, []⟩]] := by
  tfae_have 1 ↔ 2 := identifier_iff_word text
  tfae_have 1 → 3 := fun identifier => ⟨_, _, identifier_token source text identifier⟩
  tfae_have 3 → 1 := by
    rintro ⟨name, place, tokenized⟩
    exact whole_token source text name place tokenized
  tfae_have 1 → 4 := fun identifier => ⟨_, identifier_declares source text identifier, rfl⟩
  tfae_have 4 → 1 := by
    rintro ⟨definition, success, only⟩
    have expressible := Definition.parse_expressible source _ definition success
    exact expressible.names ⟨text, []⟩ (only ▸ .head _)
  tfae_finish

end TreeGrammar
