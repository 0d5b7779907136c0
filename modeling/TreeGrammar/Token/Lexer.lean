import TreeGrammar.Token
set_option autoImplicit false

namespace TreeGrammar

namespace Token

def isBlank (c : Char) : Bool :=
  c = ' ' || c = '\t' || c = '\n' || c = '\x0c' || c = '\r'

def startsIdentifier (c : Char) : Bool := c.isAlpha || c = '_'

def continuesIdentifier (c : Char) : Bool := c.isAlphanum || c = '_'

end Token

structure Stray where
  character : Char
  position : Position
deriving DecidableEq

def lexemes (cursor : Cursor) (text : List Char) : Except Stray (List Lexeme) :=
  match text with
  | [] => .ok []
  | c :: rest =>
    if Token.isBlank c then lexemes (cursor.advance c) rest
    else if c = '/' ∧ rest.head? = some '/' then
      let comment := rest.takeWhile (· ≠ '\n')
      lexemes ((cursor.advance c).past comment) (rest.dropWhile (· ≠ '\n'))
    else if Token.startsIdentifier c then
      let word := c :: rest.takeWhile Token.continuesIdentifier
      let after := cursor.past word
      do
        let more ← lexemes after (rest.dropWhile Token.continuesIdentifier)
        return ⟨.identifier (String.ofList word), cursor.offset, after.offset, cursor.position⟩ :: more
    else
      match Token.ofMark? c with
      | none => .error ⟨c, cursor.position⟩
      | some token => do
        let after := cursor.advance c
        let more ← lexemes after rest
        return ⟨token, cursor.offset, after.offset, cursor.position⟩ :: more
termination_by text.length
decreasing_by
  all_goals
    simp only [List.length_cons, Nat.lt_succ_iff, Nat.le_refl, (List.dropWhile_sublist _).length_le]

def isIdentifier (text : String) : Bool :=
  match text.toList with
  | [] => false
  | c :: rest => Token.startsIdentifier c && rest.all Token.continuesIdentifier

end TreeGrammar
