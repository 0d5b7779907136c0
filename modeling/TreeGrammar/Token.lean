import TreeGrammar.Multiplicity
import TreeGrammar.Position
set_option autoImplicit false

namespace TreeGrammar

inductive Token where
  | identifier (name : String)
  | colon
  | semicolon
  | pipe
  | tag (multiplicity : Multiplicity)
deriving DecidableEq

namespace Token

def text : Token → String
  | identifier name => name
  | colon => ":"
  | semicolon => ";"
  | pipe => "|"
  | tag multiplicity => String.singleton multiplicity.tag

def shown : Token → String
  | identifier name => "identifier '" ++ name ++ "'"
  | token => "'" ++ token.text ++ "'"

def ofMark? (c : Char) : Option Token :=
  if c = ':' then some colon
  else if c = ';' then some semicolon
  else if c = '|' then some pipe
  else (Multiplicity.ofTag? c).map tag

end Token

structure Lexeme where
  token : Token
  start : Nat
  stop : Nat
  position : Position
deriving DecidableEq

end TreeGrammar
