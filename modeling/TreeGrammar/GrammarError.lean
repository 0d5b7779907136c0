import TreeGrammar.Token.Lexer
set_option autoImplicit false

namespace TreeGrammar

inductive GrammarFault where
  | strayCharacter (character : Char)
  | unexpectedToken (token : Token)
  | unexpectedEnd
  | statementName (name : String)
  | emptyAlternative (statement : String)
  | referenceName (name : String)
  | duplicateStatement (name : String)
  | undefinedReference (name : String)
deriving DecidableEq

namespace GrammarFault

def found? : GrammarFault → Option String
  | strayCharacter character => some (String.singleton character)
  | unexpectedToken token => some token.text
  | unexpectedEnd => none
  | statementName name | emptyAlternative name | referenceName name => some name
  | duplicateStatement name | undefinedReference name => some name

def malformed (detail : String) : String := "Malformed definition: " ++ detail

def message : GrammarFault → String
  | strayCharacter character =>
    malformed ("unexpected character '" ++ String.singleton character ++ "'")
  | unexpectedToken token => malformed ("unexpected " ++ token.shown)
  | unexpectedEnd => malformed "unexpected end of input"
  | statementName name => malformed ("statement name '" ++ name ++ "' is not an identifier")
  | emptyAlternative name => malformed ("statement '" ++ name ++ "' has an empty alternative")
  | referenceName name => malformed ("reference name '" ++ name ++ "' is not an identifier")
  | duplicateStatement name => "Duplicate statement '" ++ name ++ "'"
  | undefinedReference name => "Undefined reference '" ++ name ++ "'"

end GrammarFault

structure GrammarError where
  fault : GrammarFault
  location : Option Location
deriving DecidableEq

namespace GrammarError

def message (error : GrammarError) : String :=
  match error.location with
  | none => error.fault.message
  | some location => error.fault.message ++ " at " ++ location.text

end GrammarError

def tokenize (source text : String) : Except GrammarError (List Lexeme) :=
  match lexemes .start text.toList with
  | .ok found => .ok found
  | .error stray => .error ⟨.strayCharacter stray.character, some ⟨source, stray.position⟩⟩

end TreeGrammar
