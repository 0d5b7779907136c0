import TreeGrammar.Statement
import TreeGrammar.Position
set_option autoImplicit false

namespace TreeGrammar

structure Mention where
  name : String
  tag : Option Multiplicity
  position : Position
deriving DecidableEq

def Mention.reference (mention : Mention) : Reference :=
  ⟨mention.name, mention.tag.getD .exactlyOne⟩

structure Declaration where
  name : String
  position : Position
  contents : Option (List (List Mention))
deriving DecidableEq

namespace Declaration

def mentions (declaration : Declaration) : List Mention := (declaration.contents.getD []).flatten

def alternatives (declaration : Declaration) : List Alternative :=
  (declaration.contents.getD []).map (·.map Mention.reference)

def statement (declaration : Declaration) : Statement :=
  ⟨declaration.name, declaration.alternatives⟩

end Declaration

end TreeGrammar
