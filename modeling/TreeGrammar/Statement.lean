import TreeGrammar.Reference
set_option autoImplicit false

namespace TreeGrammar

structure Statement where
  name : String
  alternatives : List Alternative
deriving DecidableEq

namespace Statement

def isLeaf (statement : Statement) : Bool := statement.alternatives.isEmpty

def references (statement : Statement) : List Reference := statement.alternatives.flatten

def alternativesText (mark : String) : List Alternative → String
  | [] => ""
  | alternative :: rest => mark ++ alternative.text ++ alternativesText " | " rest

def text (statement : Statement) : String :=
  statement.name ++ alternativesText ": " statement.alternatives ++ ";"

end Statement

end TreeGrammar
