import TreeGrammar.Graph
import TreeGrammar.Reference
set_option autoImplicit false

namespace TreeGrammar

inductive GenerationError where
  | unknownStatement (name : String)
  | alternativeOutOfRange (statement : String) (index count : Nat)
  | sizeOutOfRange (reference : Reference) (size : Nat)
  | targetNameMismatch (target : NodeId) (found expected : String)
  | unknownTarget (target : NodeId) (reference : String)
deriving DecidableEq

namespace GenerationError

def violation (detail : String) : String := "Strategy contract violation: " ++ detail

def message : GenerationError → String
  | unknownStatement name => "No statement named: " ++ name
  | alternativeOutOfRange statement index count =>
    violation ("alternative index " ++ toString index ++ " out of range for '" ++ statement ++ "' (" ++
      toString count ++ " alternatives)")
  | sizeOutOfRange reference size =>
    violation ("size " ++ toString size ++ " not admitted by slot '" ++ reference.tagged ++ "'")
  | targetNameMismatch target found expected =>
    violation ("alias " ++ target.text ++ " is a '" ++ found ++ "' node but the slot expects '" ++
      expected ++ "'")
  | unknownTarget target reference =>
    violation ("alias " ++ target.text ++ " for slot '" ++ reference ++
      "' is not a generated node of this run")

end GenerationError

inductive LogRecord where
  | started (root : String)
  | visiting (name : String) (parent : Option NodeId)
  | sized (reference : Reference) (node : NodeId) (size : Nat)
  | reusing (target node : NodeId)
  | failed (root : String) (error : GenerationError)
  | finished (root : String) (size : Nat)
deriving DecidableEq

namespace LogRecord

def parentText : Option NodeId → String
  | none => "None"
  | some id => "Some(NodeId(" ++ toString id ++ "))"

def level : LogRecord → String
  | visiting _ _ | sized _ _ _ | reusing _ _ => "TRACE"
  | started _ | failed _ _ | finished _ _ => "DEBUG"

def message : LogRecord → String
  | started root => "generation run started at root '" ++ root ++ "'"
  | visiting name parent => "generate name: " ++ name ++ ", parent: " ++ parentText parent
  | sized reference node size =>
    "slot " ++ reference.tagged ++ " of " ++ node.text ++ " gets " ++ toString size ++ " children"
  | reusing target node => "reuse " ++ target.text ++ " as alias child of " ++ node.text
  | failed root error => "generation run at root '" ++ root ++ "' failed: " ++ error.message
  | finished root size =>
    "generation run at root '" ++ root ++ "' finished with " ++ toString size ++ " nodes"

def text (record : LogRecord) : String := record.level ++ " " ++ record.message

end LogRecord

end TreeGrammar
