import TreeGrammar.Multiplicity
set_option autoImplicit false

namespace TreeGrammar

structure Reference where
  name : String
  multiplicity : Multiplicity
deriving DecidableEq

namespace Reference

def text (reference : Reference) : String :=
  match reference.multiplicity with
  | .exactlyOne => reference.name
  | multiplicity => reference.name.push multiplicity.tag

def tagged (reference : Reference) : String := reference.name.push reference.multiplicity.tag

def split (token : List Char) : List Char × Multiplicity :=
  match token.getLast? with
  | none => ([], .exactlyOne)
  | some last =>
    match Multiplicity.ofTag? last with
    | some multiplicity => (token.dropLast, multiplicity)
    | none => (token, .exactlyOne)

def ofToken? (token : String) : Option Reference :=
  match split token.toList with
  | ([], _) => none
  | (name, multiplicity) => some ⟨String.ofList name, multiplicity⟩

def namelessMessage (token : String) : String := "reference token '" ++ token ++ "' has no name"

end Reference

abbrev Alternative := List Reference

def Alternative.text : Alternative → String
  | [] => ""
  | [reference] => reference.text
  | reference :: rest => reference.text ++ " " ++ Alternative.text rest

end TreeGrammar
