set_option autoImplicit false

namespace TreeGrammar

inductive Multiplicity where
  | exactlyOne
  | atMostOne
  | atLeastOne
  | anyNumber
deriving DecidableEq

namespace Multiplicity

instance : Inhabited Multiplicity := ⟨.exactlyOne⟩

def all : List Multiplicity := [.exactlyOne, .atMostOne, .atLeastOne, .anyNumber]

def tag : Multiplicity → Char
  | .exactlyOne => '!'
  | .atMostOne => '?'
  | .atLeastOne => '+'
  | .anyNumber => '*'

def ofTag? (c : Char) : Option Multiplicity := all.find? (·.tag = c)

def word : Multiplicity → String
  | .exactlyOne => "NON_NULL"
  | .atMostOne => "NULLABLE"
  | .atLeastOne => "ONE_OR_MORE"
  | .anyNumber => "ZERO_OR_MORE"

def ofWord? (word : String) : Option Multiplicity := all.find? (·.word = word)

def repeats : Multiplicity → Bool
  | .exactlyOne | .atMostOne => false
  | .atLeastOne | .anyNumber => true

def least : Multiplicity → Nat
  | .exactlyOne | .atLeastOne => 1
  | .atMostOne | .anyNumber => 0

def most? : Multiplicity → Option Nat
  | .exactlyOne | .atMostOne => some 1
  | .atLeastOne | .anyNumber => none

def admits (multiplicity : Multiplicity) (size : Nat) : Bool :=
  multiplicity.least ≤ size && multiplicity.most?.all (size ≤ ·)

theorem ofTag?_tag (multiplicity : Multiplicity) : ofTag? multiplicity.tag = some multiplicity := by
  cases multiplicity <;> rfl

theorem ofWord?_word (multiplicity : Multiplicity) :
    ofWord? multiplicity.word = some multiplicity := by
  cases multiplicity <;> decide

theorem mem_all (multiplicity : Multiplicity) : multiplicity ∈ all := by
  cases multiplicity <;> decide

end Multiplicity

end TreeGrammar
