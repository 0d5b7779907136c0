import TreeGrammar.Binary64
set_option autoImplicit false

namespace TreeGrammar

structure Settings where
  seed : Option Nat
  maxDepth : Nat
  maxSize : Nat
  leafProbability : Binary64
  aliasProbability : Binary64
  noAlias : List String
deriving DecidableEq

def Settings.standard : Settings :=
  ⟨none, 8, 5, .ofDecimal false 1 (-1), .zero, []⟩

end TreeGrammar
