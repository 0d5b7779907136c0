import TreeGrammar.Binary64
import TreeGrammar.Text.Digit
set_option autoImplicit false

namespace TreeGrammar

namespace Json

structure NumberText where
  negative : Bool
  whole : List Char
  fraction : List Char
  exponent : Option (Bool × List Char)
deriving DecidableEq

inductive Numeral where
  | integer (value : Int)
  | floating (value : Binary64)
deriving DecidableEq

def NumberText.nearest (number : NumberText) : Binary64 :=
  let power : Int := match number.exponent with
    | none => 0
    | some (minus, digits) =>
      let value : Int := Text.digitsValue digits
      if minus then -value else value
  .ofDecimal number.negative (Text.digitsValue (number.whole ++ number.fraction))
    (power - number.fraction.length)

def NumberText.integer? (number : NumberText) : Option Int :=
  let value := Text.digitsValue number.whole
  if number.fraction ≠ [] ∨ number.exponent ≠ none then none
  else if number.negative then
    -- there is no integer with a negative sign that is zero
    if 0 < value ∧ value ≤ Nat.pow 2 63 then some (-value) else none
  else if value < Nat.pow 2 64 then some value
  else none

def NumberText.value? (number : NumberText) : Option Numeral :=
  match number.integer? with
  | some value => some (.integer value)
  | none =>
    if number.nearest.isInfinite then none else some (.floating number.nearest)

end Json

end TreeGrammar
