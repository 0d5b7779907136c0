set_option autoImplicit false

namespace TreeGrammar

-- The code is the lower 63 bits of the interchange format. With the least positive number as unit, a
-- finite magnitude is `significand * 2 ^ exponent` and its code `significand + exponent * 2 ^ 52`. So
-- codes are ordered like the numbers, and rounding up past a power of two carries into the exponent.
structure Binary64 where
  negative : Bool
  code : Nat
deriving DecidableEq

namespace Binary64

def infiniteCode : Nat := 0x7ff0000000000000

def zero : Binary64 := ⟨false, 0⟩
def one : Binary64 := ⟨false, 0x3ff0000000000000⟩
def infinity (negative : Bool) : Binary64 := ⟨negative, infiniteCode⟩
def nan (negative : Bool) : Binary64 := ⟨negative, 0x7ff8000000000000⟩

def isNaN (x : Binary64) : Bool := infiniteCode < x.code

def isInfinite (x : Binary64) : Bool := x.code = infiniteCode

def bits (x : Binary64) : Nat := x.code + if x.negative then Nat.pow 2 63 else 0

def exponent (x : Binary64) : Nat := x.code / Nat.pow 2 52 - 1

def significand (x : Binary64) : Nat := x.code - x.exponent * Nat.pow 2 52

def nearestQuotient (numerator denominator : Nat) : Nat :=
  let quotient := numerator / denominator
  let twice := 2 * (numerator % denominator)
  if denominator < twice ∨ (twice = denominator ∧ quotient % 2 = 1) then quotient + 1 else quotient

def unitsInOne : Nat := 1074

def ofRatio (negative : Bool) (numerator denominator : Nat) : Binary64 :=
  let units := numerator * Nat.pow 2 unitsInOne
  let whole := units / denominator
  let exponent := if whole < Nat.pow 2 53 then 0 else whole.log2 - 52
  let significand := nearestQuotient units (denominator * Nat.pow 2 exponent)
  ⟨negative, min infiniteCode (significand + exponent * Nat.pow 2 52)⟩

def ofNat (n : Nat) : Binary64 := ofRatio false n 1

def ofInt (n : Int) : Binary64 := ofRatio (n < 0) n.natAbs 1

-- Scales far outside the range of the format are settled by the count of digits alone, so that
-- the arithmetic stays small.
def ofDecimal (negative : Bool) (digits : Nat) (scale : Int) : Binary64 :=
  if digits = 0 then ⟨negative, 0⟩
  else if 400 < scale then infinity negative
  else if scale + digits.log2 / 3 < -400 then ⟨negative, 0⟩
  else if 0 ≤ scale then ofRatio negative (digits * Nat.pow 10 scale.toNat) 1
  else ofRatio negative digits (Nat.pow 10 (-scale).toNat)

def floorShifted (x : Binary64) (shift : Nat) : Nat :=
  if unitsInOne ≤ x.exponent + shift then x.significand * Nat.pow 2 (x.exponent + shift - unitsInOne)
  else x.significand / Nat.pow 2 (unitsInOne - (x.exponent + shift))

def roundedMagnitude (x : Binary64) : Nat := (x.floorShifted 1 + 1) / 2

def chance (x : Binary64) : Nat :=
  if x.negative || x.isNaN then 0
  else if one.code ≤ x.code then Nat.pow 2 64
  else x.floorShifted 64

end Binary64

end TreeGrammar
