import TreeGrammar.Binary64
set_option autoImplicit false

namespace TreeGrammar

namespace Binary64

structure Decimal where
  digits : List Char
  point : Int

structure Interval where
  low : Nat
  value : Nat
  high : Nat
  closed : Bool

-- The lower half is shorter just above a power of two.
def interval (x : Binary64) : Interval :=
  let quarters := 4 * x.significand
  let below := if x.significand = Nat.pow 2 52 ∧ 0 < x.exponent then 1 else 2
  ⟨quarters - below, quarters, quarters + 2, x.significand % 2 = 0⟩

def Interval.contains (range : Interval) (quarters denominator : Nat) : Bool :=
  if range.closed then
    range.low * denominator ≤ quarters && quarters ≤ range.high * denominator
  else range.low * denominator < quarters && quarters < range.high * denominator

def distance (a b : Nat) : Nat := (a - b) + (b - a)

inductive Halfway where
  | upper
  | even
deriving DecidableEq

def onGrid? (x : Binary64) (halfway : Halfway) (scale : Int) : Option Nat :=
  let range := x.interval
  -- a quarter of the last place is `2 ^ (exponent - unitsInOne - 2)`
  let quarterNumerator := Nat.pow 2 x.exponent
  let quarterDenominator := Nat.pow 2 (unitsInOne + 2)
  let stepNumerator := Nat.pow 10 scale.toNat
  let stepDenominator := Nat.pow 10 (-scale).toNat
  let step := stepNumerator * quarterDenominator
  let common := stepDenominator * quarterNumerator
  let lower := range.value * common / step
  let candidates := [lower, lower + 1].filter fun n => n ≠ 0 && range.contains (n * step) common
  match candidates with
  | [] => none
  | [n] => some n
  | n :: m :: _ =>
    let target := range.value * common
    match compare (distance (n * step) target) (distance (m * step) target) with
    | .lt => some n
    | .gt => some m
    | .eq => if halfway = .even ∧ n % 2 = 0 then some n else some m

def leading (x : Binary64) : Int :=
  let scaled := x.significand * Nat.pow 2 x.exponent * Nat.pow 10 400 / Nat.pow 2 unitsInOne
  (toString scaled).length - 1 - 400

def shortestFrom (x : Binary64) (halfway : Halfway) (leading : Int) : Nat → Nat → Decimal
  | 0, _ => ⟨['0'], 0⟩
  | tries + 1, count =>
    match x.onGrid? halfway (leading - count) with
    | some n =>
      let digits := (toString n).toList
      let trimmed := (digits.reverse.dropWhile (· = '0')).reverse
      ⟨trimmed, leading - count + digits.length⟩
    | none => shortestFrom x halfway leading tries (count + 1)

-- Seventeen digits always suffice.
def shortest (x : Binary64) (halfway : Halfway) : Decimal := shortestFrom x halfway x.leading 18 0

def zeros (count : Int) : List Char := List.replicate count.toNat '0'

def Decimal.positional (decimal : Decimal) (whole : List Char) : List Char :=
  let count : Int := decimal.digits.length
  if decimal.point ≤ 0 then '0' :: '.' :: zeros (-decimal.point) ++ decimal.digits
  else if count ≤ decimal.point then
    decimal.digits ++ zeros (decimal.point - count) ++ whole
  else
    decimal.digits.take decimal.point.toNat ++ '.' :: decimal.digits.drop decimal.point.toNat

def Decimal.scientific (decimal : Decimal) : List Char :=
  let mantissa := match decimal.digits with
    | [] => []
    | [digit] => [digit]
    | digit :: rest => digit :: '.' :: rest
  let exponent := decimal.point - 1
  mantissa ++ 'e' :: (if exponent < 0 then '-' else '+') :: (toString exponent.natAbs).toList

def signed (x : Binary64) (text : List Char) : String :=
  String.ofList (if x.negative then '-' :: text else text)

def plainText (x : Binary64) : String :=
  if x.isNaN then "NaN"
  else if x.isInfinite then x.signed ['i', 'n', 'f']
  else if x.code = 0 then x.signed ['0']
  else x.signed ((x.shortest .upper).positional [])

def compactText (x : Binary64) : String :=
  if x.code = 0 then x.signed ['0', '.', '0']
  else
    let decimal := x.shortest .even
    if -5 < decimal.point ∧ decimal.point ≤ 16 then x.signed (decimal.positional ['.', '0'])
    else x.signed decimal.scientific

end Binary64

end TreeGrammar
