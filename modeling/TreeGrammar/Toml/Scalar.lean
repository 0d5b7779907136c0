import TreeGrammar.Toml.Moment
set_option autoImplicit false

namespace TreeGrammar

namespace Toml

-- `first` is set where an underscore may not stand.
def digitsFrom? (base : Nat) (first : Bool) (value : Nat) : List Char → Option Nat
  | [] => if first then none else some value
  | c :: rest =>
    match Text.digitValue? base c with
    | some digit => digitsFrom? base false (value * base + digit) rest
    | none => if c = '_' ∧ !first then digitsFrom? base true value rest else none

def digits? (base : Nat) (text : List Char) : Option Nat := digitsFrom? base true 0 text

def wholeDigits? (text : List Char) : Option Nat :=
  match text with
  | '0' :: _ :: _ => none
  | _ => digits? 10 text

def splitSign (text : List Char) : Bool × List Char :=
  match text with
  | '-' :: rest => (true, rest)
  | '+' :: rest => (false, rest)
  | _ => (false, text)

def inWordRange (value : Int) : Bool := -Nat.pow 2 63 ≤ value && value < Nat.pow 2 63

def integer? (text : List Char) : Option Int := do
  let value : Int ←
    match text with
    | '0' :: 'x' :: rest => (digits? 16 rest).map Int.ofNat
    | '0' :: 'o' :: rest => (digits? 8 rest).map Int.ofNat
    | '0' :: 'b' :: rest => (digits? 2 rest).map Int.ofNat
    | _ =>
      let (negative, rest) := splitSign text
      (wholeDigits? rest).map fun value => if negative then -(value : Int) else value
  if inWordRange value then some value else none

def isExponentMark (c : Char) : Bool := c = 'e' || c = 'E'

def exponent? (text : List Char) : Option Int := do
  let (negative, rest) := splitSign text
  let value ← digits? 10 rest
  return if negative then -(value : Int) else value

def decimal? (text : List Char) : Option Binary64 := do
  let (negative, unsigned) := splitSign text
  let mantissa := unsigned.takeWhile (!isExponentMark ·)
  let power ←
    match unsigned.dropWhile (!isExponentMark ·) with
    | [] => some 0
    | _ :: rest => exponent? rest
  let whole := mantissa.takeWhile (· ≠ '.')
  let wholeValue ← wholeDigits? whole
  let value ←
    match mantissa.dropWhile (· ≠ '.') with
    | [] =>
      if mantissa.length = unsigned.length then none
      else some (Binary64.ofDecimal negative wholeValue power)
    | _ :: fraction => do
      discard (digits? 10 fraction)
      let places := fraction.filter (· ≠ '_')
      let digits ← digitsFrom? 10 false wholeValue places
      some (Binary64.ofDecimal negative digits (power - places.length))
  if value = .infinity false then none else some value

def special? (text : List Char) : Option Binary64 :=
  let (negative, unsigned) := splitSign text
  if unsigned = ['i', 'n', 'f'] then some (.infinity negative)
  else if unsigned = ['n', 'a', 'n'] then some (.nan negative)
  else none

def scalar? (text : List Char) : Option Value :=
  if text = "true".toList then some (.boolean true)
  else if text = "false".toList then some (.boolean false)
  else
    (integer? text).map Value.integer
      <|> (decimal? text).map Value.float
      <|> (special? text).map Value.float
      <|> (moment? text).map fun found => .moment (String.ofList found)

end Toml

end TreeGrammar
