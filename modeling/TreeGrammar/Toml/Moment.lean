import TreeGrammar.Toml
import TreeGrammar.Text.Digit
set_option autoImplicit false

namespace TreeGrammar

namespace Toml

def isLeapYear (year : Nat) : Bool := year % 4 = 0 && (year % 100 ≠ 0 || year % 400 = 0)

def daysInMonth (year month : Nat) : Nat :=
  if month = 2 then (if isLeapYear year then 29 else 28)
  else if month ∈ [4, 6, 9, 11] then 30
  else 31

def plainDigits? (text : List Char) : Option Nat :=
  if text.all Char.isDigit then some (Text.digitsValue text) else none

def date? (text : List Char) : Option (List Char × List Char) :=
  match text with
  | a :: b :: c :: d :: '-' :: e :: f :: '-' :: g :: h :: rest => do
    let year ← plainDigits? [a, b, c, d]
    let month ← plainDigits? [e, f]
    let day ← plainDigits? [g, h]
    guard (1 ≤ month ∧ month ≤ 12 ∧ 1 ≤ day ∧ day ≤ daysInMonth year month)
    return ([a, b, c, d, '-', e, f, '-', g, h], rest)
  | _ => none

def fractionText (digits : List Char) : List Char :=
  match ((digits.take 9).reverse.dropWhile (· = '0')).reverse with
  | [] => []
  | kept => '.' :: kept

def time? (text : List Char) : Option (List Char × List Char) :=
  match text with
  | a :: b :: ':' :: c :: d :: ':' :: e :: f :: rest => do
    let hour ← plainDigits? [a, b]
    let minute ← plainDigits? [c, d]
    let second ← plainDigits? [e, f]
    guard (hour < 24 ∧ minute < 60 ∧ second ≤ 60)
    let clock := [a, b, ':', c, d, ':', e, f]
    match rest with
    | '.' :: rest' => do
      let places := rest'.takeWhile Char.isDigit
      guard (places ≠ [])
      return (clock ++ fractionText places, rest'.dropWhile Char.isDigit)
    | _ => return (clock, rest)
  | _ => none

def offset? (text : List Char) : Option (List Char) :=
  match text with
  | [] => some []
  | [c] => if c = 'Z' ∨ c = 'z' then some ['Z'] else none
  | [sign, a, b, ':', c, d] => do
    let hours ← plainDigits? [a, b]
    let minutes ← plainDigits? [c, d]
    guard ((sign = '+' ∨ sign = '-') ∧ hours < 24 ∧ minutes < 60)
    return (if hours = 0 ∧ minutes = 0 then '+' else sign) :: [a, b, ':', c, d]
  | _ => none

def clock? (text : List Char) : Option (List Char) := do
  let (time, rest) ← time? text
  return time ++ (← offset? rest)

def moment? (text : List Char) : Option (List Char) :=
  match date? text with
  | some (date, []) => some date
  | some (date, mark :: rest) => do
    guard (mark ∈ ['T', 't', ' '])
    return date ++ 'T' :: (← clock? rest)
  | none =>
    match time? text with
    | some (time, []) => some time
    | _ => none

def momentKey : String := "$__toml_private_datetime"

-- The moment that a table is whose first name is `momentKey`, given what is under that name.
def Value.writtenMoment? : Value → Option Value
  | .string text => (moment? text.toList).map fun found => .moment (String.ofList found)
  | _ => none

mutual
def Value.withMoments? : Value → Option Value
  | .table members =>
    match members with
    | [] => some (.table [])
    | (key, value) :: rest =>
      if key = momentKey then value.writtenMoment?
      else do
        let first ← value.withMoments?
        return .table ((key, first) :: (← membersWithMoments? rest))
  | .array items => do return .array (← itemsWithMoments? items)
  | .string text => some (.string text)
  | .integer value => some (.integer value)
  | .float value => some (.float value)
  | .boolean value => some (.boolean value)
  | .moment text => some (.moment text)

def itemsWithMoments? : List Value → Option (List Value)
  | [] => some []
  | item :: rest => do return (← item.withMoments?) :: (← itemsWithMoments? rest)

def membersWithMoments? : List (String × Value) → Option (List (String × Value))
  | [] => some []
  | (key, value) :: rest => do return (key, ← value.withMoments?) :: (← membersWithMoments? rest)
end

end Toml

end TreeGrammar
