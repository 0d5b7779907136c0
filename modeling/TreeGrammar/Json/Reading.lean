import TreeGrammar.Json.Number
set_option autoImplicit false

namespace TreeGrammar

namespace Json

-- An array or object that is not `closed` has a fault where its next item or its end should be. A
-- string or key is `none` if its escapes do not spell out text, a key also where no string stands.
inductive Reading where
  | null
  | bool (value : Bool)
  | number (written : NumberText)
  | string (text : Option String)
  | array (items : List Reading) (closed : Bool)
  | object (members : List (Option String × Reading)) (closed : Bool)
  | fault

namespace Reading

mutual
def sound : Reading → Bool
  | .fault => false
  | .array items closed => soundItems items && closed
  | .object members closed => soundMembers members && closed
  | _ => true

def soundItems : List Reading → Bool
  | [] => true
  | item :: rest => item.sound && soundItems rest

def soundMembers : List (Option String × Reading) → Bool
  | [] => true
  | (_, value) :: rest => value.sound && soundMembers rest
end

end Reading

def isBlank (c : Char) : Bool := c = ' ' || c = '\n' || c = '\t' || c = '\r'

def skipBlanks (text : List Char) : List Char := text.dropWhile isBlank

def codeUnit? (a b c d : Char) : Option Nat := do
  return (((← Text.hexValue? a) * 16 + (← Text.hexValue? b)) * 16 + (← Text.hexValue? c)) * 16 + (← Text.hexValue? d)

def ofEscape? (c : Char) : Option Char :=
  if c = '"' ∨ c = '\\' ∨ c = '/' then some c
  else if c = 'b' then some '\x08'
  else if c = 'f' then some '\x0c'
  else if c = 'n' then some '\n'
  else if c = 'r' then some '\r'
  else if c = 't' then some '\t'
  else none

inductive Piece where
  | plain (c : Char)
  | unit (value : Nat)
deriving DecidableEq

def pieces? : List Char → Option (List Piece × List Char)
  | [] => none
  | '"' :: rest => some ([], rest)
  | '\\' :: 'u' :: a :: b :: c :: d :: rest => do
    let value ← codeUnit? a b c d
    let (more, after) ← pieces? rest
    return (.unit value :: more, after)
  | '\\' :: c :: rest => do
    let plain ← ofEscape? c
    let (more, after) ← pieces? rest
    return (.plain plain :: more, after)
  | c :: rest => do
    guard (32 ≤ c.toNat ∧ c ≠ '\\')
    let (more, after) ← pieces? rest
    return (.plain c :: more, after)

def spell? : List Piece → Option (List Char)
  | [] => some []
  | .plain c :: rest => (c :: ·) <$> spell? rest
  | .unit value :: rest =>
    if value < 0xd800 ∨ 0xe000 ≤ value then (Char.ofNat value :: ·) <$> spell? rest
    else
      match rest with
      | .unit low :: rest' =>
        if value < 0xdc00 ∧ 0xdc00 ≤ low ∧ low < 0xe000 then
          (Char.ofNat (0x10000 + (value - 0xd800) * 0x400 + (low - 0xdc00)) :: ·) <$> spell? rest'
        else none
      | _ => none

def string? (text : List Char) : Option (Option String × List Char) :=
  (pieces? text).map fun (found, after) => ((spell? found).map String.ofList, after)

def digits (text : List Char) : List Char × List Char :=
  (text.takeWhile Char.isDigit, text.dropWhile Char.isDigit)

def exponent? (text : List Char) : Option (Option (Bool × List Char) × List Char) :=
  match text with
  | c :: rest =>
    if c = 'e' ∨ c = 'E' then
      let (minus, unsigned) := match rest with
        | '-' :: rest' => (true, rest')
        | '+' :: rest' => (false, rest')
        | _ => (false, rest)
      match digits unsigned with
      | ([], _) => none
      | (found, after) => some (some (minus, found), after)
    else some (none, text)
  | [] => some (none, [])

def number? (negative : Bool) (text : List Char) : Option (NumberText × List Char) :=
  match digits text with
  | ([], _) => none
  | ('0' :: _ :: _, _) => none
  | (whole, '.' :: rest) =>
    match digits rest with
    | ([], _) => none
    | (fraction, rest') => do
      let (exponent, after) ← exponent? rest'
      return (⟨negative, whole, fraction, exponent⟩, after)
  | (whole, rest) => do
    let (exponent, after) ← exponent? rest
    return (⟨negative, whole, [], exponent⟩, after)

def key? (text : List Char) : Option (Option String × List Char) :=
  match text with
  | '"' :: rest => string? rest
  | _ => none

def word (rest : List Char) (spelling : String) (value : Reading) : Reading × Option (List Char) :=
  if spelling.toList.isPrefixOf rest then (value, some (rest.drop spelling.length))
  else (.fault, none)

mutual
def readValue : Nat → List Char → Reading × Option (List Char)
  | 0, _ => (.fault, none)
  | fuel + 1, text =>
    match skipBlanks text with
    | [] => (.fault, none)
    | c :: rest =>
      if c = 'n' then word rest "ull" .null
      else if c = 't' then word rest "rue" (.bool true)
      else if c = 'f' then word rest "alse" (.bool false)
      else if c = '"' then
        match string? rest with
        | some (text, after) => (.string text, some after)
        | none => (.fault, none)
      else if c = '[' then
        let (items, closed, after) := readItems fuel true rest
        (.array items closed, after)
      else if c = '\x7b' then
        let (members, closed, after) := readMembers fuel true rest
        (.object members closed, after)
      else
        match (if c = '-' then number? true rest else number? false (c :: rest)) with
        | some (written, after) => (.number written, some after)
        | none => (.fault, none)

def readItems : Nat → Bool → List Char → List Reading × Bool × Option (List Char)
  | 0, _, _ => ([], false, none)
  | fuel + 1, first, text =>
    match skipBlanks text with
    | [] => ([], false, none)
    | c :: rest =>
      if c = ']' then ([], true, some rest)
      else if !first && c ≠ ',' then ([], false, none)
      else
        let next := skipBlanks (if first then c :: rest else rest)
        if !first && next.head? = some ']' then ([], false, none)
        else
          match readValue fuel next with
          | (item, none) => ([item], false, none)
          | (item, some after) =>
            let (more, closed, end') := readItems fuel false after
            (item :: more, closed, end')

def readMembers : Nat → Bool → List Char → List (Option String × Reading) × Bool × Option (List Char)
  | 0, _, _ => ([], false, none)
  | fuel + 1, first, text =>
    match skipBlanks text with
    | [] => ([], false, none)
    | c :: rest =>
      if c = '\x7d' then ([], true, some rest)
      else if !first && c ≠ ',' then ([], false, none)
      else
        let next := skipBlanks (if first then c :: rest else rest)
        if !first && next.head? = some '\x7d' then ([], false, none)
        else
          match key? next with
          | none => ([(none, .fault)], false, none)
          | some (key, after) =>
            match skipBlanks after with
            | ':' :: rest' =>
              match readValue fuel rest' with
              | (value, none) => ([(key, value)], false, none)
              | (value, some after') =>
                let (more, closed, end') := readMembers fuel false after'
                ((key, value) :: more, closed, end')
            | _ => ([(key, .fault)], false, none)
end

def read (text : List Char) : Reading × Bool :=
  match readValue (2 * text.length + 2) text with
  | (value, none) => (value, false)
  | (value, some rest) => (value, (skipBlanks rest).isEmpty)

end Json

end TreeGrammar
