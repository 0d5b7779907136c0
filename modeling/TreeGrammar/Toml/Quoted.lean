import TreeGrammar.Toml.Scalar
set_option autoImplicit false

namespace TreeGrammar

namespace Toml

def isVisible (c : Char) : Bool := c = '\t' || (' ' ≤ c && c ≠ '\x7f')

def isSpace (c : Char) : Bool := c = ' ' || c = '\t'

def scalarOf? (digits : List Char) : Option Char := do
  let value ← digitsFrom? 16 true 0 (digits.filter (· ≠ '_'))
  guard ('_' ∉ digits ∧ value.isValidChar)
  return Char.ofNat value

def ofEscape? (c : Char) : Option Char :=
  if c = '"' ∨ c = '\\' then some c
  else if c = 'b' then some '\x08'
  else if c = 't' then some '\t'
  else if c = 'n' then some '\n'
  else if c = 'f' then some '\x0c'
  else if c = 'r' then some '\r'
  else none

abbrev Contents := List Char × List Char

def Contents.cons (c : Char) (contents : Contents) : Contents := (c :: contents.1, contents.2)

def basic? : List Char → Option Contents
  | [] => none
  | '"' :: rest => some ([], rest)
  | '\\' :: 'u' :: a :: b :: c :: d :: rest => do
    let character ← scalarOf? [a, b, c, d]
    return (← basic? rest).cons character
  | '\\' :: 'U' :: a :: b :: c :: d :: e :: f :: g :: h :: rest => do
    let character ← scalarOf? [a, b, c, d, e, f, g, h]
    return (← basic? rest).cons character
  | '\\' :: c :: rest => do
    let character ← ofEscape? c
    return (← basic? rest).cons character
  | c :: rest => do
    guard (isVisible c)
    return (← basic? rest).cons c

def literal? : List Char → Option Contents
  | [] => none
  | '\x27' :: rest => some ([], rest)
  | c :: rest => do
    guard (isVisible c)
    return (← literal? rest).cons c

def atLineEnd (text : List Char) : Bool :=
  match text.dropWhile isSpace with
  | '\n' :: _ => true
  | '\r' :: '\n' :: _ => true
  | _ => false

def skipFirstBreak (text : List Char) : List Char :=
  match text with
  | '\n' :: rest => rest
  | '\r' :: '\n' :: rest => rest
  | _ => text

-- A string of several lines with escapes. A backslash at the end of a line is dropped with all the
-- blanks after it; `dropping` is set inside such blanks. Up to two quotes may precede the closing ones.
def longBasic? (dropping : Bool) : List Char → Option Contents
  | [] => none
  | '"' :: '"' :: '"' :: '"' :: '"' :: rest => some (['"', '"'], rest)
  | '"' :: '"' :: '"' :: '"' :: rest => some (['"'], rest)
  | '"' :: '"' :: '"' :: rest => some ([], rest)
  | '\\' :: 'u' :: a :: b :: c :: d :: rest => do
    let character ← scalarOf? [a, b, c, d]
    return (← longBasic? false rest).cons character
  | '\\' :: 'U' :: a :: b :: c :: d :: e :: f :: g :: h :: rest => do
    let character ← scalarOf? [a, b, c, d, e, f, g, h]
    return (← longBasic? false rest).cons character
  | '\r' :: '\n' :: rest =>
    if dropping then longBasic? true rest
    else do return (← longBasic? false rest).cons '\n'
  | '\\' :: c :: rest =>
    if atLineEnd (c :: rest) then longBasic? true (c :: rest)
    else do
      let character ← ofEscape? c
      return (← longBasic? false rest).cons character
  | c :: rest =>
    if c = '\n' ∨ isSpace c then
      if dropping then longBasic? true rest
      else do return (← longBasic? false rest).cons c
    else do
      guard (isVisible c)
      return (← longBasic? false rest).cons c

def longLiteral? : List Char → Option Contents
  | [] => none
  | '\x27' :: '\x27' :: '\x27' :: '\x27' :: '\x27' :: rest => some (['\x27', '\x27'], rest)
  | '\x27' :: '\x27' :: '\x27' :: '\x27' :: rest => some (['\x27'], rest)
  | '\x27' :: '\x27' :: '\x27' :: rest => some ([], rest)
  | '\r' :: '\n' :: rest => do return (← longLiteral? rest).cons '\n'
  | c :: rest => do
    guard (isVisible c ∨ c = '\n')
    return (← longLiteral? rest).cons c

def quoted? (text : List Char) : Option Contents :=
  match text with
  | '"' :: '"' :: '"' :: rest => longBasic? false (skipFirstBreak rest)
  | '\x27' :: '\x27' :: '\x27' :: rest => longLiteral? (skipFirstBreak rest)
  | '"' :: rest => basic? rest
  | '\x27' :: rest => literal? rest
  | _ => none

end Toml

end TreeGrammar
