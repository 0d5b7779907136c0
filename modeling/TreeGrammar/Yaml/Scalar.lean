import TreeGrammar.Binary64.Reading
import TreeGrammar.Text.Digit
set_option autoImplicit false

namespace TreeGrammar

namespace Yaml

def isSpace (c : Char) : Bool := c = ' '

def isBreak (c : Char) : Bool := c ∈ ['\n', '\r', '\x85', '\u2028', '\u2029']

def isGap (c : Char) : Bool := isSpace c || c = '\t' || c = '\x00' || isBreak c

def isPrintable (c : Char) : Bool :=
  c = '\n' || (' ' ≤ c && c ≤ '~') || ('\u00a0' ≤ c && c ≠ '\ufeff' && c ≠ '\ufffe' && c ≠ '\uffff')

def nullWords : List String := ["", "~", "null", "Null", "NULL"]

def truthWords : List String := ["true", "True", "TRUE", "false", "False", "FALSE"]

def specialNumbers : List String :=
  [".inf", ".Inf", ".INF", "+.inf", "+.Inf", "+.INF", "-.inf", "-.Inf", "-.INF", ".nan", ".NaN", ".NAN"]

def splitSign (text : List Char) : Bool × List Char :=
  match text with
  | '-' :: rest => (true, rest)
  | '+' :: rest => (false, rest)
  | _ => (false, text)

def numeral? (base : Nat) (digits : List Char) : Option Nat := do
  guard (digits ≠ [])
  digits.foldlM (fun value digit => do return value * base + (← Text.digitValue? base digit)) 0

def isMarkedInteger (text : List Char) : Bool :=
  let (negative, unsigned) := splitSign text
  let value? := match unsigned with
    | '0' :: 'x' :: digits => numeral? 16 digits
    | '0' :: 'o' :: digits => numeral? 8 digits
    | '0' :: 'b' :: digits => numeral? 2 digits
    | _ => none
  match value? with
  | some value => if negative then value ≤ Nat.pow 2 127 else value < Nat.pow 2 128
  | none => false

-- Integers of 128 bits are finite numbers too.
def isDecimal (text : List Char) : Bool :=
  match Binary64.ofText? text with
  | some value => !value.isInfinite && !value.isNaN
  | none => false

-- Whether text is made of digits with a needless zero in front. This is no number, but looks like one.
def isPadded (text : List Char) : Bool :=
  match (splitSign text).2 with
  | '0' :: digit :: rest => (digit :: rest).all Char.isDigit
  | _ => false

def looksLikeOther (text : String) : Bool :=
  text ∈ nullWords || text ∈ truthWords || text ∈ specialNumbers || isMarkedInteger text.toList ||
    isDecimal text.toList || isPadded text.toList

def hasPair (first second : Char → Bool) : List Char → Bool
  | a :: b :: rest => (first a && second b) || hasPair first second (b :: rest)
  | _ => false

def startsWithGap (text : List Char) : Bool := (text.head?.map isGap).getD true

def leadingMarks : List Char :=
  ['#', ',', '[', ']', '\x7b', '\x7d', '&', '*', '!', '|', '>', '\x27', '"', '%', '@', '\x60']

def startsWithMark (text : List Char) : Bool :=
  match text with
  | '-' :: '-' :: '-' :: _ | '.' :: '.' :: '.' :: _ => true
  | c :: rest => c ∈ leadingMarks || ((c = '?' || c = '-') && startsWithGap rest)
  | [] => false

def hasMark : (afterGap : Bool) → List Char → Bool
  | _, [] => false
  | afterGap, c :: rest =>
    (c = ':' && startsWithGap rest) || (c = '#' && afterGap) || hasMark (isGap c) rest

def needsEscapes (text : List Char) : Bool := !text.all isPrintable || hasPair isSpace isBreak text

def edges (text : List Char) : List Char := text.head?.toList ++ text.getLast?.toList

def fitsPlain (text : List Char) : Bool :=
  !(needsEscapes text || text.any isBreak || (edges text).any isSpace || startsWithMark text ||
    hasMark true text)

def fitsSingleQuotes (text : List Char) : Bool := !(needsEscapes text || hasPair isBreak isSpace text)

def fitsBlock (text : List Char) : Bool := !(needsEscapes text || text.getLast? = some ' ')

inductive Style where
  | plain
  | singleQuoted
  | doubleQuoted
  | literal
deriving DecidableEq

def style (text : String) : Style :=
  let characters := text.toList
  if '\n' ∈ characters then
    if fitsBlock characters then .literal else .doubleQuoted
  else if !looksLikeOther text && fitsPlain characters then .plain
  else if fitsSingleQuotes characters then .singleQuoted
  else .doubleQuoted

def setIn (margin : List Char) : (fresh : Bool) → List Char → List Char
  | _, [] => []
  | fresh, c :: rest =>
    if isBreak c then c :: setIn margin true rest
    else (if fresh then margin else []) ++ c :: setIn margin false rest

def singleQuoted (margin text : List Char) : List Char :=
  let doubled := text.flatMap fun c => if c = '\x27' then [c, c] else [c]
  '\x27' :: setIn margin false (doubled ++ ['\x27'])

def escapeLetters : List (Char × Char) :=
  [('"', '"'), ('\\', '\\'), ('\x00', '0'), ('\x07', 'a'), ('\x08', 'b'), ('\t', 't'), ('\n', 'n'),
    ('\x0b', 'v'), ('\x0c', 'f'), ('\r', 'r'), ('\x1b', 'e'), ('\x85', 'N'), ('\u2028', 'L'),
    ('\u2029', 'P')]

def hexDigits (count value : Nat) : List Char :=
  let digits := (Nat.toDigits 16 value).map Char.toUpper
  List.replicate (count - digits.length) '0' ++ digits

def escape (c : Char) : List Char :=
  match escapeLetters.lookup c with
  | some letter => ['\\', letter]
  | none =>
    if isPrintable c then [c]
    else if c.toNat < 0x100 then '\\' :: 'x' :: hexDigits 2 c.toNat
    else '\\' :: 'u' :: hexDigits 4 c.toNat

def doubleQuoted (text : List Char) : List Char := '"' :: text.flatMap escape ++ ['"']

def marginHint (text : List Char) : List Char :=
  if (text.head?.map fun c => isSpace c || isBreak c).getD false then ['2'] else []

def endHint (text : List Char) : List Char :=
  match text.reverse with
  | [] => ['-']
  | [c] => if isBreak c then ['+'] else ['-']
  | c :: d :: _ => if !isBreak c then ['-'] else if isBreak d then ['+'] else []

def literal (margin text : List Char) : List Char :=
  '|' :: marginHint text ++ endHint text ++ '\n' :: setIn margin true text

def scalar (margin text : String) : String :=
  let written := match style text with
    | .plain => text.toList
    | .singleQuoted => singleQuoted margin.toList text.toList
    | .doubleQuoted => doubleQuoted text.toList
    | .literal => literal margin.toList text.toList
  String.ofList (if (written.getLast?.map isBreak).getD false then written else written ++ ['\n'])

end Yaml

end TreeGrammar
