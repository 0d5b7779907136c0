import TreeGrammar.Toml.Quoted
set_option autoImplicit false

namespace TreeGrammar

namespace Toml

-- A key may get its value only once, and a table may be opened only once. Tables that were only
-- implied may still be opened, which makes them the last ones of the table around them.
inductive Origin where
  | section
  | implied
  | dotted
deriving DecidableEq

-- The last table of a list of sections is the open one.
inductive Item where
  | value (value : Value)
  | table (origin : Origin) (members : List (String × Item))
  | tables (earlier : List (List (String × Item))) (last : List (String × Item))

abbrev Members := List (String × Item)

namespace Members

def alter? (key : String) (change : Option Item → Option Item) : Members → Option Members
  | [] => do return [(key, ← change none)]
  | (name, item) :: rest =>
    if name = key then do return (name, ← change (some item)) :: rest
    else do return (name, item) :: (← alter? key change rest)

def inSection? (change : Members → Option Members) : List String → Members → Option Members
  | [], members => change members
  | key :: path, members =>
    members.alter? key fun
      | none => do return .table .implied (← inSection? change path [])
      | some (.value _) => none
      | some (.table origin inner) => do return .table origin (← inSection? change path inner)
      | some (.tables earlier last) => do return .tables earlier (← inSection? change path last)

def openTable? (key : String) (members : Members) : Option Members := do
  let inner ←
    match members.lookup key with
    | none => some []
    | some (.table .implied inner) => some inner
    | some _ => none
  return members.filter (·.1 ≠ key) ++ [(key, .table .section inner)]

def openNext? (key : String) (members : Members) : Option Members :=
  members.alter? key fun
    | none => some (.tables [] [])
    | some (.tables earlier last) => some (.tables (earlier ++ [last]) [])
    | some _ => none

-- Only a table made by dotted keys takes a value from another dotted key.
def assign? (entered : Option Origin) (value : Item) : List String → Members → Option Members
  | [], _ => none
  | [key], members => do
    guard (entered = none ∨ entered = some .dotted)
    members.alter? key fun
      | none => some value
      | some _ => none
  | key :: path, members =>
    members.alter? key fun
      | none => do return .table .dotted (← assign? (some .dotted) value path [])
      | some (.table .section _) => none
      | some (.table origin inner) => do return .table origin (← assign? (some origin) value path inner)
      | some (.tables earlier last) => do
        return .tables earlier (← assign? (some .section) value path last)
      | some (.value _) => none

end Members

mutual
def Item.toValue : Item → Value
  | .value value => value
  | .table _ members => .table (membersValues members)
  | .tables earlier last => .array (tablesValues earlier ++ [.table (membersValues last)])

def membersValues : List (String × Item) → List (String × Value)
  | [] => []
  | (key, item) :: rest => (key, item.toValue) :: membersValues rest

def tablesValues : List (List (String × Item)) → List Value
  | [] => []
  | members :: rest => .table (membersValues members) :: tablesValues rest
end

def skipSpaces (text : List Char) : List Char := text.dropWhile isSpace

def isBareKey (c : Char) : Bool := c.isAlphanum || c = '-' || c = '_'

def simpleKey? (text : List Char) : Option (String × List Char) :=
  match text with
  | '"' :: rest => (basic? rest).map fun (key, after) => (String.ofList key, after)
  | '\x27' :: rest => (literal? rest).map fun (key, after) => (String.ofList key, after)
  | _ =>
    match text.takeWhile isBareKey with
    | [] => none
    | key => some (String.ofList key, text.dropWhile isBareKey)

def key? : (parts : Nat) → List Char → Option (List String × List Char)
  | 0, _ => none
  | parts + 1, text => do
    let (first, rest) ← simpleKey? (skipSpaces text)
    match skipSpaces rest with
    | '.' :: more => do
      let (path, after) ← key? parts more
      return (first :: path, after)
    | after => return ([first], after)

def skipComment (text : List Char) : List Char :=
  match text with
  | '#' :: rest => rest.dropWhile isVisible
  | _ => text

def skipLines : (lines : Nat) → List Char → List Char
  | 0, text => text
  | lines + 1, text =>
    match skipSpaces text with
    | '\n' :: rest => skipLines lines rest
    | '\r' :: '\n' :: rest => skipLines lines rest
    | '#' :: rest => skipLines lines (rest.dropWhile isVisible)
    | rest => rest

def endsRun (c : Char) : Bool := c ∈ [' ', '\t', '\n', '\r', ',', ']', '\x7d', '#']

def run? (text : List Char) : Option (Value × List Char) :=
  let run := text.takeWhile (!endsRun ·)
  let after := text.dropWhile (!endsRun ·)
  let alone := (scalar? run).map (·, after)
  match date? run, after with
  | some (_, []), ' ' :: more =>
    if (more.head?.map Char.isDigit).getD false then
      (scalar? (run ++ ' ' :: more.takeWhile (!endsRun ·))).map (·, more.dropWhile (!endsRun ·))
    else alone
  | _, _ => alone

-- The greatest number of parts of a key, and of arrays and inline tables inside each other.
def nestingLimit : Nat := 79

mutual
-- `steps` bounds the work, `nesting` what may still be opened.
def value? : (steps nesting : Nat) → List Char → Option (Value × List Char)
  | 0, _, _ => none
  | steps + 1, nesting, text =>
    match text with
    | [] => none
    | c :: rest =>
      if c = '"' ∨ c = '\x27' then
        (quoted? text).map fun (found, after) => (.string (String.ofList found), after)
      else if c = '[' then do
        guard (0 < nesting)
        let (items, after) ← items? steps (nesting - 1) rest
        return (.array items, after)
      else if c = '\x7b' then do
        guard (0 < nesting)
        match skipSpaces rest with
        | '\x7d' :: after => return (.table [], after)
        | inner => do
          let (members, after) ← inline? steps (nesting - 1) [] inner
          return (.table (membersValues members), after)
      else run? text

def items? : (steps nesting : Nat) → List Char → Option (List Value × List Char)
  | 0, _, _ => none
  | steps + 1, nesting, text =>
    match skipLines (text.length + 1) text with
    | ']' :: after => some ([], after)
    | inner => do
      let (first, rest) ← value? steps nesting inner
      match skipLines (rest.length + 1) rest with
      | ']' :: after => return ([first], after)
      | ',' :: more => do
        let (others, after) ← items? steps nesting more
        return (first :: others, after)
      | _ => none

def inline? : (steps nesting : Nat) → Members → List Char → Option (Members × List Char)
  | 0, _, _, _ => none
  | steps + 1, nesting, known, text => do
    let (path, rest) ← key? nestingLimit text
    match rest with
    | '=' :: rest' => do
      let (found, rest') ← value? steps nesting (skipSpaces rest')
      let members ← known.assign? none (.value found) path
      match skipSpaces rest' with
      | '\x7d' :: after => return (members, after)
      | ',' :: more => inline? steps nesting members more
      | _ => none
    | _ => none
end

structure Progress where
  members : Members
  path : List String

def nextLine? (text : List Char) : Option (List Char) :=
  match skipComment (skipSpaces text) with
  | [] => some []
  | '\n' :: rest => some rest
  | '\r' :: '\n' :: rest => some rest
  | _ => none

def Progress.open? (progress : Progress) (inList : Bool) (path : List String) : Option Progress := do
  let key ← path.getLast?
  let change := if inList then Members.openNext? key else Members.openTable? key
  return ⟨← progress.members.inSection? change path.dropLast, path⟩

def line? (progress : Progress) (text : List Char) : Option (Progress × List Char) :=
  match text with
  | '[' :: '[' :: rest => do
    match ← key? nestingLimit rest with
    | (path, ']' :: ']' :: after) => return (← progress.open? true path, after)
    | _ => none
  | '[' :: rest => do
    match ← key? nestingLimit rest with
    | (path, ']' :: after) => return (← progress.open? false path, after)
    | _ => none
  | _ => do
    match ← key? nestingLimit text with
    | (path, '=' :: rest) => do
      let (found, after) ← value? (2 * rest.length + 2) nestingLimit (skipSpaces rest)
      let members ← progress.members.inSection?
        (·.assign? none (.value found) path) progress.path
      return ({ progress with members }, after)
    | _ => none

def lines? : (lines : Nat) → Progress → List Char → Option Progress
  | 0, _, _ => none
  | lines + 1, progress, text =>
    match skipLines (text.length + 1) text with
    | [] => some progress
    | rest => do
      let (next, after) ← line? progress rest
      lines? lines next (← nextLine? after)

def document? (text : String) : Option (List (String × Value)) := do
  let characters := match text.toList with
    | '\ufeff' :: rest => rest
    | all => all
  let progress ← lines? (characters.length + 1) ⟨[], []⟩ characters
  match ← (Value.table (membersValues progress.members)).withMoments? with
  | .table members => some members
  | _ => none

end Toml

end TreeGrammar
