set_option autoImplicit false

namespace TreeGrammar

structure Position where
  line : Nat
  column : Nat
deriving DecidableEq

instance : Inhabited Position := ⟨⟨1, 1⟩⟩

structure Location where
  source : String
  position : Position
deriving DecidableEq

namespace Location

def unnamedSource : String := "<unknown>"

def text (location : Location) : String :=
  location.source ++ ":" ++ toString location.position.line ++ ":" ++
    toString location.position.column

end Location

structure Cursor where
  offset : Nat
  line : Nat
  column : Nat
  lineStart : Nat
deriving DecidableEq

namespace Cursor

def start : Cursor := ⟨0, 1, 1, 0⟩

def position (cursor : Cursor) : Position := ⟨cursor.line, cursor.column⟩

def advance (cursor : Cursor) (c : Char) : Cursor :=
  let offset := cursor.offset + c.utf8Size
  if c = '\n' then ⟨offset, cursor.line + 1, 1, offset⟩
  else ⟨offset, cursor.line, cursor.column + 1, cursor.lineStart⟩

def past (cursor : Cursor) (text : List Char) : Cursor := text.foldl advance cursor

@[simp] theorem past_nil (cursor : Cursor) : cursor.past [] = cursor := rfl

@[simp] theorem past_cons (cursor : Cursor) (c : Char) (text : List Char) :
    cursor.past (c :: text) = (cursor.advance c).past text := rfl

theorem past_append (cursor : Cursor) (front back : List Char) :
    cursor.past (front ++ back) = (cursor.past front).past back := List.foldl_append

end Cursor

inductive Lookup where
  | hit (index : Nat)
  | miss (index : Nat)
deriving DecidableEq

namespace Lookup

def search (table : Array Nat) (key low high : Nat) (within : high ≤ table.size) : Lookup :=
  if window : low < high then
    let middle := low + (high - low) / 2
    have inside : middle < table.size := by omega
    if table[middle] = key then hit middle
    else if table[middle] < key then search table key (middle + 1) high within
    else search table key low middle (Nat.le_of_lt inside)
  else miss low
termination_by high - low

def last : Lookup → Nat
  | hit index => index
  | miss index => index - 1

theorem search_inside (table : Array Nat) (key low high : Nat) (within : high ≤ table.size)
    (filled : 0 < table.size) (ordered : low ≤ high) :
    (search table key low high within).last < table.size := by
  induction low, high, within using search.induct table key with
  | case1 low high within window middle inside same =>
    rw [search, dif_pos window, if_pos same]
    exact inside
  | case2 low high within window middle inside different less ih =>
    rw [search, dif_pos window, if_neg different, if_pos less]
    exact ih (by omega)
  | case3 low high within window middle inside different more ih =>
    rw [search, dif_pos window, if_neg different, if_neg more]
    exact ih (by omega)
  | case4 low high within closed =>
    rw [search, dif_neg closed, last]
    omega

end Lookup

structure LineTable where
  text : String
  starts : Array Nat
  filled : 0 < starts.size

namespace LineTable

def startsFrom (offset : Nat) : List Char → List Nat
  | [] => []
  | c :: rest =>
    if c = '\n' then (offset + 1) :: startsFrom (offset + c.utf8Size) rest
    else startsFrom (offset + c.utf8Size) rest

def ofText (text : String) : LineTable :=
  ⟨text, (0 :: startsFrom 0 text.toList).toArray, Nat.succ_pos _⟩

def lookup (table : LineTable) (offset : Nat) : Lookup :=
  .search table.starts offset 0 table.starts.size (Nat.le_refl _)

theorem lookup_inside (table : LineTable) (offset : Nat) :
    (table.lookup offset).last < table.starts.size :=
  Lookup.search_inside table.starts offset 0 _ _ table.filled (Nat.zero_le _)

def slice? (table : LineTable) (start stop : Nat) : Option String :=
  if start ≤ stop ∧ String.Pos.Raw.IsValid table.text ⟨start⟩ ∧
      String.Pos.Raw.IsValid table.text ⟨stop⟩ then
    some (String.Pos.Raw.extract table.text ⟨start⟩ ⟨stop⟩)
  else none

-- Inside a character the column counts bytes from the start of the line.
def position (table : LineTable) (offset : Nat) : Position :=
  let stop := min offset table.text.utf8ByteSize
  let line := (table.lookup stop).last
  have inside : line < table.starts.size := table.lookup_inside stop
  let start := table.starts[line]
  let column := ((table.slice? start stop).map String.length).getD (stop - start)
  ⟨line + 1, column + 1⟩

end LineTable

def Position.ofOffset (text : String) (offset : Nat) : Position :=
  (LineTable.ofText text).position offset

def Position.endOf (text : String) : Position := (Cursor.start.past text.toList).position

def lineCount (text : String) : Nat := text.toList.count '\n' + 1

end TreeGrammar
