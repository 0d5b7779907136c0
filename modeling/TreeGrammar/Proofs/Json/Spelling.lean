import TreeGrammar.Proofs.Json.Scalars
set_option autoImplicit false

namespace TreeGrammar

namespace Json

mutual

def reading : Json → Reading
  | .null => .null
  | .bool value => .bool value
  | .number value => .number ⟨false, Nat.toDigits 10 value, [], none⟩
  | .string text => .string (some text)
  | .array items => .array (readingItems items) true
  | .object members => .object (readingMembers members) true

def readingItems : List Json → List Reading
  | [] => []
  | item :: rest => item.reading :: readingItems rest

def readingMembers : List (String × Json) → List (Option String × Reading)
  | [] => []
  | (name, value) :: rest => (some name, value.reading) :: readingMembers rest

end

theorem reading_items (items : List Json) : readingItems items = items.map reading := by
  induction items with
  | nil => rfl
  | cons item rest ih => rw [readingItems, ih, List.map_cons]

mutual

theorem reading_unique (first second : Json) (same : first.reading = second.reading) :
    first = second := by
  cases first with
  | null =>
    cases second with
    | null => rfl
    | _ => cases same
  | bool value =>
    cases second with
    | bool other =>
      cases same
      rfl
    | _ => cases same
  | number value =>
    cases second with
    | number other =>
      rw [digits_unique value other (congrArg NumberText.whole (Reading.number.inj same))]
    | _ => cases same
  | string text =>
    cases second with
    | string other =>
      cases same
      rfl
    | _ => cases same
  | array items =>
    cases second with
    | array others => rw [readings_unique items others (Reading.array.inj same).1]
    | _ => cases same
  | object members =>
    cases second with
    | object others => rw [members_unique members others (Reading.object.inj same).1]
    | _ => cases same

theorem readings_unique (first second : List Json) (same : readingItems first = readingItems second) :
    first = second := by
  cases first with
  | nil =>
    cases second with
    | nil => rfl
    | cons _ _ => cases same
  | cons item rest =>
    cases second with
    | nil => cases same
    | cons other more =>
      obtain ⟨here, later⟩ := List.cons.inj same
      rw [reading_unique item other here, readings_unique rest more later]

theorem members_unique (first second : List (String × Json))
    (same : readingMembers first = readingMembers second) : first = second := by
  cases first with
  | nil =>
    cases second with
    | nil => rfl
    | cons _ _ => cases same
  | cons member rest =>
    obtain ⟨name, value⟩ := member
    cases second with
    | nil => cases same
    | cons next more =>
      obtain ⟨other, content⟩ := next
      obtain ⟨here, later⟩ := List.cons.inj same
      obtain ⟨named, valued⟩ := Prod.mk.inj here
      rw [Option.some.inj named, reading_unique value content valued, members_unique rest more later]

end

def Blank (text : List Char) : Prop := ∀ c ∈ text, isBlank c = true

theorem blank_single (c : Char) (blank : isBlank c = true) : Blank [c] :=
  List.forall_mem_singleton.2 blank

def separator (first : Bool) : List Char := if first then [] else [',']

mutual

inductive Spells : Json → List Char → Prop where
  | null : Spells .null ['n', 'u', 'l', 'l']
  | yes : Spells (.bool true) ['t', 'r', 'u', 'e']
  | no : Spells (.bool false) ['f', 'a', 'l', 's', 'e']
  | number (value : Nat) : Spells (.number value) (Nat.toDigits 10 value)
  | string (text : String) : Spells (.string text) ('"' :: (text.toList.flatMap escape ++ ['"']))
  | array (items : List Json) (inside : List Char) (spelled : SpellsItems true items inside) :
      Spells (.array items) ('[' :: (inside ++ [']']))
  | object (members : List (String × Json)) (inside : List Char)
      (spelled : SpellsMembers true members inside) :
      Spells (.object members) ('\x7b' :: (inside ++ ['\x7d']))

inductive SpellsItems : Bool → List Json → List Char → Prop where
  | done (first : Bool) (blanks : List Char) (blank : Blank blanks) : SpellsItems first [] blanks
  | item (first : Bool) (value : Json) (rest : List Json) (blanks written more : List Char)
      (blank : Blank blanks) (spelled : Spells value written) (later : SpellsItems false rest more) :
      SpellsItems first (value :: rest) (separator first ++ (blanks ++ (written ++ more)))

inductive SpellsMembers : Bool → List (String × Json) → List Char → Prop where
  | done (first : Bool) (blanks : List Char) (blank : Blank blanks) : SpellsMembers first [] blanks
  | member (first : Bool) (name : String) (value : Json) (rest : List (String × Json))
      (blanks gap written more : List Char) (blank : Blank blanks) (apart : Blank gap)
      (spelled : Spells value written) (later : SpellsMembers false rest more) :
      SpellsMembers first ((name, value) :: rest)
        (separator first ++ (blanks ++
          '"' :: (name.toList.flatMap escape ++ '"' :: ':' :: (gap ++ (written ++ more)))))

end

theorem skip_blanks (blanks rest : List Char) (c : Char) (blank : Blank blanks)
    (solid : isBlank c = false) : skipBlanks (blanks ++ c :: rest) = c :: rest := by
  rw [skipBlanks, List.dropWhile_append_of_pos blank, List.dropWhile_cons_of_neg]
  rw [solid]
  exact Bool.false_ne_true

theorem skip_none (c : Char) (rest : List Char) (solid : isBlank c = false) :
    skipBlanks (c :: rest) = c :: rest := skip_blanks [] rest c nofun solid

theorem blank_mark (c : Char) (blank : isBlank c = true) : c ∈ [' ', '\n', '\t', '\r'] := by
  simpa [isBlank, or_assoc] using blank

theorem ends_mark (c : Char) (rest : List Char)
    (mark : c ∈ [',', ']', '\x7d', ' ', '\n', '\t', '\r']) : Ends (c :: rest) := by
  intro first same
  cases same
  simp only [List.mem_cons, List.not_mem_nil, or_false] at mark
  rcases mark with rfl | rfl | rfl | rfl | rfl | rfl | rfl <;> decide

theorem ends_blanks (blanks rest : List Char) (blank : Blank blanks) (ends : Ends rest) :
    Ends (blanks ++ rest) := by
  cases blanks with
  | nil => exact ends
  | cons c blanks =>
    exact ends_mark c _ (List.mem_append_right [',', ']', '\x7d'] (blank_mark c (blank c (.head _))))

theorem ends_items (items : List Json) (more rest : List Char)
    (spelled : SpellsItems false items more) : Ends (more ++ ']' :: rest) := by
  cases spelled with
  | done _ _ blank => exact ends_blanks _ _ blank (ends_mark ']' rest (by decide))
  | item => exact ends_mark ',' _ (by decide)

theorem ends_members (members : List (String × Json)) (more rest : List Char)
    (spelled : SpellsMembers false members more) : Ends (more ++ '\x7d' :: rest) := by
  cases spelled with
  | done _ _ blank => exact ends_blanks _ _ blank (ends_mark '\x7d' rest (by decide))
  | member => exact ends_mark ',' _ (by decide)

theorem digit_differs (c other : Char) (digit : c.isDigit = true) (different : other.isDigit = false) :
    c ≠ other := by
  rintro rfl
  rw [digit] at different
  cases different

theorem digit_solid (c : Char) (digit : c.isDigit = true) : isBlank c = false := by
  have other := fun other => digit_differs c other digit
  simp only [isBlank, other ' ' rfl, other '\n' rfl, other '\t' rfl, other '\r' rfl, decide_false,
    Bool.or_self]

def Starts (text : List Char) : Prop := ∃ c rest, text = c :: rest ∧ isBlank c = false ∧ c ≠ ']'

theorem starts_append (text rest : List Char) (starts : Starts text) : Starts (text ++ rest) := by
  obtain ⟨c, more, rfl, solid, inside⟩ := starts
  exact ⟨c, more ++ rest, rfl, solid, inside⟩

theorem starts_size (text : List Char) (starts : Starts text) : 0 < text.length := by
  obtain ⟨c, rest, rfl, _⟩ := starts
  exact Nat.succ_pos _

theorem spelled_starts (value : Json) (written : List Char) (spelled : Spells value written) :
    Starts written := by
  cases spelled with
  | null | yes | no | string | array | object => exact ⟨_, _, rfl, by decide, by decide⟩
  | number value =>
    cases found : Nat.toDigits 10 value with
    | nil => exact absurd found Nat.toDigits_ne_nil
    | cons c rest =>
      have digit : c.isDigit = true :=
        Nat.isDigit_of_mem_toDigits (by decide) (by decide) (found ▸ List.mem_cons_self)
      exact ⟨c, rest, rfl, digit_solid c digit, digit_differs c ']' digit rfl⟩

theorem read_array (fuel : Nat) (text : List Char) : readValue (fuel + 1) ('[' :: text) =
    (.array (readItems fuel true text).1 (readItems fuel true text).2.1,
      (readItems fuel true text).2.2) := rfl

theorem read_object (fuel : Nat) (text : List Char) : readValue (fuel + 1) ('\x7b' :: text) =
    (.object (readMembers fuel true text).1 (readMembers fuel true text).2.1,
      (readMembers fuel true text).2.2) := rfl

theorem read_string (fuel : Nat) (text : String) (rest : List Char) :
    readValue (fuel + 1) ('"' :: (text.toList.flatMap escape ++ '"' :: rest)) =
      (.string (some text), some rest) := by
  rw [readValue, skip_none '"' _ rfl]
  dsimp only
  rw [if_neg (by decide), if_neg (by decide), if_neg (by decide), if_pos rfl, string_quoted]

theorem read_number (fuel value : Nat) (rest : List Char) (ends : Ends rest) :
    readValue (fuel + 1) (Nat.toDigits 10 value ++ rest) =
      (.number ⟨false, Nat.toDigits 10 value, [], none⟩, some rest) := by
  have written := number_written value rest ends
  cases found : Nat.toDigits 10 value with
  | nil => exact absurd found Nat.toDigits_ne_nil
  | cons c more =>
    have digit : c.isDigit = true :=
      Nat.isDigit_of_mem_toDigits (by decide) (by decide) (found ▸ List.mem_cons_self)
    have other := fun other => digit_differs c other digit
    rw [found] at written
    rw [readValue, List.cons_append, skip_none c _ (digit_solid c digit)]
    dsimp only
    rw [if_neg (other 'n' rfl), if_neg (other 't' rfl), if_neg (other 'f' rfl), if_neg (other '"' rfl),
      if_neg (other '[' rfl), if_neg (other '\x7b' rfl), if_neg (other '-' rfl), ← List.cons_append,
      written]

theorem read_blanks (fuel : Nat) (blanks text : List Char) (blank : Blank blanks)
    (starts : Starts text) : readValue fuel (blanks ++ text) = readValue fuel text := by
  obtain ⟨c, rest, rfl, solid, _⟩ := starts
  cases fuel with
  | zero => rfl
  | succ fuel => rw [readValue, readValue, skip_blanks blanks rest c blank solid, skip_none c rest solid]

section

variable (fuel : Nat) (blanks : List Char) (blank : Blank blanks)

include blank

theorem read_items_done (first : Bool) (rest : List Char) :
    readItems (fuel + 1) first (blanks ++ ']' :: rest) = ([], true, some rest) := by
  rw [readItems, skip_blanks blanks rest ']' blank rfl]
  rfl

theorem read_items_item (first : Bool) (text after : List Char) (item : Reading)
    (starts : Starts text) (found : readValue fuel text = (item, some after)) :
    readItems (fuel + 1) first (separator first ++ (blanks ++ text)) =
      (item :: (readItems fuel false after).1, (readItems fuel false after).2.1,
        (readItems fuel false after).2.2) := by
  obtain ⟨c, rest, rfl, solid, inside⟩ := starts
  cases first with
  | true =>
    rw [separator, if_pos rfl, List.nil_append, readItems, skip_blanks blanks rest c blank solid]
    simp [inside, skip_none c rest solid, found]
  | false =>
    rw [separator, if_neg Bool.false_ne_true, List.singleton_append, readItems, skip_none ',' _ rfl]
    simp [skip_blanks blanks rest c blank solid, inside, found]

theorem read_members_done (first : Bool) (rest : List Char) :
    readMembers (fuel + 1) first (blanks ++ '\x7d' :: rest) = ([], true, some rest) := by
  rw [readMembers, skip_blanks blanks rest '\x7d' blank rfl]
  rfl

theorem read_members_member (first : Bool) (name : String) (text after : List Char)
    (value : Reading) (found : readValue fuel text = (value, some after)) :
    readMembers (fuel + 1) first
        (separator first ++ (blanks ++ '"' :: (name.toList.flatMap escape ++ '"' :: ':' :: text))) =
      ((some name, value) :: (readMembers fuel false after).1, (readMembers fuel false after).2.1,
        (readMembers fuel false after).2.2) := by
  have key : key? ('"' :: (name.toList.flatMap escape ++ '"' :: ':' :: text)) =
    some (some name, ':' :: text) := string_quoted name (':' :: text)
  have skipped := fun rest => skip_blanks blanks rest '"' blank rfl
  cases first with
  | true =>
    rw [separator, if_pos rfl, List.nil_append, readMembers, skipped]
    simp [skip_none '"' _ rfl, key, skip_none ':' text rfl, found]
  | false =>
    rw [separator, if_neg Bool.false_ne_true, List.singleton_append, readMembers, skip_none ',' _ rfl]
    simp [skipped, key, skip_none ':' text rfl, found]

end

-- The induction is on how the text spells the value; each character pays for a step of the reader.
mutual

theorem read_spelled (value : Json) (written : List Char) (spelled : Spells value written)
    (rest : List Char) (ends : Ends rest) (fuel : Nat) (enough : written.length ≤ fuel) :
    readValue fuel (written ++ rest) = (value.reading, some rest) := by
  cases fuel with
  | zero =>
    obtain ⟨c, more, rfl, _⟩ := spelled_starts value written spelled
    cases enough
  | succ fuel =>
    cases spelled with
    | null | yes | no => rfl
    | number value => exact read_number fuel value rest ends
    | string text =>
      rw [List.cons_append, List.append_assoc]
      exact read_string fuel text rest
    | array items inside spelled =>
      simp only [List.length_cons, List.length_append] at enough
      have read := read_spelled_items true items inside spelled rest fuel (by omega)
      rw [List.cons_append, List.append_assoc, List.singleton_append, read_array, read]
      rfl
    | object members inside spelled =>
      simp only [List.length_cons, List.length_append] at enough
      have read := read_spelled_members true members inside spelled rest fuel (by omega)
      rw [List.cons_append, List.append_assoc, List.singleton_append, read_object, read]
      rfl

theorem read_spelled_items (first : Bool) (items : List Json) (inside : List Char)
    (spelled : SpellsItems first items inside) (rest : List Char) (fuel : Nat)
    (enough : inside.length < fuel) :
    readItems fuel first (inside ++ ']' :: rest) = (readingItems items, true, some rest) := by
  cases fuel with
  | zero => cases enough
  | succ fuel =>
    cases spelled with
    | done _ _ blank => exact read_items_done fuel inside blank first rest
    | item _ value items blanks written more blank spelled later =>
      have starts := spelled_starts value written spelled
      have size := starts_size written starts
      simp only [List.length_append] at enough
      have found := read_spelled value written spelled (more ++ ']' :: rest)
        (ends_items items more rest later) fuel (by omega)
      have others := read_spelled_items false items more later rest fuel (by omega)
      simp only [List.append_assoc]
      rw [read_items_item fuel blanks blank first _ _ _ (starts_append written _ starts) found, others]
      rfl

theorem read_spelled_members (first : Bool) (members : List (String × Json)) (inside : List Char)
    (spelled : SpellsMembers first members inside) (rest : List Char) (fuel : Nat)
    (enough : inside.length < fuel) :
    readMembers fuel first (inside ++ '\x7d' :: rest) = (readingMembers members, true, some rest) := by
  cases fuel with
  | zero => cases enough
  | succ fuel =>
    cases spelled with
    | done _ _ blank => exact read_members_done fuel inside blank first rest
    | member _ name value members blanks gap written more blank apart spelled later =>
      simp only [List.length_append, List.length_cons] at enough
      have starts := starts_append written (more ++ '\x7d' :: rest) (spelled_starts value written spelled)
      have found := read_spelled value written spelled (more ++ '\x7d' :: rest)
        (ends_members members more rest later) fuel (by omega)
      rw [← read_blanks fuel gap _ apart starts] at found
      have others := read_spelled_members false members more later rest fuel (by omega)
      simp only [List.append_assoc, List.cons_append]
      rw [read_members_member fuel blanks blank first name _ _ _ found, others]
      rfl

end

end Json

end TreeGrammar
