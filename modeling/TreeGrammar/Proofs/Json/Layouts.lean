import TreeGrammar.Proofs.Json.Spelling
set_option autoImplicit false

namespace TreeGrammar

namespace Json

theorem blank_append (front back : List Char) (first : Blank front) (second : Blank back) :
    Blank (front ++ back) := by
  intro c member
  rcases List.mem_append.1 member with left | right
  · exact first c left
  · exact second c right

theorem spells_blanks (items : List Json) (gap text : List Char) (apart : Blank gap)
    (spelled : SpellsItems true items text) : SpellsItems true items (gap ++ text) := by
  cases spelled with
  | done _ _ blank => exact .done true _ (blank_append gap text apart blank)
  | item _ value rest blanks written more blank spelled later =>
    have whole := SpellsItems.item true value rest _ written more (blank_append gap blanks apart blank)
      spelled later
    simpa [separator] using whole

theorem spells_comma (item : Json) (rest : List Json) (text : List Char)
    (spelled : SpellsItems true (item :: rest) text) : SpellsItems false (item :: rest) (',' :: text) := by
  cases spelled with
  | item _ _ _ blanks written more blank spelled later =>
    exact .item false item rest blanks written more blank spelled later

theorem members_blanks (members : List (String × Json)) (gap text : List Char) (apart : Blank gap)
    (spelled : SpellsMembers true members text) : SpellsMembers true members (gap ++ text) := by
  cases spelled with
  | done _ _ blank => exact .done true _ (blank_append gap text apart blank)
  | member _ name value rest blanks between written more blank spaced spelled later =>
    have whole := SpellsMembers.member true name value rest _ between written more
      (blank_append gap blanks apart blank) spaced spelled later
    simpa [separator] using whole

theorem members_comma (member : String × Json) (rest : List (String × Json)) (text : List Char)
    (spelled : SpellsMembers true (member :: rest) text) :
    SpellsMembers false (member :: rest) (',' :: text) := by
  cases spelled with
  | member _ name value _ blanks between written more blank spaced spelled later =>
    exact .member false name value rest blanks between written more blank spaced spelled later

theorem quoted_list (text : String) :
    (quoted text).toList = '"' :: (text.toList.flatMap escape ++ ['"']) := String.toList_ofList

theorem number_list (value : Nat) : (toString value).toList = Nat.toDigits 10 value := by
  rw [Nat.toString_eq_ofList_toDigits, String.toList_ofList]

mutual

theorem compact_spells (value : Json) : Spells value value.compact.toList := by
  cases value with
  | null => exact .null
  | bool value =>
    cases value with
    | true => exact .yes
    | false => exact .no
  | number value =>
    rw [compact, number_list]
    exact .number value
  | string text =>
    rw [compact, quoted_list]
    exact .string text
  | array items =>
    rw [compact, String.toList_append, String.toList_append]
    exact .array items _ (compact_spells_items items)
  | object members =>
    rw [compact, String.toList_append, String.toList_append]
    exact .object members _ (compact_spells_members members)

theorem compact_spells_items (items : List Json) :
    SpellsItems true items (compactItems items).toList := by
  cases items with
  | nil => exact .done true [] nofun
  | cons item rest =>
    have spelled := compact_spells item
    cases rest with
    | nil =>
      have whole := SpellsItems.item true item [] [] _ [] nofun spelled (.done false [] nofun)
      rwa [List.append_nil] at whole
    | cons next rest =>
      have later := spells_comma next rest _ (compact_spells_items (next :: rest))
      rw [compactItems, String.toList_append, String.toList_append, List.append_assoc]
      · exact .item true item (next :: rest) [] _ _ nofun spelled later
      · exact List.cons_ne_nil next rest

theorem compact_spells_members (members : List (String × Json)) :
    SpellsMembers true members (compactMembers members).toList := by
  cases members with
  | nil => exact .done true [] nofun
  | cons member rest =>
    obtain ⟨name, value⟩ := member
    have spelled := compact_spells value
    cases rest with
    | nil =>
      have whole := SpellsMembers.member true name value [] [] [] _ [] nofun nofun spelled
        (.done false [] nofun)
      rw [compactMembers]
      simpa [separator, quoted_list] using whole
    | cons next rest =>
      have later := members_comma next rest _ (compact_spells_members (next :: rest))
      have whole := SpellsMembers.member true name value (next :: rest) [] [] _ _ nofun nofun spelled later
      rw [compactMembers]
      · simpa [separator, quoted_list] using whole
      · exact List.cons_ne_nil next rest

end

theorem blank_line (margin : String) (blank : Blank margin.toList) :
    Blank ('\n' :: margin.toList) := by
  intro c member
  rcases List.mem_cons.1 member with rfl | later
  · rfl
  · exact blank c later

theorem blank_deeper (margin : String) (blank : Blank margin.toList) :
    Blank (margin ++ "  ").toList := by
  rw [String.toList_append]
  exact blank_append _ _ blank (blank_append [' '] [' '] (blank_single ' ' rfl) (blank_single ' ' rfl))

mutual

theorem indented_spells (margin : String) (blank : Blank margin.toList) (value : Json) :
    Spells value (value.indented margin).toList := by
  cases value with
  | null =>
    rw [indented]
    exact .null
  | bool value =>
    rw [indented]
    cases value with
    | true => exact .yes
    | false => exact .no
  | number value =>
    rw [indented, number_list]
    exact .number value
  | string text =>
    rw [indented, quoted_list]
    exact .string text
  | array items =>
    cases items with
    | nil =>
      rw [indented]
      exact .array [] [] (.done true [] nofun)
    | cons item rest =>
      have inside := spells_blanks _ ['\n'] _ (blank_single '\n' rfl)
        (indented_spells_items (margin ++ "  ") (blank_deeper margin blank) _ (blank_line margin blank)
          (item :: rest))
      rw [indented]
      · simpa using Spells.array _ _ inside
      · exact List.cons_ne_nil item rest
  | object members =>
    cases members with
    | nil =>
      rw [indented]
      exact .object [] [] (.done true [] nofun)
    | cons member rest =>
      have inside := members_blanks _ ['\n'] _ (blank_single '\n' rfl)
        (indented_spells_members (margin ++ "  ") (blank_deeper margin blank) _
          (blank_line margin blank) (member :: rest))
      rw [indented]
      · simpa using Spells.object _ _ inside
      · exact List.cons_ne_nil member rest

theorem indented_spells_items (margin : String) (blank : Blank margin.toList) (closing : List Char)
    (closed : Blank closing) (items : List Json) :
    SpellsItems true items ((indentedItems margin items).toList ++ closing) := by
  cases items with
  | nil => exact .done true closing closed
  | cons item rest =>
    have spelled := indented_spells margin blank item
    cases rest with
    | nil =>
      rw [indentedItems, String.toList_append, List.append_assoc]
      exact .item true item [] _ _ closing blank spelled (.done false closing closed)
    | cons next rest =>
      have later := spells_comma next rest _ (spells_blanks _ ['\n'] _ (blank_single '\n' rfl)
        (indented_spells_items margin blank closing closed (next :: rest)))
      have whole := SpellsItems.item true item (next :: rest) _ _ _ blank spelled later
      rw [indentedItems]
      · simpa [separator] using whole
      · exact List.cons_ne_nil next rest

theorem indented_spells_members (margin : String) (blank : Blank margin.toList)
    (closing : List Char) (closed : Blank closing) (members : List (String × Json)) :
    SpellsMembers true members ((indentedMembers margin members).toList ++ closing) := by
  cases members with
  | nil => exact .done true closing closed
  | cons member rest =>
    obtain ⟨name, value⟩ := member
    have spelled := indented_spells margin blank value
    cases rest with
    | nil =>
      have whole := SpellsMembers.member true name value [] _ [' '] _ closing blank (blank_single ' ' rfl) spelled
        (.done false closing closed)
      rw [indentedMembers]
      simpa [separator, quoted_list] using whole
    | cons next rest =>
      have later := members_comma next rest _ (members_blanks _ ['\n'] _ (blank_single '\n' rfl)
        (indented_spells_members margin blank closing closed (next :: rest)))
      have whole := SpellsMembers.member true name value (next :: rest) _ [' '] _ _ blank (blank_single ' ' rfl) spelled
        later
      rw [indentedMembers]
      · simpa [separator, quoted_list] using whole
      · exact List.cons_ne_nil next rest

end

theorem read_whole (value : Json) (text : List Char) (spelled : Spells value text) :
    read text = (value.reading, true) := by
  have whole := read_spelled value text spelled [] nofun (2 * text.length + 2) (by omega)
  rw [List.append_nil] at whole
  rw [read, whole]
  rfl

theorem read_compact (value : Json) : read value.compact.toList = (value.reading, true) :=
  read_whole value _ (compact_spells value)

theorem read_pretty (value : Json) : read value.pretty.toList = (value.reading, true) :=
  read_whole value _ (indented_spells "" nofun value)

theorem pretty_unique (first second : Json) (same : first.pretty = second.pretty) : first = second := by
  have read := read_pretty first
  rw [same, read_pretty second] at read
  exact (reading_unique second first (Prod.mk.inj read).1).symm

end Json

end TreeGrammar
