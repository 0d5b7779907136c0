import TreeGrammar.Proofs.Json.Layouts
set_option autoImplicit false

namespace TreeGrammar

def Lined (text : String) : Prop :=
  ∃ lines : List String, lines ≠ [] ∧ (∀ line ∈ lines, line ≠ "" ∧ '\n' ∉ line.toList) ∧
    text = String.join (lines.map (· ++ "\n"))

namespace Lined

theorem single (line : String) (filled : line ≠ "") (unbroken : '\n' ∉ line.toList) :
    Lined (line ++ "\n") := by
  refine ⟨[line], List.cons_ne_nil _ _, ?_, ?_⟩
  · intro same listed
    rw [List.mem_singleton.1 listed]
    exact ⟨filled, unbroken⟩
  · rw [List.map_singleton, String.join_cons, String.join_nil, String.append_empty]

theorem append (text more : String) (first : Lined text) (second : Lined more) :
    Lined (text ++ more) := by
  obtain ⟨lines, some, filled, rfl⟩ := first
  obtain ⟨others, _, alike, rfl⟩ := second
  refine ⟨lines ++ others, List.append_ne_nil_of_left_ne_nil some _, ?_, ?_⟩
  · intro line listed
    exact (List.mem_append.1 listed).elim (filled line) (alike line)
  · rw [List.map_append, String.join_append]

theorem indent (margin text : String) (unbroken : '\n' ∉ margin.toList) (lined : Lined text) :
    Lined (margin ++ text) := by
  obtain ⟨lines, some, filled, rfl⟩ := lined
  obtain ⟨line, rest, rfl⟩ := List.exists_cons_of_ne_nil some
  obtain ⟨visible, whole⟩ := filled line (.head _)
  refine ⟨(margin ++ line) :: rest, List.cons_ne_nil _ _, ?_, ?_⟩
  · intro other listed
    rcases List.mem_cons.1 listed with rfl | later
    · refine ⟨fun empty => visible (String.append_eq_empty_iff.1 empty).2, ?_⟩
      rw [String.toList_append, List.mem_append, not_or]
      exact ⟨unbroken, whole⟩
    · exact filled other (.tail _ later)
  · simp only [List.map_cons, String.join_cons, String.append_assoc]

theorem ends (text : String) (lined : Lined text) : "\n".toList <:+ text.toList := by
  obtain ⟨lines, some, _, rfl⟩ := lined
  rw [← List.dropLast_append_getLast some, List.map_append, String.join_append, List.map_singleton,
    String.join_cons, String.join_nil, String.append_empty, ← String.append_assoc, String.toList_append]
  exact List.suffix_append _ _

end Lined

namespace Json

theorem escape_unbroken (c : Char) : '\n' ∉ escape c := by
  have digits : ∀ value < 16, '\n' ≠ Nat.digitChar value := by decide
  rw [escape]
  split_ifs with _ _ _ _ feed _ _ control
  iterate 7 decide
  · have high := digits (c.toNat / 16) (by omega)
    have low := digits (c.toNat % 16) (Nat.mod_lt _ (by decide))
    simp [controlDigits, high, low]
  · exact fun member => feed (List.mem_singleton.1 member).symm

theorem quoted_unbroken (text : String) : '\n' ∉ (quoted text).toList := by
  simp [quoted_list, escape_unbroken]

theorem quoted_filled (text : String) : quoted text ≠ "" := by
  intro empty
  have none := quoted_list text
  rw [empty] at none
  cases none

theorem number_unbroken (value : Nat) : '\n' ∉ (toString value).toList := by
  rw [number_list]
  intro member
  exact absurd (Nat.isDigit_of_mem_toDigits (by decide) (by decide) member) (by decide)

theorem number_filled (value : Nat) : toString value ≠ "" := by
  intro empty
  have none := number_list value
  rw [empty] at none
  exact Nat.toDigits_ne_nil none.symm

theorem deeper_unbroken (margin : String) (unbroken : '\n' ∉ margin.toList) :
    '\n' ∉ (margin ++ "  ").toList := by
  simp [unbroken]

theorem scalar_lined (text tail : String) (filled : text ≠ "") (unbroken : '\n' ∉ text.toList)
    (flat : '\n' ∉ tail.toList) : Lined (text ++ tail ++ "\n") := by
  refine .single _ (fun empty => filled (String.append_eq_empty_iff.1 empty).1) ?_
  rw [String.toList_append, List.mem_append, not_or]
  exact ⟨unbroken, flat⟩

theorem name_unbroken (margin name : String) (unbroken : '\n' ∉ margin.toList) :
    '\n' ∉ (margin ++ quoted name ++ ": ").toList := by
  simp [unbroken, quoted_unbroken]

theorem comma_ends : ",\n" = "," ++ "\n" := rfl

theorem bracket_lined (opening closing margin tail inside : String) (visible : opening ≠ "")
    (whole : '\n' ∉ opening.toList) (shut : closing ≠ "" ∧ '\n' ∉ closing.toList)
    (unbroken : '\n' ∉ margin.toList) (flat : '\n' ∉ tail.toList) (lined : Lined (inside ++ "\n")) :
    Lined (opening ++ "\n" ++ inside ++ "\n" ++ margin ++ closing ++ tail ++ "\n") := by
  have last := (scalar_lined closing tail shut.1 shut.2 flat).indent margin _ unbroken
  have both := (Lined.single opening visible whole).append _ _ (lined.append _ _ last)
  simpa only [String.append_assoc] using both

mutual

theorem indented_lined (margin tail : String) (unbroken : '\n' ∉ margin.toList)
    (flat : '\n' ∉ tail.toList) (value : Json) : Lined (value.indented margin ++ tail ++ "\n") := by
  cases value with
  | null => exact scalar_lined "null" tail (by decide) (by decide) flat
  | bool value =>
    cases value with
    | false => exact scalar_lined "false" tail (by decide) (by decide) flat
    | true => exact scalar_lined "true" tail (by decide) (by decide) flat
  | number value => exact scalar_lined _ tail (number_filled value) (number_unbroken value) flat
  | string value => exact scalar_lined _ tail (quoted_filled value) (quoted_unbroken value) flat
  | array items =>
    cases items with
    | nil => exact scalar_lined "[]" tail (by decide) (by decide) flat
    | cons item rest =>
      rw [indented]
      · exact bracket_lined "[" "]" margin tail _ (by decide) (by decide) (by decide) unbroken flat
          (items_lined (margin ++ "  ") (deeper_unbroken margin unbroken) (item :: rest)
            (List.cons_ne_nil _ _))
      · exact List.cons_ne_nil item rest
  | object members =>
    cases members with
    | nil => exact scalar_lined "\x7b\x7d" tail (by decide) (by decide) flat
    | cons member rest =>
      rw [indented]
      · exact bracket_lined "\x7b" "\x7d" margin tail _ (by decide) (by decide) (by decide) unbroken flat
          (members_lined (margin ++ "  ") (deeper_unbroken margin unbroken) (member :: rest)
            (List.cons_ne_nil _ _))
      · exact List.cons_ne_nil member rest

theorem items_lined (margin : String) (unbroken : '\n' ∉ margin.toList) (items : List Json)
    (some : items ≠ []) : Lined (indentedItems margin items ++ "\n") := by
  match items, some with
  | [item], _ =>
    have alone := (indented_lined margin "" unbroken (by decide) item).indent margin _ unbroken
    rwa [String.append_empty, ← String.append_assoc] at alone
  | item :: next :: rest, _ =>
    have more := List.cons_ne_nil next rest
    have first := (indented_lined margin "," unbroken (by decide) item).indent margin _ unbroken
    have both := first.append _ _ (items_lined margin unbroken (next :: rest) more)
    rw [indentedItems, comma_ends]
    · simpa only [String.append_assoc] using both
    · exact more

theorem members_lined (margin : String) (unbroken : '\n' ∉ margin.toList)
    (members : List (String × Json)) (some : members ≠ []) :
    Lined (indentedMembers margin members ++ "\n") := by
  match members, some with
  | [(name, value)], _ =>
    have named := name_unbroken margin name unbroken
    have alone := (indented_lined margin "" unbroken (by decide) value).indent _ _ named
    rwa [String.append_empty, ← String.append_assoc] at alone
  | (name, value) :: next :: rest, _ =>
    have more := List.cons_ne_nil next rest
    have named := name_unbroken margin name unbroken
    have first := (indented_lined margin "," unbroken (by decide) value).indent _ _ named
    have both := first.append _ _ (members_lined margin unbroken (next :: rest) more)
    rw [indentedMembers, comma_ends]
    · simpa only [String.append_assoc] using both
    · exact more

end

theorem pretty_lined (value : Json) : Lined (value.pretty ++ "\n") := by
  have lined := indented_lined "" "" (by decide) (by decide) value
  rwa [String.append_empty] at lined

theorem pretty_object_closes (members : List (String × Json)) :
    (object members).pretty.toList.getLast? = some '\x7d' := by
  cases members with
  | nil => decide
  | cons member rest =>
    rw [pretty, indented]
    · rw [String.toList_append]
      exact List.getLast?_concat
    · exact List.cons_ne_nil member rest

end Json

end TreeGrammar
