import TreeGrammar.Format.NestedJson
import TreeGrammar.Proofs.Graph.Outline
import TreeGrammar.Proofs.Json.Layouts
set_option autoImplicit false

namespace TreeGrammar

namespace Outline

mutual

theorem to_json_unique (id also : Nat) (first second : Outline) (regular : first.Regular id)
    (likewise : second.Regular also) (same : first.toJson = second.toJson) : first = second := by
  cases first with
  | node number name target children =>
    cases second with
    | node other named another below =>
      obtain ⟨rfl, _, bare, inside⟩ := regular
      obtain ⟨rfl, _, lone, within⟩ := likewise
      cases target with
      | none =>
        cases another with
        | none =>
          simp only [toJson, Json.object.injEq, List.cons.injEq, Prod.mk.injEq, Json.array.injEq,
            Json.number.injEq, Json.string.injEq, true_and, and_true] at same
          obtain ⟨listed, rfl, rfl⟩ := same
          rw [to_json_list_unique _ _ children below inside within listed]
        | some aim => simp [toJson] at same
      | some target =>
        cases another with
        | none => simp [toJson] at same
        | some aim =>
          simp only [toJson, Json.object.injEq, List.cons.injEq, Prod.mk.injEq, Json.number.injEq,
            Json.string.injEq, true_and, and_true] at same
          obtain ⟨rfl, rfl, rfl⟩ := same
          rw [bare (Option.some_ne_none target), lone (Option.some_ne_none target)]

theorem to_json_list_unique (id also : Nat) (first second : List Outline)
    (regular : RegularAll id first) (likewise : RegularAll also second)
    (same : toJsonList first = toJsonList second) : first = second := by
  cases first with
  | nil =>
    cases second with
    | nil => rfl
    | cons _ _ => cases same
  | cons child rest =>
    cases second with
    | nil => cases same
    | cons other more =>
      obtain ⟨here, later⟩ := List.cons.inj same
      rw [to_json_unique _ _ child other regular.1 likewise.1 here,
        to_json_list_unique _ _ rest more regular.2 likewise.2 later]

end

end Outline

end TreeGrammar
