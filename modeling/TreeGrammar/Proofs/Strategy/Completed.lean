import TreeGrammar.Strategy
set_option autoImplicit false

namespace TreeGrammar

namespace Completed

def recordAll (completed : Completed) (history : List (String × NodeId)) : Completed :=
  history.foldl (fun known entry => known.record entry.1 entry.2) completed

theorem record_all_append (completed : Completed) (front back : List (String × NodeId)) :
    completed.recordAll (front ++ back) = (completed.recordAll front).recordAll back :=
  List.foldl_append

theorem named_record (completed : Completed) (name other : String) (id : NodeId) :
    (completed.record name id).named other =
      if other = name then (completed.named other).push id else completed.named other := by
  rw [named, record, NameMap.get?_alter]
  by_cases same : other = name
  · rw [if_pos same, if_pos same, same]
    rfl
  · rw [if_neg same, if_neg same]
    rfl

theorem named_record_all (completed : Completed) (history : List (String × NodeId)) (name : String) :
    ((completed.recordAll history).named name).toList =
      (completed.named name).toList ++ (history.filter fun entry => entry.1 = name).map (·.2) := by
  induction history generalizing completed with
  | nil => simp [recordAll]
  | cons entry rest ih =>
    obtain ⟨recorded, id⟩ := entry
    have later := ih (completed.record recorded id)
    rw [named_record] at later
    change (((completed.record recorded id).recordAll rest).named name).toList = _
    rw [later]
    by_cases same : name = recorded
    · simp [same]
    · simp [same, Ne.symm same]

theorem mem_named_record_all (history : List (String × NodeId)) (name : String) (id : NodeId) :
    id ∈ (recordAll ∅ history).named name ↔ (name, id) ∈ history := by
  have found := named_record_all ∅ history name
  rw [← Array.mem_toList_iff, found]
  simp [named, EmptyCollection.emptyCollection]

theorem record_all_nonempty (completed : Completed) (history : List (String × NodeId))
    (before : ∀ name, completed.get? name ≠ some #[]) (name : String) :
    (completed.recordAll history).get? name ≠ some #[] := by
  induction history generalizing completed with
  | nil => exact before name
  | cons entry rest ih =>
    refine ih (completed.record entry.1 entry.2) ?_
    intro other listed
    rw [record, NameMap.get?_alter] at listed
    split at listed
    · exact absurd (Option.some.inj listed) Array.push_ne_empty
    · exact before other listed

end Completed

end TreeGrammar
