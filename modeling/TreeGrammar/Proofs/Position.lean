import Mathlib.Data.List.Induction
import Mathlib.Data.String.Basic
import TreeGrammar.Proofs.Position.LineTable
set_option autoImplicit false

namespace TreeGrammar

def Position.after (text : List Char) : Position :=
  ⟨text.count '\n' + 1, (text.reverse.takeWhile (· ≠ '\n')).length + 1⟩

namespace Cursor

theorem advance_offset (cursor : Cursor) (c : Char) :
    (cursor.advance c).offset = cursor.offset + c.utf8Size := by
  rw [advance]
  split <;> rfl

theorem past_offset (cursor : Cursor) (text : List Char) :
    (cursor.past text).offset = cursor.offset + String.utf8Len text := by
  induction text generalizing cursor with
  | nil => rfl
  | cons c rest ih =>
    rw [past_cons, ih, advance_offset, String.utf8Len_cons]
    omega

theorem past_position (text : List Char) : (start.past text).position = .after text := by
  induction text using List.reverseRecOn with
  | nil => rfl
  | append_singleton front c ih =>
    rw [past_append, past_cons, past_nil]
    have line := congrArg Position.line ih
    have column := congrArg Position.column ih
    simp only [position, Position.after] at line column
    by_cases feed : c = '\n'
    · simp [advance, position, Position.after, feed, line]
    · simp [advance, position, Position.after, feed, line, column]

end Cursor

theorem after_lines (lines line : List Char) (ended : lines = [] ∨ ∃ front, lines = front ++ ['\n'])
    (unbroken : '\n' ∉ line) :
    Position.after (lines ++ line) = ⟨lines.count '\n' + 1, line.length + 1⟩ := by
  have kept : ∀ c ∈ line.reverse, decide (c ≠ '\n') = true := fun c member =>
    decide_eq_true fun feed => unbroken (feed ▸ List.mem_reverse.1 member)
  have stops : lines.reverse.takeWhile (· ≠ '\n') = [] := by
    rcases ended with rfl | ⟨front, rfl⟩
    · rfl
    · simp
  rw [Position.after, List.count_append, List.count_eq_zero_of_not_mem unbroken, Nat.add_zero,
    List.reverse_append, List.takeWhile_append_of_pos kept, stops, List.append_nil,
    List.length_reverse]

theorem position_of_offset (text : String) (front back : List Char)
    (split : text.toList = front ++ back) :
    Position.ofOffset text (String.utf8Len front) = .after front := by
  have valid := boundary text front back split
  have clamped : String.utf8Len front = min (String.utf8Len front) text.utf8ByteSize := by
    rw [← String.utf8Len_toList, split, String.utf8Len_append]
    omega
  obtain ⟨lines, line, rfl, cut⟩ := cut_between front back
  rw [← split] at cut
  rw [cut.position _ clamped, if_pos valid, after_lines lines line cut.ended cut.unbroken]

theorem position_end (text : String) : Position.endOf text = .after text.toList :=
  Cursor.past_position text.toList

namespace Position

instance : LT Position where
  lt first second :=
    first.line < second.line ∨ first.line = second.line ∧ first.column < second.column

instance (first second : Position) : Decidable (first < second) :=
  inferInstanceAs (Decidable (_ ∨ _ ∧ _))

theorem lt_irrefl (position : Position) : ¬ position < position := by
  rintro (line | ⟨_, column⟩)
  · exact Nat.lt_irrefl _ line
  · exact Nat.lt_irrefl _ column

theorem after_lt (front more : List Char) (further : more ≠ []) :
    after front < after (front ++ more) := by
  by_cases feed : '\n' ∈ more
  · left
    have ends := List.count_pos_iff.2 feed
    simp only [after, List.count_append]
    omega
  · have line : ∀ c ∈ more.reverse, decide (c ≠ '\n') = true := fun c member =>
      decide_eq_true fun same => feed (same ▸ List.mem_reverse.1 member)
    have positive := List.length_pos_iff.2 further
    refine .inr ⟨?_, ?_⟩
    · simp only [after, List.count_append, List.count_eq_zero_of_not_mem feed, Nat.add_zero]
    · simp only [after, List.reverse_append, List.takeWhile_append_of_pos line, List.length_append,
        List.length_reverse]
      omega

theorem nothing_between (front more : List Char) (same : after front = after (front ++ more)) :
    more = [] := by
  by_contra further
  have less := after_lt front more further
  rw [← same] at less
  exact lt_irrefl _ less

def GoesOn (position : Position) (text rest : List Char) : Prop :=
  ∃ front, text = front ++ rest ∧ position = after front

theorem goes_on_unique (position : Position) (text rest other : List Char)
    (first : position.GoesOn text rest) (second : position.GoesOn text other) : rest = other := by
  obtain ⟨front, split, rfl⟩ := first
  obtain ⟨back, again, same⟩ := second
  rcases List.append_eq_append_iff.1 (split.symm.trans again) with ⟨more, rfl, tail⟩ | ⟨more, rfl, tail⟩
  · obtain rfl := nothing_between front more same
    exact tail
  · obtain rfl := nothing_between back more same.symm
    exact tail.symm

structure Shows (position : Position) (text word : List Char) : Prop where
  inside : ∃ rest, position.GoesOn text rest
  begins : ∀ rest, position.GoesOn text rest → word <+: rest

theorem shows_after (front word rest : List Char) :
    (after front).Shows (front ++ (word ++ rest)) word := by
  have here : (after front).GoesOn (front ++ (word ++ rest)) (word ++ rest) := ⟨front, rfl, rfl⟩
  refine ⟨⟨_, here⟩, ?_⟩
  intro other there
  rw [goes_on_unique _ _ other _ there here]
  exact List.prefix_append word rest

end Position

end TreeGrammar
