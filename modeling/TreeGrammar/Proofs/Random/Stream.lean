import TreeGrammar.Random.Stream
set_option autoImplicit false

namespace TreeGrammar

namespace RandomStream

theorem next32_lt (stream : RandomStream) : stream.next32.1 < Nat.pow 2 32 := UInt32.toNat_lt _

theorem next64_lt (stream : RandomStream) : stream.next64.1 < Nat.pow 2 64 := by
  have low := next32_lt stream
  have high := next32_lt stream.next32.2
  calc stream.next32.1 + Nat.pow 2 32 * stream.next32.2.next32.1
      < Nat.pow 2 32 * (stream.next32.2.next32.1 + 1) := by rw [Nat.mul_succ]; omega
    _ ≤ Nat.pow 2 32 * Nat.pow 2 32 := Nat.mul_le_mul_left _ high
    _ = Nat.pow 2 64 := by decide

section

variable (width bound : Nat) (words : width = 32 ∨ width = 64)

include words

theorem draw_lt (stream : RandomStream) : (stream.draw width).1 < Nat.pow 2 width := by
  rcases words with rfl | rfl
  · exact next32_lt stream
  · exact next64_lt stream

theorem search_below_lt (positive : 0 < bound) (draws : Nat) (stream : RandomStream) :
    (searchBelow width bound draws stream).1 < bound := by
  induction draws generalizing stream with
  | zero => exact positive
  | succ draws ih =>
    simp only [searchBelow]
    split
    · have drawn := draw_lt width words stream
      exact Nat.div_lt_of_lt_mul (Nat.mul_lt_mul_of_pos_right drawn positive)
    · exact ih _

theorem below_lt (positive : 0 < bound) (stream : RandomStream) :
    (stream.below width bound).1 < bound :=
  search_below_lt width bound words positive period stream

end

end RandomStream

end TreeGrammar
