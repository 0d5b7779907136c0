import TreeGrammar.Random.Stream
set_option autoImplicit false

namespace TreeGrammar

namespace Binary64

-- The code with the sign, which makes one of the two zeros. Numbers are ordered like this.
def rank (x : Binary64) : Int := if x.negative then -(x.code : Int) else x.code

def AtMost (x y : Binary64) : Prop := x.isNaN = false ∧ y.isNaN = false ∧ x.rank ≤ y.rank

instance (x y : Binary64) : Decidable (x.AtMost y) := inferInstanceAs (Decidable (_ ∧ _))

theorem floor_shifted_zero (x : Binary64) (code : x.code = 0) (shift : Nat) :
    x.floorShifted shift = 0 := by
  have significand : x.significand = 0 := by rw [Binary64.significand, code, Nat.zero_sub]
  rw [floorShifted, significand, Nat.zero_mul, Nat.zero_div, ite_self]

theorem chance_none (x : Binary64) (none : x.isNaN = true ∨ x.AtMost .zero) : x.chance = 0 := by
  rcases none with strange | ⟨number, _, lower⟩
  · rw [chance, strange, Bool.or_true, if_pos rfl]
  · cases sign : x.negative with
    | true => rw [chance, sign, Bool.true_or, if_pos rfl]
    | false =>
      have code : x.code = 0 := by simpa [rank, sign, zero] using lower
      have below : ¬ one.code ≤ 0 := by decide
      rw [chance, sign, number, floor_shifted_zero x code, code, if_neg below]
      rfl

theorem chance_all (x : Binary64) (all : one.AtMost x) : x.chance = Nat.pow 2 64 := by
  obtain ⟨_, number, higher⟩ := all
  have least : one.rank = 0x3ff0000000000000 := by decide
  rw [least, rank] at higher
  have positive : x.negative = false := by
    cases sign : x.negative with
    | false => rfl
    | true =>
      rw [sign, if_pos rfl] at higher
      omega
  rw [positive, if_neg Bool.false_ne_true] at higher
  have enough : one.code ≤ x.code := Int.ofNat_le.1 higher
  rw [chance, positive, number, if_pos enough]
  rfl

end Binary64

namespace RandomStream

theorem chance_never (probability : Binary64) (none : probability.chance = 0) (stream : RandomStream) :
    (stream.chance probability).1 = false := by
  rw [chance, none, if_neg (by decide)]
  rfl

theorem chance_always (probability : Binary64) (all : probability.chance = Nat.pow 2 64)
    (stream : RandomStream) : (stream.chance probability).1 = true := by
  rw [chance, if_pos all]

end RandomStream

end TreeGrammar
