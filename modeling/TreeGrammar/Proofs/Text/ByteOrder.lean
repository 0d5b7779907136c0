import Mathlib.Data.String.Basic
set_option autoImplicit false

namespace TreeGrammar

namespace Text

def bytes (text : String) : List UInt8 := text.toByteArray.data.toList

-- The last digits of a number to the base 64, as the bytes that continue a character.
def continuing : Nat → Nat → List UInt8
  | 0, _ => []
  | count + 1, number => UInt8.ofNat (number / 64 ^ count % 64 + 128) :: continuing count number

def continuations (number : Nat) : Nat :=
  if number ≤ 0x7f then 0 else if number ≤ 0x7ff then 1 else if number ≤ 0xffff then 2 else 3

def mark : Nat → Nat
  | 0 => 0
  | 1 => 0xc0
  | 2 => 0xe0
  | _ => 0xf0

def leading (number : Nat) : Nat :=
  number / 64 ^ continuations number + mark (continuations number)

theorem number_bound (c : Char) : c.toNat < 0x110000 := by
  have valid := c.valid
  rcases valid with low | ⟨_, high⟩
  · exact lt_trans low (by decide)
  · exact high

theorem leading_bound (number : Nat) (bound : number < 0x110000) : leading number < 256 := by
  simp only [leading, continuations]
  split_ifs <;> simp only [mark] <;> omega

theorem encode_char (c : Char) :
    String.utf8EncodeChar c =
      UInt8.ofNat (leading c.toNat) :: continuing (continuations c.toNat) c.toNat := by
  have bound := number_bound c
  have number : c.val.toNat = c.toNat := rfl
  simp only [String.utf8EncodeChar, number, leading, continuations]
  split_ifs
  · simp [mark, continuing]
  · have whole : c.toNat / 64 % 32 = c.toNat / 64 := by omega
    simp [mark, continuing, whole]
  · have whole : c.toNat / 4096 % 16 = c.toNat / 4096 := by omega
    simp [mark, continuing, whole]
  · have whole : c.toNat / 262144 % 8 = c.toNat / 262144 := by omega
    simp [mark, continuing, whole]

theorem first_byte_lt (a b : Nat) (less : a < b) (bound : b < 256) (s t : List UInt8) :
    UInt8.ofNat a :: s < UInt8.ofNat b :: t := by
  apply List.cons_lt_cons_iff.2
  left
  rw [UInt8.lt_iff_toNat_lt, UInt8.toNat_ofNat', UInt8.toNat_ofNat']
  omega

theorem digits_lt (unit a b : Nat) (less : a < b) :
    a / unit < b / unit ∨ a / unit = b / unit ∧ a % unit < b % unit := by
  have most : a / unit ≤ b / unit := Nat.div_le_div_right less.le
  rcases most.lt_or_eq with smaller | same
  · exact .inl smaller
  · have whole := Nat.div_add_mod a unit
    have other := Nat.div_add_mod b unit
    rw [same] at whole
    exact .inr ⟨same, by omega⟩

theorem continuing_lt (count a b : Nat) (less : a % 64 ^ count < b % 64 ^ count)
    (s t : List UInt8) : continuing count a ++ s < continuing count b ++ t := by
  induction count with
  | zero => simp [Nat.mod_one] at less
  | succ count ih =>
    have digit : ∀ number, number % 64 ^ (count + 1) / 64 ^ count = number / 64 ^ count % 64 := by
      intro number
      rw [pow_succ, Nat.mod_mul_right_div_self]
    have remainder : ∀ number, number % 64 ^ (count + 1) % 64 ^ count = number % 64 ^ count := by
      intro number
      rw [pow_succ, Nat.mod_mul_right_mod]
    have split := digits_lt (64 ^ count) _ _ less
    rw [digit, digit, remainder, remainder] at split
    rcases split with smaller | ⟨same, rest⟩
    · have bound : b / 64 ^ count % 64 < 64 := Nat.mod_lt _ (by decide)
      exact first_byte_lt _ _ (by omega) (by omega) _ _
    · rw [continuing, continuing, same]
      exact List.cons_lt_cons_iff.2 (.inr ⟨rfl, ih rest⟩)

theorem leading_lt (a b : Nat) (less : a < b) (different : continuations a ≠ continuations b) :
    leading a < leading b := by
  simp only [leading, continuations, ne_eq] at *
  split_ifs at * <;> simp only [mark] <;> omega

theorem encode_lt (c d : Char) (less : c < d) (s t : List UInt8) :
    String.utf8EncodeChar c ++ s < String.utf8EncodeChar d ++ t := by
  have smaller : c.toNat < d.toNat := less
  have bound := leading_bound d.toNat (number_bound d)
  rw [encode_char, encode_char]
  by_cases same : continuations c.toNat = continuations d.toNat
  · rcases digits_lt (64 ^ continuations d.toNat) _ _ smaller with first | ⟨equal, rest⟩
    · refine first_byte_lt _ _ ?_ bound _ _
      rw [leading, leading, same]
      omega
    · have firsts : leading c.toNat = leading d.toNat := by rw [leading, leading, same, equal]
      rw [firsts, same]
      exact List.cons_lt_cons_iff.2 (.inr ⟨rfl, continuing_lt _ _ _ rest s t⟩)
  · exact first_byte_lt _ _ (leading_lt _ _ smaller same) bound _ _

theorem bytes_encode (text : String) : bytes text = text.toList.flatMap String.utf8EncodeChar := by
  rw [bytes, ← String.utf8Encode_toList, List.utf8Encode, List.toList_data_toByteArray]

theorem encode_chars_lt (s t : List Char) (less : s < t) :
    s.flatMap String.utf8EncodeChar < t.flatMap String.utf8EncodeChar := by
  induction s generalizing t with
  | nil =>
    cases t with
    | nil => exact absurd less (List.lt_irrefl _)
    | cons d rest =>
      rw [List.flatMap_cons, encode_char]
      exact List.nil_lt_cons _ _
  | cons c rest ih =>
    cases t with
    | nil => exact absurd less (List.not_lt_nil _)
    | cons d others =>
      rw [List.flatMap_cons, List.flatMap_cons]
      rcases List.cons_lt_cons_iff.1 less with smaller | ⟨rfl, later⟩
      · exact encode_lt c d smaller _ _
      · exact List.append_left_lt (ih others later)

theorem bytes_lt (a b : String) : bytes a < bytes b ↔ a < b := by
  have forward : ∀ a b : String, a < b → bytes a < bytes b := by
    intro a b less
    rw [bytes_encode, bytes_encode]
    exact encode_chars_lt _ _ (String.lt_iff_toList_lt.1 less)
  constructor
  · intro less
    rcases lt_trichotomy a b with smaller | rfl | larger
    · exact smaller
    · exact absurd less (List.lt_irrefl _)
    · exact absurd (forward b a larger) (List.lt_asymm less)
  · exact forward a b

end Text

end TreeGrammar
