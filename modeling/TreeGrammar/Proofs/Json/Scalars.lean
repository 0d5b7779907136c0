import Mathlib.Data.List.Basic
import Mathlib.Data.Option.Basic
import TreeGrammar.Json
import TreeGrammar.Json.Reading
set_option autoImplicit false

namespace TreeGrammar

namespace Json

theorem pieces_unit (a b c d : Char) (rest : List Char) (value : Nat)
    (known : codeUnit? a b c d = some value) :
    pieces? ('\\' :: 'u' :: a :: b :: c :: d :: rest) =
      (pieces? rest).map fun found => (.unit value :: found.1, found.2) := by
  rw [pieces?, known]
  cases pieces? rest <;> rfl

theorem pieces_short (c plain : Char) (rest : List Char) (known : ofEscape? c = some plain) :
    pieces? ('\\' :: c :: rest) =
      (pieces? rest).map fun found => (.plain plain :: found.1, found.2) := by
  rw [pieces?, known]
  · cases pieces? rest <;> rfl
  · rintro _ _ _ _ _ rfl
    cases known

theorem pieces_plain (c : Char) (rest : List Char) (visible : 32 ≤ c.toNat) (unquoted : c ≠ '"')
    (unescaped : c ≠ '\\') :
    pieces? (c :: rest) = (pieces? rest).map fun found => (.plain c :: found.1, found.2) := by
  rw [pieces?]
  · rw [guard, if_pos ⟨visible, unescaped⟩]
    cases pieces? rest <;> rfl
  · exact unquoted
  · intro _ _ _ _ _ same
    exact absurd same unescaped
  · intro _ _ same
    exact absurd same unescaped

def piece (c : Char) : Piece :=
  if c.toNat < 32 ∧ c ∉ ['\x08', '\x0c', '\n', '\r', '\t'] then .unit c.toNat else .plain c

theorem control_unit (c : Char) (control : c.toNat < 32) :
    codeUnit? '0' '0' (Nat.digitChar (c.toNat / 16)) (Nat.digitChar (c.toNat % 16)) = some c.toNat := by
  have every : ∀ number < 32, codeUnit? '0' '0' (Nat.digitChar (number / 16))
      (Nat.digitChar (number % 16)) = some number := by decide
  exact every c.toNat control

theorem pieces_escape (c : Char) (rest : List Char) :
    pieces? (escape c ++ rest) = (pieces? rest).map fun found => (piece c :: found.1, found.2) := by
  by_cases short : c ∈ ['"', '\\', '\x08', '\x0c', '\n', '\r', '\t']
  · simp only [List.mem_cons, List.not_mem_nil, or_false] at short
    rcases short with rfl | rfl | rfl | rfl | rfl | rfl | rfl
    all_goals exact pieces_short _ _ rest rfl
  · simp only [List.mem_cons, List.not_mem_nil, or_false, not_or] at short
    obtain ⟨quote, backslash, back, form, line, carriage, tab⟩ := short
    rw [escape, if_neg quote, if_neg backslash, if_neg back, if_neg form, if_neg line,
      if_neg carriage, if_neg tab, piece]
    by_cases control : c.toNat < 32
    · rw [if_pos control, if_pos ⟨control, by simp [back, form, line, carriage, tab]⟩]
      exact pieces_unit _ _ _ _ rest c.toNat (control_unit c control)
    · rw [if_neg control, if_neg fun both => control both.1]
      exact pieces_plain c rest (Nat.le_of_not_lt control) quote backslash

theorem pieces_quoted (text rest : List Char) :
    pieces? (text.flatMap escape ++ '"' :: rest) = some (text.map piece, rest) := by
  induction text with
  | nil => rfl
  | cons c text ih =>
    rw [List.flatMap_cons, List.append_assoc, pieces_escape, ih]
    rfl

theorem spell_unit (value : Nat) (rest : List Piece) (low : value < 0xd800) :
    spell? (.unit value :: rest) = (Char.ofNat value :: ·) <$> spell? rest := by
  rw [spell?.eq_def]
  exact if_pos (.inl low)

theorem spell_pieces (text : List Char) : spell? (text.map piece) = some text := by
  induction text with
  | nil => rfl
  | cons c text ih =>
    rw [List.map_cons, piece]
    split
    · rename_i control
      rw [spell_unit _ _ (Nat.lt_trans control.1 (by decide)), ih, Char.ofNat_toNat]
      rfl
    · rw [spell?, ih]
      rfl

theorem string_quoted (text : String) (rest : List Char) :
    string? (text.toList.flatMap escape ++ '"' :: rest) = some (some text, rest) := by
  rw [string?, pieces_quoted, Option.map_some]
  dsimp only
  rw [spell_pieces, Option.map_some, String.ofList_toList]

theorem digits_unique (first second : Nat) (same : Nat.toDigits 10 first = Nat.toDigits 10 second) :
    first = second := by
  rw [← Nat.ofDigitChars_ten_toDigits (n := first), same, Nat.ofDigitChars_ten_toDigits]

theorem leading_digit (value : Nat) (positive : 0 < value) :
    (Nat.toDigits 10 value).head? ≠ some '0' := by
  induction value using Nat.strongRecOn with
  | ind value ih =>
    by_cases single : value < 10
    · have every : ∀ digit < 10, 0 < digit → Nat.digitChar digit ≠ '0' := by decide
      rw [Nat.toDigits_of_lt_base single]
      exact fun same => every value single positive (Option.some.inj same)
    · rw [Nat.toDigits_of_base_le (by decide) (Nat.le_of_not_lt single),
        List.head?_append_of_ne_nil _ Nat.toDigits_ne_nil]
      exact ih (value / 10) (by omega) (by omega)

theorem no_leading_zero (value : Nat) (digit : Char) (more : List Char) :
    Nat.toDigits 10 value ≠ '0' :: digit :: more := by
  intro same
  rcases Nat.eq_zero_or_pos value with rfl | positive
  · rw [Nat.toDigits_zero] at same
    cases same
  · have leading := leading_digit value positive
    rw [same] at leading
    exact leading rfl

def Ends (rest : List Char) : Prop :=
  ∀ c ∈ rest.head?, c.isDigit = false ∧ c ≠ '.' ∧ c ≠ 'e' ∧ c ≠ 'E'

theorem digits_append (found rest : List Char) (digit : ∀ c ∈ found, c.isDigit = true)
    (ends : Ends rest) : digits (found ++ rest) = (found, rest) := by
  rw [digits, List.takeWhile_append_of_pos digit, List.dropWhile_append_of_pos digit]
  cases rest with
  | nil => simp
  | cons c rest => simp [ends c rfl]

theorem exponent_absent (rest : List Char) (ends : Ends rest) :
    exponent? rest = some (none, rest) := by
  cases rest with
  | nil => rfl
  | cons c rest =>
    obtain ⟨_, _, small, large⟩ := ends c rfl
    rw [exponent?.eq_def]
    exact if_neg fun either => either.elim small large

theorem number_written (value : Nat) (rest : List Char) (ends : Ends rest) :
    number? false (Nat.toDigits 10 value ++ rest) =
      some (⟨false, Nat.toDigits 10 value, [], none⟩, rest) := by
  have digit : ∀ c ∈ Nat.toDigits 10 value, c.isDigit = true :=
    fun c => Nat.isDigit_of_mem_toDigits (by decide) (by decide)
  rw [number?, digits_append _ rest digit ends]
  split
  · rename_i empty
    exact absurd (congrArg Prod.fst empty) Nat.toDigits_ne_nil
  · rename_i zero
    exact absurd (congrArg Prod.fst zero) (no_leading_zero value _ _)
  · rename_i point
    cases point
    exact absurd rfl (ends '.' rfl).2.1
  · rename_i whole
    cases whole
    rw [exponent_absent rest ends]
    rfl

end Json

end TreeGrammar
