import TreeGrammar.Proofs.Position
import TreeGrammar.Proofs.Text.ByteOrder
set_option autoImplicit false

namespace TreeGrammar

namespace Text

def lineFeed : UInt8 := 0x0a

def encoded (text : List Char) : List UInt8 := text.flatMap String.utf8EncodeChar

theorem encoded_append (front back : List Char) :
    encoded (front ++ back) = encoded front ++ encoded back := List.flatMap_append

theorem encoded_length (text : List Char) : (encoded text).length = String.utf8Len text := by
  induction text with
  | nil => rfl
  | cons c rest ih =>
    rw [encoded, List.flatMap_cons, List.length_append, String.length_utf8EncodeChar,
      String.utf8Len_cons, Nat.add_comm]
    exact congrArg (· + c.utf8Size) ih

theorem feed_not_continuing (count number : Nat) : lineFeed ∉ continuing count number := by
  induction count with
  | zero => exact List.not_mem_nil
  | succ count ih =>
    intro member
    rcases List.mem_cons.1 member with first | later
    · have value := congrArg UInt8.toNat first
      have feed : lineFeed.toNat = 10 := rfl
      rw [feed, UInt8.toNat_ofNat'] at value
      omega
    · exact ih later

-- So lines can be counted in bytes as well as in characters.
theorem feed_encoded (c : Char) : lineFeed ∈ String.utf8EncodeChar c ↔ c = '\n' := by
  constructor
  · intro member
    rw [encode_char] at member
    rcases List.mem_cons.1 member with first | later
    · have value := congrArg UInt8.toNat first
      have bound := leading_bound c.toNat (number_bound c)
      rw [lineFeed, UInt8.toNat_ofNat', Nat.mod_eq_of_lt bound] at value
      have number : c.toNat = 10 := by
        simp only [leading, continuations] at value
        split_ifs at value <;> simp [mark] at value
        omega
      exact Char.toNat_inj.1 number
    · exact absurd later (feed_not_continuing _ _)
  · rintro rfl
    decide

theorem feeds_encoded (text : List Char) : (encoded text).count lineFeed = text.count '\n' := by
  induction text with
  | nil => rfl
  | cons c rest ih =>
    rw [encoded, List.flatMap_cons, List.count_append]
    by_cases feed : c = '\n'
    · subst feed
      rw [List.count_cons_self, Nat.add_comm]
      exact congrArg (· + 1) ih
    · have absent : lineFeed ∉ String.utf8EncodeChar c := fun member => feed ((feed_encoded c).1 member)
      rw [List.count_cons_of_ne feed, List.count_eq_zero_of_not_mem absent, Nat.zero_add]
      exact ih

theorem feed_not_begun (text : List Char) (count : Nat) (short : ∀ c ∈ text.head?, count < c.utf8Size) :
    lineFeed ∉ (encoded text).take count := by
  cases text with
  | nil =>
    rw [encoded, List.flatMap_nil, List.take_nil]
    exact List.not_mem_nil
  | cons c rest =>
    have less := short c rfl
    have within : count ≤ (String.utf8EncodeChar c).length := by
      rw [String.length_utf8EncodeChar]
      exact Nat.le_of_lt less
    rw [encoded, List.flatMap_cons, List.take_append_of_le_length within]
    intro member
    obtain rfl := (feed_encoded c).1 (List.mem_of_mem_take member)
    obtain rfl : count = 0 := Nat.lt_one_iff.1 less
    cases member

end Text

structure LineStart (text : String) (offset start : Nat) : Prop where
  before : start ≤ offset
  opened : start = 0 ∨ ∃ feed, start = feed + 1 ∧ (Text.bytes text)[feed]? = some Text.lineFeed
  unbroken : Text.lineFeed ∉ ((Text.bytes text).take offset).drop start

structure Position.Places (position : Position) (text : String) (offset : Nat) : Prop where
  line : position.line = 1 + ((Text.bytes text).take offset).count Text.lineFeed
  started : ∃! start, LineStart text offset start
  column : ∀ start, LineStart text offset start → position.column =
    if String.Pos.Raw.IsValid text ⟨offset⟩ then
      1 + (String.Pos.Raw.extract text ⟨start⟩ ⟨offset⟩).length
    else 1 + (offset - start)

theorem start_not_behind (text : String) (offset first second : Nat)
    (one : LineStart text offset first) (other : LineStart text offset second) :
    ¬ first < second := by
  intro less
  rcases other.opened with zero | ⟨feed, rfl, found⟩
  · omega
  · have before := other.before
    apply one.unbroken
    apply List.mem_of_getElem? (i := feed - first)
    rw [List.getElem?_drop, List.getElem?_take_of_lt (by omega), ← found]
    congr 1
    omega

theorem start_unique (text : String) (offset first second : Nat) (one : LineStart text offset first)
    (other : LineStart text offset second) : first = second := by
  have least := start_not_behind text offset first second one other
  have most := start_not_behind text offset second first other one
  omega

namespace Cut

section

variable {text : String} {stop : Nat} {lines line rest : List Char}
  (cut : Cut text.toList stop lines line rest)

include cut

theorem taken :
    ∃ part, Text.lineFeed ∉ part ∧ (Text.bytes text).take stop =
      Text.encoded lines ++ (Text.encoded line ++ part) := by
  have reached := cut.reached
  rw [← Text.encoded_length] at reached
  refine ⟨(Text.encoded rest).take (stop - (Text.encoded (lines ++ line)).length), ?_, ?_⟩
  · apply Text.feed_not_begun
    intro c next
    have before := cut.before c next
    rw [← Text.encoded_length] at before
    omega
  · rw [Text.bytes_encode, ← Text.encoded, cut.split, ← List.append_assoc, Text.encoded_append,
      List.take_append, List.take_of_length_le reached, Text.encoded_append, List.append_assoc]

theorem feeds : ((Text.bytes text).take stop).count Text.lineFeed = lines.count '\n' := by
  obtain ⟨part, unbroken, taken⟩ := cut.taken
  rw [taken, List.count_append, List.count_append, Text.feeds_encoded, Text.feeds_encoded,
    List.count_eq_zero_of_not_mem cut.unbroken, List.count_eq_zero_of_not_mem unbroken, Nat.add_zero]

theorem starts : LineStart text stop (String.utf8Len lines) := by
  refine ⟨cut.started, ?_, ?_⟩
  · rcases cut.ended with rfl | ⟨front, rfl⟩
    · exact .inl rfl
    · refine .inr ⟨String.utf8Len front, String.utf8Len_append _ _, ?_⟩
      rw [Text.bytes_encode, ← Text.encoded, cut.split, List.append_assoc, Text.encoded_append,
        ← Text.encoded_length, List.getElem?_append_right (Nat.le_refl _), Nat.sub_self]
      rfl
  · obtain ⟨part, unbroken, taken⟩ := cut.taken
    rw [taken, ← Text.encoded_length, List.drop_left]
    intro member
    rcases List.mem_append.1 member with inside | last
    · have counted := Text.feeds_encoded line
      rw [List.count_eq_zero_of_not_mem cut.unbroken, List.count_eq_zero] at counted
      exact counted inside
    · exact unbroken last

theorem places (offset : Nat) (clamped : stop = min offset text.utf8ByteSize) :
    (Position.ofOffset text offset).Places text stop := by
  rw [cut.position offset clamped]
  refine ⟨?_, ⟨_, cut.starts, fun other start => start_unique text stop _ _ start cut.starts⟩, ?_⟩
  · rw [cut.feeds, Nat.add_comm]
  · intro start opened
    obtain rfl := start_unique text stop _ _ opened cut.starts
    by_cases valid : String.Pos.Raw.IsValid text ⟨stop⟩
    · rw [if_pos valid, if_pos valid, cut.extracted valid, String.length_ofList]
      exact Nat.add_comm _ _
    · rw [if_neg valid, if_neg valid]
      exact Nat.add_comm _ _

end

end Cut

theorem offset_places (text : String) (offset : Nat) :
    (Position.ofOffset text offset).Places text (min offset text.utf8ByteSize) := by
  have bound : min offset text.utf8ByteSize ≤ String.utf8Len text.toList := by
    rw [String.utf8Len_toList]
    exact Nat.min_le_right _ _
  obtain ⟨lines, line, rest, cut⟩ := cut_at text.toList _ bound
  exact cut.places offset rfl

theorem end_of_offset (text : String) :
    Position.endOf text = Position.ofOffset text text.utf8ByteSize := by
  rw [position_end, ← String.utf8Len_toList,
    position_of_offset text text.toList [] (List.append_nil _).symm]

theorem boundaries_increase (text : String) (first second : Nat)
    (valid : String.Pos.Raw.IsValid text ⟨first⟩) (further : String.Pos.Raw.IsValid text ⟨second⟩)
    (less : first < second) : Position.ofOffset text first < Position.ofOffset text second := by
  obtain ⟨front, back, split, rfl⟩ := boundary_split text first valid
  obtain ⟨longer, rest, again, rfl⟩ := boundary_split text second further
  rw [position_of_offset text front back split, position_of_offset text longer rest again]
  rcases List.append_eq_append_iff.1 (split.symm.trans again) with ⟨more, rfl, _⟩ | ⟨more, rfl, _⟩
  · apply Position.after_lt
    rintro rfl
    rw [List.append_nil] at less
    exact Nat.lt_irrefl _ less
  · rw [String.utf8Len_append] at less
    omega

theorem offsets_are_placed (text : String) :
    (∀ offset, (Position.ofOffset text offset).Places text (min offset text.utf8ByteSize)) ∧
    Position.endOf text = Position.ofOffset text text.utf8ByteSize ∧
    (∀ offset index,
      ((LineTable.ofText text).lookup offset = .hit index →
        index < (LineTable.ofText text).starts.size) ∧
      ((LineTable.ofText text).lookup offset = .miss index →
        0 < index ∧ index ≤ (LineTable.ofText text).starts.size)) ∧
    ∀ first second, String.Pos.Raw.IsValid text ⟨first⟩ → String.Pos.Raw.IsValid text ⟨second⟩ →
      first < second → Position.ofOffset text first < Position.ofOffset text second :=
  ⟨offset_places text, end_of_offset text, LineTable.lookup_bounds text, boundaries_increase text⟩

def accented : String := "é\nbc"

-- Offset 1 is inside the first character, offset 9 beyond the end.
theorem accents_are_placed :
    (Position.Places ⟨1, 2⟩ accented 1 ∧ Position.Places ⟨2, 3⟩ accented 5) ∧
    ((LineTable.ofText accented).lookup 3 = .hit 1 ∧ 1 < (LineTable.ofText accented).starts.size) ∧
    ((LineTable.ofText accented).lookup 2 = .miss 1 ∧
      0 < 1 ∧ 1 ≤ (LineTable.ofText accented).starts.size) ∧
    (String.Pos.Raw.IsValid accented ⟨2⟩ ∧ String.Pos.Raw.IsValid accented ⟨4⟩ ∧
      (⟨1, 2⟩ : Position) < ⟨2, 2⟩) := by
  obtain ⟨places, _, bounds, increase⟩ := offsets_are_placed accented
  have inside : Position.ofOffset accented 1 = ⟨1, 2⟩ := by decide +kernel
  have beyond : Position.ofOffset accented 9 = ⟨2, 3⟩ := by decide +kernel
  have found : (LineTable.ofText accented).lookup 3 = .hit 1 := by decide +kernel
  have missed : (LineTable.ofText accented).lookup 2 = .miss 1 := by decide +kernel
  have feed : Position.ofOffset accented 2 = ⟨1, 2⟩ := by decide +kernel
  have second : Position.ofOffset accented 4 = ⟨2, 2⟩ := by decide +kernel
  have start : String.Pos.Raw.IsValid accented ⟨2⟩ := by decide
  have further : String.Pos.Raw.IsValid accented ⟨4⟩ := by decide
  have less := increase 2 4 start further (by decide)
  rw [feed, second] at less
  exact ⟨⟨inside ▸ places 1, beyond ▸ places 9⟩, ⟨found, (bounds 3 1).1 found⟩,
    ⟨missed, (bounds 2 1).2 missed⟩, start, further, less⟩

end TreeGrammar
