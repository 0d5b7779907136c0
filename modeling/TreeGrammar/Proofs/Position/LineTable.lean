import Mathlib.Data.List.Induction
import Mathlib.Data.String.Basic
import TreeGrammar.Position
set_option autoImplicit false

namespace TreeGrammar

namespace Lookup

def Correct (table : Array Nat) (key : Nat) : Lookup → Prop
  | hit index => ∃ _ : index < table.size, table[index] = key
  | miss index => index ≤ table.size ∧
      (∀ i (_ : i < table.size), i < index → table[i] < key) ∧
      ∀ i (_ : i < table.size), index ≤ i → key < table[i]

structure Last (table : Array Nat) (key index : Nat) : Prop where
  inside : index < table.size
  reached : table[index] ≤ key
  exceeded : ∀ i (_ : i < table.size), index < i → key < table[i]

def Ascending (table : Array Nat) : Prop :=
  ∀ i j (_ : i < j) (_ : j < table.size), table[i] < table[j]

theorem search_correct (table : Array Nat) (key low high : Nat) (within : high ≤ table.size)
    (ascending : Ascending table) (ordered : low ≤ high)
    (below : ∀ i (_ : i < table.size), i < low → table[i] < key)
    (above : ∀ i (_ : i < table.size), high ≤ i → key < table[i]) :
    (search table key low high within).Correct table key := by
  induction low, high, within using search.induct table key with
  | case1 low high within window middle inside same =>
    rw [search, dif_pos window, if_pos same]
    exact ⟨inside, same⟩
  | case2 low high within window middle inside different less ih =>
    rw [search, dif_pos window, if_neg different, if_pos less]
    refine ih (by omega) ?_ above
    intro i bound earlier
    rcases Nat.lt_succ_iff_lt_or_eq.1 earlier with before | rfl
    · exact Nat.lt_trans (ascending i middle before inside) less
    · exact less
  | case3 low high within window middle inside different more ih =>
    rw [search, dif_pos window, if_neg different, if_neg more]
    have greater : key < table[middle] := by omega
    refine ih (by omega) below ?_
    intro i bound later
    rcases Nat.lt_or_eq_of_le later with behind | rfl
    · exact Nat.lt_trans greater (ascending middle i behind bound)
    · exact greater
  | case4 low high within closed =>
    rw [search, dif_neg closed]
    obtain rfl : low = high := by omega
    exact ⟨within, below, above⟩

theorem miss_positive (table : Array Nat) (key index : Nat) (filled : 0 < table.size)
    (first : table[0] ≤ key) (correct : (miss index).Correct table key) : 0 < index := by
  by_contra none
  have exceeded := correct.2.2 0 filled (by omega)
  omega

theorem correct_last (table : Array Nat) (key : Nat) (found : Lookup) (ascending : Ascending table)
    (filled : 0 < table.size) (first : table[0] ≤ key) (correct : found.Correct table key) :
    Last table key found.last := by
  cases found with
  | hit index =>
    obtain ⟨inside, same⟩ := correct
    refine ⟨inside, Nat.le_of_eq same, ?_⟩
    intro i bound behind
    rw [← same]
    exact ascending index i behind bound
  | miss index =>
    have positive := miss_positive table key index filled first correct
    obtain ⟨bound, below, above⟩ := correct
    have inside : index - 1 < table.size := by omega
    refine ⟨inside, Nat.le_of_lt (below (index - 1) inside (by omega)), ?_⟩
    intro i present behind
    exact above i present (by rw [last] at behind; omega)

theorem last_not_behind (table : Array Nat) (key first second : Nat) (one : Last table key first)
    (other : Last table key second) : ¬ first < second := by
  intro less
  have exceeded := one.exceeded second other.inside less
  have reached := other.reached
  omega

theorem last_unique (table : Array Nat) (key first second : Nat) (one : Last table key first)
    (other : Last table key second) : first = second := by
  have least := last_not_behind table key first second one other
  have most := last_not_behind table key second first other one
  omega

theorem last_split (before after : List Nat) (entry key : Nat) (reached : entry ≤ key)
    (exceeded : ∀ later ∈ after, key < later) :
    Last (before ++ entry :: after).toArray key before.length := by
  refine ⟨by simp, by simpa using reached, ?_⟩
  intro i bound behind
  obtain ⟨further, rfl⟩ := Nat.exists_eq_add_of_lt behind
  apply exceeded
  rw [List.getElem_toArray, List.getElem_append_right (by omega)]
  simp only [Nat.add_assoc, Nat.add_sub_cancel_left, List.getElem_cons_succ]
  exact List.getElem_mem _

end Lookup

namespace LineTable

theorem starts_of_text (text : String) :
    (ofText text).starts = (0 :: startsFrom 0 text.toList).toArray := rfl

theorem text_of_text (text : String) : (ofText text).text = text := rfl

theorem starts_append (offset : Nat) (front back : List Char) :
    startsFrom offset (front ++ back) =
      startsFrom offset front ++ startsFrom (offset + String.utf8Len front) back := by
  induction front generalizing offset with
  | nil => rfl
  | cons c front ih =>
    have next : offset + c.utf8Size + String.utf8Len front = offset + String.utf8Len (c :: front) := by
      rw [String.utf8Len_cons]
      omega
    by_cases feed : c = '\n'
    · rw [List.cons_append, startsFrom, if_pos feed, startsFrom, if_pos feed, ih, next]
      rfl
    · rw [List.cons_append, startsFrom, if_neg feed, startsFrom, if_neg feed, ih, next]

theorem starts_length (offset : Nat) (text : List Char) :
    (startsFrom offset text).length = text.count '\n' := by
  induction text generalizing offset with
  | nil => rfl
  | cons c rest ih =>
    by_cases feed : c = '\n'
    · rw [startsFrom, if_pos feed, List.length_cons, ih, feed, List.count_cons_self]
    · rw [startsFrom, if_neg feed, ih, List.count_cons_of_ne feed]

theorem starts_unbroken (offset : Nat) (line : List Char) (unbroken : '\n' ∉ line) :
    startsFrom offset line = [] := by
  apply List.eq_nil_of_length_eq_zero
  rw [starts_length, List.count_eq_zero_of_not_mem unbroken]

theorem mem_starts (offset : Nat) (c : Char) (rest : List Char) (start : Nat) :
    start ∈ startsFrom offset (c :: rest) ↔
      c = '\n' ∧ start = offset + 1 ∨ start ∈ startsFrom (offset + c.utf8Size) rest := by
  by_cases feed : c = '\n'
  · simp [startsFrom, feed]
  · simp [startsFrom, feed]

theorem starts_after (offset : Nat) (text : List Char) :
    ∀ start ∈ startsFrom offset text, offset < start := by
  induction text generalizing offset with
  | nil => exact fun _ member => absurd member List.not_mem_nil
  | cons c rest ih =>
    intro start member
    rcases (mem_starts offset c rest start).1 member with ⟨_, rfl⟩ | later
    · exact Nat.lt_succ_self offset
    · have after := ih (offset + c.utf8Size) start later
      omega

theorem starts_behind (offset : Nat) (c : Char) (rest : List Char) :
    ∀ start ∈ startsFrom offset (c :: rest), offset + c.utf8Size ≤ start := by
  intro start member
  rcases (mem_starts offset c rest start).1 member with ⟨rfl, rfl⟩ | later
  · exact Nat.le_refl _
  · exact Nat.le_of_lt (starts_after _ rest start later)

theorem starts_ascending (offset : Nat) (text : List Char) :
    (offset :: startsFrom offset text).Pairwise (· < ·) := by
  refine List.pairwise_cons.2 ⟨starts_after offset text, ?_⟩
  induction text generalizing offset with
  | nil => exact .nil
  | cons c rest ih =>
    by_cases feed : c = '\n'
    · subst feed
      rw [startsFrom, if_pos rfl]
      exact List.pairwise_cons.2 ⟨starts_after (offset + 1) rest, ih (offset + 1)⟩
    · rw [startsFrom, if_neg feed]
      exact ih (offset + c.utf8Size)

theorem ascending (text : String) : Lookup.Ascending (ofText text).starts := by
  intro i j less inside
  exact List.pairwise_iff_getElem.1 (starts_ascending 0 text.toList) i j _ _ less

theorem lookup_correct (text : String) (offset : Nat) :
    ((ofText text).lookup offset).Correct (ofText text).starts offset := by
  refine Lookup.search_correct _ offset 0 _ _ (ascending text) (Nat.zero_le _) nofun ?_
  intro i inside outside
  omega

theorem lookup_last (text : String) (offset : Nat) :
    Lookup.Last (ofText text).starts offset ((ofText text).lookup offset).last :=
  Lookup.correct_last _ offset _ (ascending text) (ofText text).filled (Nat.zero_le _)
    (lookup_correct text offset)

theorem lookup_bounds (text : String) (offset index : Nat) :
    ((ofText text).lookup offset = .hit index → index < (ofText text).starts.size) ∧
      ((ofText text).lookup offset = .miss index → 0 < index ∧ index ≤ (ofText text).starts.size) := by
  have correct := lookup_correct text offset
  constructor
  · intro found
    rw [found] at correct
    exact correct.1
  · intro found
    rw [found] at correct
    exact ⟨Lookup.miss_positive _ offset index (ofText text).filled (Nat.zero_le _) correct, correct.1⟩

end LineTable

-- What follows starts at the offset, or with the character that the offset is inside of.
structure Cut (text : List Char) (stop : Nat) (lines line rest : List Char) : Prop where
  split : text = lines ++ (line ++ rest)
  ended : lines = [] ∨ ∃ front, lines = front ++ ['\n']
  unbroken : '\n' ∉ line
  reached : String.utf8Len (lines ++ line) ≤ stop
  before : ∀ c ∈ rest.head?, stop < String.utf8Len (lines ++ line) + c.utf8Size

theorem last_line (text : List Char) :
    ∃ lines line, text = lines ++ line ∧ (lines = [] ∨ ∃ front, lines = front ++ ['\n']) ∧
      '\n' ∉ line := by
  induction text using List.reverseRecOn with
  | nil => exact ⟨[], [], rfl, .inl rfl, List.not_mem_nil⟩
  | append_singleton front c ih =>
    by_cases feed : c = '\n'
    · subst feed
      exact ⟨front ++ ['\n'], [], (List.append_nil _).symm, .inr ⟨front, rfl⟩, List.not_mem_nil⟩
    · obtain ⟨lines, line, rfl, ended, unbroken⟩ := ih
      refine ⟨lines, line ++ [c], List.append_assoc .., ended, ?_⟩
      intro member
      rcases List.mem_append.1 member with inside | last
      · exact unbroken inside
      · exact feed (List.mem_singleton.1 last).symm

theorem cut_between (front back : List Char) :
    ∃ lines line, front = lines ++ line ∧
      Cut (front ++ back) (String.utf8Len front) lines line back := by
  obtain ⟨lines, line, rfl, ended, unbroken⟩ := last_line front
  refine ⟨lines, line, rfl, List.append_assoc .., ended, unbroken, Nat.le_refl _, ?_⟩
  intro c _
  have wide := c.utf8Size_pos
  omega

theorem reached_characters (text : List Char) (stop : Nat) (bound : stop ≤ String.utf8Len text) :
    ∃ front rest, text = front ++ rest ∧ String.utf8Len front ≤ stop ∧
      ∀ c ∈ rest.head?, stop < String.utf8Len front + c.utf8Size := by
  induction text generalizing stop with
  | nil => exact ⟨[], [], rfl, Nat.zero_le _, nofun⟩
  | cons c text ih =>
    rw [String.utf8Len_cons] at bound
    by_cases inside : stop < c.utf8Size
    · refine ⟨[], c :: text, rfl, Nat.zero_le _, ?_⟩
      intro d first
      cases first
      simpa using inside
    · obtain ⟨front, rest, rfl, reached, before⟩ := ih (stop - c.utf8Size) (by omega)
      refine ⟨c :: front, rest, rfl, ?_, ?_⟩
      · rw [String.utf8Len_cons]
        omega
      · intro d first
        have further := before d first
        rw [String.utf8Len_cons]
        omega

theorem cut_at (text : List Char) (stop : Nat) (bound : stop ≤ String.utf8Len text) :
    ∃ lines line rest, Cut text stop lines line rest := by
  obtain ⟨front, rest, split, reached, before⟩ := reached_characters text stop bound
  obtain ⟨lines, line, rfl, ended, unbroken⟩ := last_line front
  exact ⟨lines, line, rest, by rw [split, List.append_assoc], ended, unbroken, reached, before⟩

theorem boundary (text : String) (front back : List Char) (split : text.toList = front ++ back) :
    String.Pos.Raw.IsValid text ⟨String.utf8Len front⟩ := by
  refine String.Pos.Raw.isValid_iff_exists_append.2 ⟨.ofList front, .ofList back, ?_, ?_⟩
  · rw [← String.ofList_append, ← split, String.ofList_toList]
  · exact (String.rawEndPos_ofList front).symm

theorem boundary_split (text : String) (offset : Nat)
    (valid : String.Pos.Raw.IsValid text ⟨offset⟩) :
    ∃ front back, text.toList = front ++ back ∧ offset = String.utf8Len front := by
  obtain ⟨front, back, rfl, same⟩ := String.Pos.Raw.isValid_iff_exists_append.1 valid
  refine ⟨front.toList, back.toList, String.toList_append, ?_⟩
  rw [String.utf8Len_toList]
  exact congrArg String.Pos.Raw.byteIdx same

namespace Cut

section

variable {text : String} {stop : Nat} {lines line rest : List Char}
  (cut : Cut text.toList stop lines line rest)

include cut

theorem valid_iff : String.Pos.Raw.IsValid text ⟨stop⟩ ↔ stop = String.utf8Len (lines ++ line) := by
  have split : text.toList = (lines ++ line) ++ rest := by rw [cut.split, List.append_assoc]
  constructor
  · intro valid
    obtain ⟨front, back, again, rfl⟩ := boundary_split text stop valid
    have reached := cut.reached
    rcases List.append_eq_append_iff.1 (split.symm.trans again) with ⟨more, rfl, same⟩ | ⟨more, same, _⟩
    · cases more with
      | nil => rw [List.append_nil]
      | cons c more =>
        have before := cut.before c (by rw [same]; rfl)
        simp only [String.utf8Len_append, String.utf8Len_cons] at before
        omega
    · rw [same, String.utf8Len_append] at reached ⊢
      omega
  · intro same
    rw [same]
    exact boundary text _ rest split

theorem table_split :
    ∃ before, before.length = lines.count '\n' ∧ (LineTable.ofText text).starts =
      (before ++ String.utf8Len lines ::
        LineTable.startsFrom (String.utf8Len (lines ++ line)) rest).toArray := by
  rw [LineTable.starts_of_text, cut.split, LineTable.starts_append, LineTable.starts_append,
    LineTable.starts_unbroken _ line cut.unbroken, String.utf8Len_append, Nat.zero_add]
  rcases cut.ended with rfl | ⟨front, rfl⟩
  · exact ⟨[], rfl, rfl⟩
  · refine ⟨0 :: LineTable.startsFrom 0 front, ?_, ?_⟩
    · rw [List.length_cons, LineTable.starts_length, List.count_append]
      rfl
    · have feed : ('\n' : Char).utf8Size = 1 := rfl
      rw [LineTable.starts_append]
      simp [LineTable.startsFrom, feed]

theorem later_starts :
    ∀ start ∈ LineTable.startsFrom (String.utf8Len (lines ++ line)) rest, stop < start := by
  intro start member
  cases following : rest with
  | nil =>
    rw [following] at member
    cases member
  | cons c others =>
    have before := cut.before c (by rw [following]; rfl)
    rw [following] at member
    have behind := LineTable.starts_behind _ c others start member
    omega

theorem started : String.utf8Len lines ≤ stop := by
  have reached := cut.reached
  rw [String.utf8Len_append] at reached
  omega

theorem lookup_line : ((LineTable.ofText text).lookup stop).last = lines.count '\n' := by
  obtain ⟨before, length, table⟩ := cut.table_split
  have last := Lookup.last_split before _ _ stop cut.started cut.later_starts
  rw [← table, length] at last
  exact Lookup.last_unique _ stop _ _ (LineTable.lookup_last text stop) last

theorem line_start (inside : lines.count '\n' < (LineTable.ofText text).starts.size) :
    (LineTable.ofText text).starts[lines.count '\n'] = String.utf8Len lines := by
  obtain ⟨before, length, table⟩ := cut.table_split
  simp only [table, ← length]
  simp

theorem extracted (valid : String.Pos.Raw.IsValid text ⟨stop⟩) :
    String.Pos.Raw.extract text ⟨String.utf8Len lines⟩ ⟨stop⟩ = String.ofList line := by
  have part := String.extract_of_valid lines line rest
  rw [List.append_assoc, ← cut.split, String.ofList_toList, ← String.utf8Len_append,
    ← cut.valid_iff.1 valid] at part
  exact part

theorem slice :
    (LineTable.ofText text).slice? (String.utf8Len lines) stop =
      if String.Pos.Raw.IsValid text ⟨stop⟩ then some (String.ofList line) else none := by
  have start := boundary text lines (line ++ rest) cut.split
  by_cases valid : String.Pos.Raw.IsValid text ⟨stop⟩
  · rw [if_pos valid, LineTable.slice?, if_pos ⟨cut.started, start, valid⟩]
    exact congrArg some (cut.extracted valid)
  · rw [if_neg valid, LineTable.slice?, if_neg fun all => valid all.2.2]

theorem position (offset : Nat) (clamped : stop = min offset text.utf8ByteSize) :
    Position.ofOffset text offset = ⟨lines.count '\n' + 1,
      (if String.Pos.Raw.IsValid text ⟨stop⟩ then line.length else stop - String.utf8Len lines) + 1⟩ := by
  subst clamped
  rw [Position.ofOffset, LineTable.position]
  simp only [LineTable.text_of_text, cut.lookup_line, cut.line_start, cut.slice]
  by_cases valid : String.Pos.Raw.IsValid text ⟨min offset text.utf8ByteSize⟩
  · simp [valid]
  · simp [valid]

end

end Cut

end TreeGrammar
