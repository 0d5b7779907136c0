set_option autoImplicit false

namespace TreeGrammar

-- Sorted by name, a map has one representation. Names are compared character by character, which
-- for UTF-8 text is the order of the bytes.
structure NameMap (α : Type) where
  entries : List (String × α)
  ordered : entries.Pairwise fun a b => a.1 < b.1
deriving DecidableEq

namespace NameMap

variable {α β : Type}

def empty : NameMap α := ⟨[], .nil⟩

instance : EmptyCollection (NameMap α) := ⟨empty⟩
instance : Inhabited (NameMap α) := ⟨empty⟩

def get? (map : NameMap α) (name : String) : Option α := map.entries.lookup name

def contains (map : NameMap α) (name : String) : Bool := (map.get? name).isSome

def names (map : NameMap α) : List String := map.entries.map (·.1)

def size (map : NameMap α) : Nat := map.entries.length

def alterEntries (name : String) (change : Option α → α) : List (String × α) → List (String × α)
  | [] => [(name, change none)]
  | (key, value) :: rest =>
    if name < key then (name, change none) :: (key, value) :: rest
    else if name = key then (key, change (some value)) :: rest
    else (key, value) :: alterEntries name change rest

theorem fst_of_mem_alterEntries {name : String} {change : Option α → α} {entry : String × α}
    {entries : List (String × α)} (member : entry ∈ alterEntries name change entries) :
    entry.1 = name ∨ entry ∈ entries := by
  induction entries with
  | nil => simp_all [alterEntries]
  | cons head rest ih =>
    obtain ⟨key, value⟩ := head
    rw [alterEntries] at member
    split at member
    · rcases List.mem_cons.1 member with rfl | old
      · exact .inl rfl
      · exact .inr old
    · split at member
      · rename_i same
        rcases List.mem_cons.1 member with rfl | old
        · exact .inl same.symm
        · exact .inr (.tail _ old)
      · rcases List.mem_cons.1 member with rfl | old
        · exact .inr (.head _)
        · exact (ih old).imp id (.tail _)

theorem lt_of_not_lt_of_ne {a b : String} (notLess : ¬ a < b) (different : a ≠ b) : b < a := by
  rcases Decidable.em (b < a) with less | notGreater
  · exact less
  · exact absurd (String.le_antisymm (String.not_lt.1 notGreater) (String.not_lt.1 notLess)) different

theorem ordered_alterEntries (name : String) (change : Option α → α) {entries : List (String × α)}
    (ordered : entries.Pairwise fun a b => a.1 < b.1) :
    (alterEntries name change entries).Pairwise fun a b => a.1 < b.1 := by
  induction entries with
  | nil => simp [alterEntries]
  | cons head rest ih =>
    obtain ⟨key, value⟩ := head
    have ⟨below, tailOrdered⟩ := List.pairwise_cons.1 ordered
    rw [alterEntries]
    split
    · rename_i less
      refine List.pairwise_cons.2 ⟨fun entry member => ?_, ordered⟩
      rcases List.mem_cons.1 member with rfl | old
      · exact less
      · exact String.lt_trans less (below entry old)
    · rename_i notLess
      split
      · exact List.pairwise_cons.2 ⟨below, tailOrdered⟩
      · rename_i different
        refine List.pairwise_cons.2 ⟨fun entry member => ?_, ih tailOrdered⟩
        rcases fst_of_mem_alterEntries member with same | old
        · exact same ▸ lt_of_not_lt_of_ne notLess different
        · exact below entry old

def alter (map : NameMap α) (name : String) (change : Option α → α) : NameMap α :=
  ⟨alterEntries name change map.entries, ordered_alterEntries name change map.ordered⟩

def insert (map : NameMap α) (name : String) (value : α) : NameMap α := map.alter name fun _ => value

theorem lookup_eq_none_of_lt {name : String} {entries : List (String × α)}
    (above : ∀ entry ∈ entries, name < entry.1) : entries.lookup name = none := by
  induction entries with
  | nil => rfl
  | cons head rest ih =>
    obtain ⟨key, value⟩ := head
    have different : name ≠ key := fun same =>
      String.lt_irrefl name (by simpa [← same] using above (key, value) (.head _))
    rw [List.lookup_cons, beq_false_of_ne different]
    exact ih fun entry member => above entry (.tail _ member)

theorem lookup_alterEntries (name other : String) (change : Option α → α)
    {entries : List (String × α)} (ordered : entries.Pairwise fun a b => a.1 < b.1) :
    (alterEntries name change entries).lookup other =
      if other = name then some (change (entries.lookup name)) else entries.lookup other := by
  induction entries with
  | nil =>
    by_cases same : other = name
    · simp [alterEntries, same]
    · simp [alterEntries, List.lookup_cons, same, beq_false_of_ne same]
  | cons head rest ih =>
    obtain ⟨key, value⟩ := head
    have ⟨below, tailOrdered⟩ := List.pairwise_cons.1 ordered
    rw [alterEntries]
    split
    · rename_i less
      have absent : ((key, value) :: rest).lookup name = none := by
        refine lookup_eq_none_of_lt fun entry member => ?_
        rcases List.mem_cons.1 member with rfl | old
        · exact less
        · exact String.lt_trans less (below entry old)
      by_cases same : other = name
      · simp [same, absent]
      · simp [List.lookup_cons, same, beq_false_of_ne same]
    · split
      · rename_i same
        subst same
        by_cases target : other = name
        · simp [target]
        · simp [List.lookup_cons, target, beq_false_of_ne target]
      · rename_i different
        by_cases here : other = key
        · have apart : key ≠ name := fun same => different same.symm
          simp [here, apart]
        · rw [List.lookup_cons, beq_false_of_ne here, List.lookup_cons, beq_false_of_ne different,
            List.lookup_cons, beq_false_of_ne here]
          exact ih tailOrdered

@[simp] theorem get?_empty (name : String) : (empty : NameMap α).get? name = none := rfl

theorem get?_alter (map : NameMap α) (name other : String) (change : Option α → α) :
    (map.alter name change).get? other =
      if other = name then some (change (map.get? name)) else map.get? other :=
  lookup_alterEntries name other change map.ordered

theorem get?_insert (map : NameMap α) (name other : String) (value : α) :
    (map.insert name value).get? other = if other = name then some value else map.get? other :=
  get?_alter map name other _

theorem get?_of_mem {map : NameMap α} {name : String} {value : α}
    (member : (name, value) ∈ map.entries) : map.get? name = some value := by
  obtain ⟨entries, ordered⟩ := map
  induction entries with
  | nil => simp at member
  | cons head rest ih =>
    obtain ⟨key, first⟩ := head
    have ⟨below, tailOrdered⟩ := List.pairwise_cons.1 ordered
    rcases List.mem_cons.1 member with same | old
    · cases same
      simp [get?]
    · have different : name ≠ key := fun same =>
        String.lt_irrefl name (by simpa [← same] using below (name, value) old)
      have found := ih tailOrdered old
      simp only [get?] at found ⊢
      rw [List.lookup_cons, beq_false_of_ne different]
      exact found

theorem mem_of_get? {map : NameMap α} {name : String} {value : α}
    (found : map.get? name = some value) : (name, value) ∈ map.entries := by
  obtain ⟨entries, ordered⟩ := map
  simp only [get?] at found ⊢
  clear ordered
  induction entries with
  | nil => simp at found
  | cons head rest ih =>
    obtain ⟨key, first⟩ := head
    rw [List.lookup_cons] at found
    split at found
    · rename_i same
      cases found
      rw [eq_of_beq same]
      exact .head _
    · exact .tail _ (ih found)

theorem mem_entries_iff {map : NameMap α} {name : String} {value : α} :
    (name, value) ∈ map.entries ↔ map.get? name = some value :=
  ⟨get?_of_mem, mem_of_get?⟩

theorem mem_names_of_contains (map : NameMap α) (name : String) (known : map.contains name = true) :
    name ∈ map.names := by
  obtain ⟨value, found⟩ := Option.isSome_iff_exists.1 known
  exact List.mem_map_of_mem (mem_of_get? found)

def map (source : NameMap α) (change : α → β) : NameMap β :=
  ⟨source.entries.map fun entry => (entry.1, change entry.2),
    List.pairwise_map.2 source.ordered⟩

end NameMap

end TreeGrammar
