import Mathlib.Data.List.Basic
import TreeGrammar.Definition.Contexts
import TreeGrammar.Proofs.Text.ByteOrder
set_option autoImplicit false

namespace TreeGrammar

namespace NameMap

variable {α : Type}

def All (holds : α → Prop) (map : NameMap α) : Prop :=
  ∀ name value, map.get? name = some value → holds value

theorem all_alter (holds : α → Prop) (map : NameMap α) (name : String) (change : Option α → α)
    (before : map.All holds) (changed : holds (change (map.get? name))) :
    (map.alter name change).All holds := by
  intro other value found
  rw [get?_alter] at found
  by_cases here : other = name
  · rw [if_pos here] at found
    rw [← Option.some.inj found]
    exact changed
  · rw [if_neg here] at found
    exact before other value found

theorem alter_ne_empty (map : NameMap α) (name : String) (change : Option α → α) :
    map.alter name change ≠ ∅ := by
  intro empty
  have found := map.get?_alter name name change
  rw [if_pos rfl, empty] at found
  cases found

theorem exists_of_ne_empty (map : NameMap α) (filled : map ≠ ∅) :
    ∃ name value, map.get? name = some value := by
  obtain ⟨entries, ordered⟩ := map
  cases entries with
  | nil => exact absurd rfl filled
  | cons entry rest => exact ⟨entry.1, entry.2, get?_of_mem (.head _)⟩

end NameMap

namespace Tags

theorem mem_add (multiplicity other : Multiplicity) (tags : Tags) :
    other ∈ tags.add multiplicity ↔ other = multiplicity ∨ other ∈ tags := by
  have listed := Multiplicity.mem_all other
  simp [add, listed]

end Tags

namespace Contexts

def tags (contexts : Contexts) (target source : String) : Tags :=
  ((contexts.get? target).bind (·.get? source)).getD []

def Filled (contexts : Contexts) : Prop :=
  contexts.All fun sources => sources ≠ ∅ ∧ sources.All fun tags => tags ≠ []

theorem tags_add (contexts : Contexts) (source : String) (reference : Reference)
    (target other : String) :
    (contexts.add source reference).tags target other =
      if target = reference.name ∧ other = source then
        Tags.add reference.multiplicity (contexts.tags target other)
      else contexts.tags target other := by
  rw [tags, add, NameMap.get?_alter]
  by_cases here : target = reference.name
  · rw [if_pos here, Option.bind_some, NameMap.get?_alter]
    have known : contexts.tags target other =
        (((contexts.get? reference.name).getD ∅).get? other).getD [] := by
      rw [tags, here]
      cases contexts.get? reference.name <;> rfl
    by_cases same : other = source
    · rw [if_pos same, if_pos ⟨here, same⟩, known, same]
      rfl
    · rw [if_neg same, if_neg fun both => same both.2, known]
  · rw [if_neg here, if_neg fun both => here both.1]
    rfl

theorem mem_tags_add (contexts : Contexts) (source : String) (reference : Reference)
    (target other : String) (multiplicity : Multiplicity) :
    multiplicity ∈ (contexts.add source reference).tags target other ↔
      (other, Reference.mk target multiplicity) = (source, reference) ∨
        multiplicity ∈ contexts.tags target other := by
  rw [tags_add]
  by_cases here : target = reference.name ∧ other = source
  · obtain ⟨rfl, rfl⟩ := here
    cases reference
    simp [Tags.mem_add]
  · rw [if_neg here]
    constructor
    · exact .inr
    · intro either
      rcases either with same | old
      · cases same
        exact absurd ⟨rfl, rfl⟩ here
      · exact old

theorem filled_add (contexts : Contexts) (filled : contexts.Filled) (source : String)
    (reference : Reference) : (contexts.add source reference).Filled := by
  apply NameMap.all_alter _ _ _ _ filled
  refine ⟨NameMap.alter_ne_empty _ _ _, ?_⟩
  apply NameMap.all_alter
  · cases found : contexts.get? reference.name with
    | none =>
      intro name tags absent
      cases absent
    | some sources => exact (filled _ sources found).2
  · exact List.ne_nil_of_mem ((Tags.mem_add _ _ _).2 (.inl rfl))

def addAll (contexts : Contexts) (sites : List (String × Reference)) : Contexts :=
  sites.foldl (fun contexts site => contexts.add site.1 site.2) contexts

theorem mem_tags_add_all (sites : List (String × Reference)) (contexts : Contexts)
    (target source : String) (multiplicity : Multiplicity) :
    multiplicity ∈ (contexts.addAll sites).tags target source ↔
      (source, Reference.mk target multiplicity) ∈ sites ∨
        multiplicity ∈ contexts.tags target source := by
  induction sites generalizing contexts with
  | nil => simp [addAll]
  | cons site rest ih =>
    have step := contexts.mem_tags_add site.1 site.2 target source multiplicity
    have run := ih (contexts.add site.1 site.2)
    rw [step] at run
    rw [addAll, List.foldl_cons, List.mem_cons, or_assoc, or_left_comm]
    exact run

theorem filled_add_all (sites : List (String × Reference)) (contexts : Contexts)
    (filled : contexts.Filled) : (contexts.addAll sites).Filled := by
  induction sites generalizing contexts with
  | nil => exact filled
  | cons site rest ih => exact ih _ (contexts.filled_add filled site.1 site.2)

theorem contains_filled (contexts : Contexts) (filled : contexts.Filled) (target : String) :
    contexts.contains target = true ↔
      ∃ source multiplicity, multiplicity ∈ contexts.tags target source := by
  constructor
  · intro listed
    obtain ⟨sources, found⟩ := Option.isSome_iff_exists.1 listed
    obtain ⟨inhabited, multiple⟩ := filled target sources found
    obtain ⟨source, tags, stands⟩ := sources.exists_of_ne_empty inhabited
    obtain ⟨multiplicity, member⟩ := List.exists_mem_of_ne_nil tags (multiple source tags stands)
    refine ⟨source, multiplicity, ?_⟩
    rw [Contexts.tags, found, Option.bind_some, stands]
    exact member
  · intro ⟨source, multiplicity, member⟩
    rw [NameMap.contains]
    cases found : contexts.get? target with
    | none =>
      rw [tags, found] at member
      cases member
    | some sources => rfl

end Contexts

namespace Definition

def References (definition : Definition) (source target : String) (multiplicity : Multiplicity) :
    Prop :=
  ∃ statement, definition.statement? source = some statement ∧
    ∃ alternative ∈ statement.alternatives, ⟨target, multiplicity⟩ ∈ alternative

def sites (definition : Definition) : List (String × Reference) :=
  definition.toList.flatMap fun statement => statement.references.map fun reference =>
    (statement.name, reference)

theorem statement_eq_some (definition : Definition) (name : String) (statement : Statement) :
    definition.statement? name = some statement ↔
      statement.name = name ∧ definition.statements.get? name = some statement.alternatives := by
  rw [statement?, Option.map_eq_some_iff]
  constructor
  · intro stated
    obtain ⟨alternatives, found, rfl⟩ := stated
    exact ⟨rfl, found⟩
  · intro held
    obtain ⟨rfl, found⟩ := held
    exact ⟨statement.alternatives, found, rfl⟩

theorem mem_to_list (definition : Definition) (statement : Statement) :
    statement ∈ definition.toList ↔ definition.statement? statement.name = some statement := by
  rw [statement_eq_some, toList, List.mem_map, ← NameMap.mem_entries_iff]
  constructor
  · intro member
    obtain ⟨entry, listed, rfl⟩ := member
    exact ⟨rfl, listed⟩
  · intro ⟨_, listed⟩
    exact ⟨_, listed, rfl⟩

theorem mem_sites (definition : Definition) (source target : String) (multiplicity : Multiplicity) :
    (source, Reference.mk target multiplicity) ∈ definition.sites ↔
      definition.References source target multiplicity := by
  constructor
  · intro site
    obtain ⟨statement, listed, among⟩ := List.mem_flatMap.1 site
    obtain ⟨reference, referred, same⟩ := List.mem_map.1 among
    cases same
    exact ⟨statement, (definition.mem_to_list statement).1 listed, List.mem_flatten.1 referred⟩
  · intro ⟨statement, stated, referred⟩
    have named := ((definition.statement_eq_some source statement).1 stated).1
    subst named
    have listed := (definition.mem_to_list statement).2 stated
    exact List.mem_flatMap.2
      ⟨statement, listed, List.mem_map.2 ⟨_, List.mem_flatten.2 referred, rfl⟩⟩

theorem contexts_sites (definition : Definition) :
    definition.contexts = Contexts.addAll ∅ definition.sites := by
  rw [contexts, Contexts.addAll, sites, List.foldl_flatMap]
  simp only [List.foldl_map]

theorem mem_contexts (definition : Definition) (target source : String)
    (multiplicity : Multiplicity) :
    multiplicity ∈ definition.contexts.tags target source ↔
      definition.References source target multiplicity := by
  rw [contexts_sites, Contexts.mem_tags_add_all, mem_sites]
  constructor
  · intro either
    rcases either with referred | absent
    · exact referred
    · cases absent
  · exact .inl

theorem contexts_filled (definition : Definition) : definition.contexts.Filled := by
  rw [contexts_sites]
  apply Contexts.filled_add_all
  intro name sources absent
  cases absent

theorem mem_roots (definition : Definition) (statement : Statement) :
    statement ∈ definition.roots ↔
      definition.statement? statement.name = some statement ∧
        ∀ source multiplicity, ¬ definition.References source statement.name multiplicity := by
  have listed := definition.contexts.contains_filled definition.contexts_filled statement.name
  simp only [mem_contexts] at listed
  rw [roots, List.mem_filter, mem_to_list, Bool.not_eq_true', ← Bool.not_eq_true, listed]
  simp only [not_exists]

theorem roots_ordered (definition : Definition) :
    (definition.roots.map fun statement => Text.bytes statement.name).Pairwise (· < ·) := by
  have ordered : definition.toList.Pairwise fun a b => Text.bytes a.name < Text.bytes b.name := by
    rw [toList, List.pairwise_map]
    apply definition.statements.ordered.imp
    intro a b less
    exact (Text.bytes_lt a.1 b.1).2 less
  exact List.pairwise_map.2 (ordered.filter _)

end Definition

end TreeGrammar
