import TreeGrammar.Generation
import TreeGrammar.Proofs.Definition.Faults
import TreeGrammar.Proofs.Graph.Links
import TreeGrammar.Proofs.Strategy.Completed
import TreeGrammar.Settings
set_option autoImplicit false

namespace TreeGrammar

section

variable (rename : String → String)

def Reference.renamed (reference : Reference) : Reference :=
  { reference with name := rename reference.name }

def Statement.renamed (statement : Statement) : Statement :=
  ⟨rename statement.name, statement.alternatives.map (List.map (Reference.renamed rename))⟩

-- The new names need not be in order, so the entries are inserted one by one.
def NameMap.gathered {α : Type} : List (String × α) → NameMap α
  | [] => ∅
  | (name, value) :: rest => (gathered rest).insert (rename name) value

def NameMap.renamed {α : Type} (map : NameMap α) : NameMap α := gathered rename map.entries

def Statements.renamed (statements : Statements) : Statements :=
  (statements.map (List.map (List.map (Reference.renamed rename)))).renamed rename

def Node.renamed (node : Node) : Node := { node with name := rename node.name }

def Graph.renamed (graph : Graph) : Graph := ⟨graph.nodes.map (Node.renamed rename)⟩

def Context.renamed (context : Context) : Context := { context with graph := context.graph.renamed rename }

def GenerationError.renamed : GenerationError → GenerationError
  | unknownStatement name => unknownStatement (rename name)
  | alternativeOutOfRange statement index count => alternativeOutOfRange (rename statement) index count
  | sizeOutOfRange reference size => sizeOutOfRange (reference.renamed rename) size
  | targetNameMismatch target found expected =>
    targetNameMismatch target (rename found) (rename expected)
  | unknownTarget target reference => unknownTarget target (rename reference)

def Halt.renamed : Halt → Halt
  | error cause => error (cause.renamed rename)
  | depthExceeded => depthExceeded

def LogRecord.renamed : LogRecord → LogRecord
  | started root => started (rename root)
  | visiting name parent => visiting (rename name) parent
  | sized reference node size => sized (reference.renamed rename) node size
  | reusing target node => reusing target node
  | failed root error => failed (rename root) (error.renamed rename)
  | finished root size => finished (rename root) size

def Run.renamed {σ : Type} (run : Run σ) : Run σ where
  graph := run.graph.renamed rename
  completed := run.completed.renamed rename
  log := run.log.map (LogRecord.renamed rename)
  state := run.state

def Outcome.renamed (outcome : Outcome) : Outcome where
  result := (outcome.result.map (Graph.renamed rename)).mapError (Halt.renamed rename)
  log := outcome.log.map (LogRecord.renamed rename)

def Settings.renamed (settings : Settings) : Settings :=
  { settings with noAlias := settings.noAlias.map rename }

def Strategy.behind {σ : Type} (strategy : Strategy σ) : Strategy σ where
  answer question state :=
    match question with
    | .leaf statement context =>
      strategy.answer (.leaf (statement.renamed rename) (context.map (Context.renamed rename))) state
    | .alternative statement context =>
      strategy.answer (.alternative (statement.renamed rename) (context.map (Context.renamed rename)))
        state
    | .size reference context =>
      strategy.answer (.size (reference.renamed rename) (context.renamed rename)) state
    | .target reference context completed =>
      strategy.answer
        (.target (reference.renamed rename) (context.renamed rename) (completed.renamed rename)) state

end

namespace NameMap

variable {α β : Type} (rename : String → String)

theorem get?_map (source : NameMap α) (change : α → β) (name : String) :
    (source.map change).get? name = (source.get? name).map change := by
  obtain ⟨entries, ordered⟩ := source
  simp only [map, get?]
  clear ordered
  induction entries with
  | nil => rfl
  | cons entry rest ih =>
    rw [List.map_cons, List.lookup_cons, List.lookup_cons, ih]
    cases name == entry.1 <;> rfl

theorem gathered_entry (entries : List (String × α)) (name : String) (value : α)
    (found : (gathered rename entries).get? name = some value) :
    ∃ source, (source, value) ∈ entries ∧ rename source = name := by
  induction entries with
  | nil => cases found
  | cons entry rest ih =>
    obtain ⟨source, held⟩ := entry
    rw [gathered, get?_insert] at found
    by_cases same : name = rename source
    · rw [if_pos same] at found
      cases found
      exact ⟨source, .head _, same.symm⟩
    · rw [if_neg same] at found
      obtain ⟨other, among, named⟩ := ih found
      exact ⟨other, .tail _ among, named⟩

theorem gathered_contains (entries : List (String × α)) (name : String) (value : α)
    (among : (name, value) ∈ entries) : (gathered rename entries).contains (rename name) = true := by
  induction entries with
  | nil => cases among
  | cons entry rest ih =>
    rw [gathered, contains_insert]
    rcases List.mem_cons.1 among with rfl | later
    · exact .inl rfl
    · exact .inr (ih later)

theorem gathered_alike (also : String → String) (entries : List (String × α))
    (same : ∀ entry ∈ entries, rename entry.1 = also entry.1) :
    gathered rename entries = gathered also entries := by
  induction entries with
  | nil => rfl
  | cons entry rest ih =>
    obtain ⟨here, later⟩ := List.forall_mem_cons.1 same
    rw [gathered, gathered, here, ih later]

section

variable (injective : Function.Injective rename)

include injective

theorem get?_gathered (entries : List (String × α)) (name : String) :
    (gathered rename entries).get? (rename name) = entries.lookup name := by
  induction entries with
  | nil => rfl
  | cons entry rest ih =>
    obtain ⟨source, held⟩ := entry
    rw [gathered, get?_insert, ih, List.lookup_cons]
    by_cases same : name = source
    · rw [same, if_pos rfl, beq_self_eq_true]
    · rw [if_neg (injective.ne same), beq_false_of_ne same]

theorem get?_renamed (map : NameMap α) (name : String) :
    (map.renamed rename).get? (rename name) = map.get? name :=
  get?_gathered rename injective map.entries name

theorem renamed_alter (map : NameMap α) (name : String) (change : Option α → α) :
    (map.alter name change).renamed rename = (map.renamed rename).alter (rename name) change := by
  apply eq_of_get
  intro other
  rw [get?_alter]
  by_cases known : ∃ source, rename source = other
  · obtain ⟨source, rfl⟩ := known
    simp only [get?_renamed rename injective, get?_alter, injective.eq_iff]
  · have foreign : ∀ map : NameMap α, (map.renamed rename).get? other = none := by
      intro map
      refine Option.eq_none_iff_forall_ne_some.2 fun value found => ?_
      obtain ⟨source, _, named⟩ := gathered_entry rename map.entries other value found
      exact known ⟨source, named⟩
    rw [foreign, foreign, if_neg fun same => known ⟨name, same.symm⟩]

end

end NameMap

namespace Statements

variable (rename : String → String) (statements : Statements)

theorem renamed_closed (closed : statements.Closed) : (statements.renamed rename).Closed := by
  intro reference member
  obtain ⟨entry, listed, referred⟩ := List.mem_flatMap.1 member
  obtain ⟨source, among, _⟩ := NameMap.gathered_entry rename _ entry.1 entry.2
    (NameMap.get?_of_mem listed)
  obtain ⟨before, held, same⟩ := List.mem_map.1 among
  rw [← (Prod.mk.inj same).2] at referred
  obtain ⟨_, inside, used⟩ := List.mem_flatten.1 referred
  obtain ⟨alternative, place, rfl⟩ := List.mem_map.1 inside
  obtain ⟨original, referring, rfl⟩ := List.mem_map.1 used
  have known := closed original
    (List.mem_flatMap.2 ⟨before, held, List.mem_flatten.2 ⟨alternative, place, referring⟩⟩)
  obtain ⟨alternatives, found⟩ := Option.isSome_iff_exists.1 known
  exact NameMap.gathered_contains rename _ original.name _
    (List.mem_map.2 ⟨(original.name, alternatives), NameMap.mem_of_get? found, rfl⟩)

end Statements

def Definition.renamed (rename : String → String) (definition : Definition) : Definition :=
  ⟨definition.statements.renamed rename, definition.statements.renamed_closed rename definition.closed⟩

namespace Graph

variable (rename : String → String) (graph : Graph)

theorem node_renamed (id : NodeId) :
    (graph.renamed rename).node? id = (graph.node? id).map (Node.renamed rename) :=
  Array.getElem?_map

@[simp] theorem size_renamed : (graph.renamed rename).size = graph.size := Array.size_map

@[simp] theorem add_renamed (name : String) (parent target : Option NodeId) :
    (graph.add name parent target).renamed rename =
      (graph.renamed rename).add (rename name) parent target := by
  simp [renamed, add, Node.renamed]

@[simp] theorem attach_renamed (parent child : NodeId) :
    (graph.attach parent child).renamed rename = (graph.renamed rename).attach parent child := by
  apply graph_eq
  intro id
  rw [node_renamed, node_attach, node_attach, node_renamed]
  by_cases same : parent = id
  · rw [if_pos same, if_pos same, Option.map_map, Option.map_map]
    rfl
  · rw [if_neg same, if_neg same]

theorem parent_renamed (id : NodeId) : (graph.renamed rename).parent? id = graph.parent? id := by
  rw [parent?, parent?, node_renamed]
  cases graph.node? id <;> rfl

theorem ancestors_renamed (id : Nat) : (graph.renamed rename).ancestors id = graph.ancestors id := by
  induction id using Nat.strongRecOn with
  | ind id ih =>
    rw [ancestors.eq_def (graph.renamed rename), ancestors.eq_def graph, parent_renamed]
    cases graph.parent? id with
    | none => rfl
    | some parent =>
      by_cases smaller : parent < id
      · simp only [if_pos smaller, ih parent smaller]
      · simp only [if_neg smaller]

end Graph

theorem Statement.leaf_renamed (rename : String → String) (statement : Statement) :
    (statement.renamed rename).isLeaf = statement.isLeaf := List.isEmpty_map

@[simp] theorem Context.depth_renamed (rename : String → String) (context : Context) :
    (context.renamed rename).depth = context.depth := by
  rw [depth, depth, Graph.depth, Graph.depth, renamed, Graph.ancestors_renamed]

section

variable (rename : String → String) (injective : Function.Injective rename)

include injective

theorem Definition.statement_renamed (definition : Definition) (name : String) :
    (definition.renamed rename).statement? (rename name) =
      (definition.statement? name).map (Statement.renamed rename) := by
  have found : (definition.renamed rename).statements.get? (rename name) =
      (definition.statements.get? name).map (List.map (List.map (Reference.renamed rename))) :=
    (NameMap.get?_renamed rename injective _ name).trans (NameMap.get?_map _ _ name)
  rw [statement?, statement?, found, Option.map_map, Option.map_map]
  rfl

theorem Completed.record_renamed (completed : Completed) (name : String) (id : NodeId) :
    NameMap.renamed rename (completed.record name id) =
      Completed.record (completed.renamed rename) (rename name) id :=
  completed.renamed_alter rename injective name _

theorem Completed.named_renamed (completed : Completed) (name : String) :
    Completed.named (completed.renamed rename) (rename name) = completed.named name := by
  rw [Completed.named, Completed.named, completed.get?_renamed rename injective]

end

end TreeGrammar
