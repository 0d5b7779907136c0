import TreeGrammar.Proofs.Sprout
set_option autoImplicit false

namespace TreeGrammar

def Part.Fits (definition : Definition) (children : List Sprout) : Part → Prop
  | .proxy _ _ => children = []
  | .bare statement => definition.statement? statement.name = some statement ∧ children = []
  | .full statement index slots =>
    definition.statement? statement.name = some statement ∧
      statement.alternatives[index]? = some (slots.map Slot.reference) ∧
      (∀ slot ∈ slots, slot.reference.multiplicity.admits slot.size) ∧
      children.map Sprout.name =
        slots.flatMap fun slot => List.replicate slot.size slot.reference.name

theorem full_branches (definition : Definition) (children : List Sprout) (statement : Statement)
    (index : Nat) (slots : List Slot) (fits : (Part.full statement index slots).Fits definition children) :
    statement.isLeaf = false := by
  cases alternatives : statement.alternatives with
  | nil =>
    have chosen := fits.2.1
    rw [alternatives] at chosen
    cases chosen
  | cons first rest =>
    rw [Statement.isLeaf, alternatives]
    rfl

namespace Sprout

inductive Conforms (definition : Definition) : Sprout → Prop where
  | grown (part : Part) (children : List Sprout) (fits : part.Fits definition children)
      (below : ∀ child ∈ children, Conforms definition child) : Conforms definition (.grown part children)

theorem conforms_fits (definition : Definition) (sprout : Sprout)
    (conforms : sprout.Conforms definition) : sprout.part.Fits definition sprout.children := by
  cases conforms with
  | grown part children fits below => exact fits

mutual

-- Every target has been completed under the name of its alias before the alias was made:
-- it is known beforehand or completed in the part of the sprout to the left.
def Sound (known : List (String × NodeId)) (id : Nat) : Sprout → Prop
  | .grown part children =>
    (∀ target, part.target? = some target → (part.name, target) ∈ known) ∧
      SoundAll known (id + 1) children

def SoundAll (known : List (String × NodeId)) (id : Nat) : List Sprout → Prop
  | [] => True
  | first :: rest =>
    first.Sound known id ∧ SoundAll (known ++ first.completions id) (id + first.size) rest

end

theorem completions_all_append (id : Nat) (front back : List Sprout) :
    completionsAll id (front ++ back) =
      completionsAll id front ++ completionsAll (id + sizeAll front) back := by
  induction front generalizing id with
  | nil => rfl
  | cons first rest ih =>
    simp only [List.cons_append, completionsAll, ih, sizeAll, List.append_assoc, Nat.add_assoc]

theorem choices_append (node id : Nat) (front back : List Sprout) :
    choices node id (front ++ back) = choices node id front ++ choices node (id + sizeAll front) back := by
  induction front generalizing id with
  | nil => rfl
  | cons first rest ih => simp only [List.cons_append, choices, ih, sizeAll, Nat.add_assoc]

theorem reports_append (node id : Nat) (front back : List Sprout) :
    reports node id (front ++ back) = reports node id front ++ reports node (id + sizeAll front) back := by
  induction front generalizing id with
  | nil => rfl
  | cons first rest ih => simp only [List.cons_append, reports, ih, sizeAll, Nat.add_assoc]

theorem length_choices (node id : Nat) (sprouts : List Sprout) :
    (choices node id sprouts).length = sprouts.length := by
  induction sprouts generalizing id with
  | nil => rfl
  | cons first rest ih => simp only [choices, List.length_cons, ih]

theorem length_reports (node id : Nat) (sprouts : List Sprout) :
    (reports node id sprouts).length = sprouts.length := by
  induction sprouts generalizing id with
  | nil => rfl
  | cons first rest ih => simp only [reports, List.length_cons, ih]

theorem sound_all_append (known : List (String × NodeId)) (id : Nat) (front back : List Sprout)
    (first : SoundAll known id front)
    (second : SoundAll (known ++ completionsAll id front) (id + sizeAll front) back) :
    SoundAll known id (front ++ back) := by
  induction front generalizing known id with
  | nil => simpa [completionsAll, sizeAll] using second
  | cons head rest ih =>
    refine ⟨first.1, ih _ _ first.2 ?_⟩
    simpa [completionsAll, sizeAll, Nat.add_assoc] using second

end Sprout

theorem weave_slot {α : Type} (mark : Slot → List α) (slot : Slot) (rest : List Slot)
    (front back : List (Reference → List α)) (enough : front.length = slot.size) :
    weave mark (slot :: rest) (front ++ back) =
      mark slot ++ front.flatMap (fun saying => saying slot.reference) ++ weave mark rest back := by
  rw [weave, ← enough, List.take_left, List.drop_left]

end TreeGrammar
