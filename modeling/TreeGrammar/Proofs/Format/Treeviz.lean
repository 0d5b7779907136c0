import Mathlib.Data.List.Basic
import TreeGrammar.Format.Treeviz
import TreeGrammar.Proofs.Graph.Outline
import TreeGrammar.Proofs.Json.Scalars
import TreeGrammar.Proofs.Token.Lexing
set_option autoImplicit false

namespace TreeGrammar

namespace Outline

def connector : List Outline → Char
  | [] => '└'
  | _ :: _ => '├'

def rail : List Outline → String
  | [] => "   "
  | _ :: _ => "│  "

theorem lines_cons (margin : String) (child : Outline) (rest : List Outline) (more : List Char) :
    (branchLines margin (child :: rest)).toList ++ more =
      margin.toList ++ connector rest :: '─' :: ' ' :: (child.label.toList ++ '\n' ::
        ((child.linesBelow (margin ++ rail rest)).toList ++
          ((branchLines margin rest).toList ++ more))) := by
  cases rest with
  | nil => simp [branchLines, connector, rail]
  | cons next rest => simp [branchLines, connector, rail]

def Leaves (margin : String) (rest : List Char) : Prop := rest = [] ∨ ¬ margin.toList <+: rest

theorem leaves_deeper (margin : String) (rest : List Outline) (more : List Char)
    (leaves : Leaves margin more) :
    Leaves (margin ++ rail rest) ((branchLines margin rest).toList ++ more) := by
  cases rest with
  | nil =>
    rcases leaves with ended | apart
    · exact .inl ended
    · right
      intro within
      rw [String.toList_append] at within
      exact apart ((List.prefix_append _ _).trans within)
  | cons next rest =>
    have bar : (rail (next :: rest)).toList = ['│', ' ', ' '] := by
      rw [rail, String.toList_ofList]
    right
    intro within
    rw [String.toList_append, bar, lines_cons, List.prefix_append_right_inj,
      List.cons_prefix_cons] at within
    cases rest with
    | nil => exact absurd within.1 (by simp [connector])
    | cons _ _ => exact absurd within.1 (by simp [connector])

theorem rail_of_connector (rest more : List Outline) (same : connector rest = connector more) :
    rail rest = rail more := by
  cases rest with
  | nil =>
    cases more with
    | nil => rfl
    | cons _ _ => exact absurd same (by simp [connector])
  | cons _ _ =>
    cases more with
    | nil => exact absurd same (by simp [connector])
    | cons _ _ => rfl

theorem divided_unique (c : Char) (first second rest more : List Char) (apart : c ∉ first)
    (absent : c ∉ second) (same : first ++ c :: rest = second ++ c :: more) :
    first = second ∧ rest = more := by
  induction first generalizing second with
  | nil =>
    cases second with
    | nil => exact ⟨rfl, (List.cons.inj same).2⟩
    | cons d second => exact absurd (List.cons.inj same).1 (List.ne_of_not_mem_cons absent)
  | cons d first ih =>
    cases second with
    | nil => exact absurd (List.cons.inj same).1.symm (List.ne_of_not_mem_cons apart)
    | cons e second =>
      obtain ⟨rfl, later⟩ := List.cons.inj same
      obtain ⟨rfl, ended⟩ := ih second (List.not_mem_of_not_mem_cons apart)
        (List.not_mem_of_not_mem_cons absent) later
      exact ⟨rfl, ended⟩

theorem ends_apart (margin : String) (child : Outline) (after : List Outline) (rest more : List Char)
    (leaves : Leaves margin rest) :
    ¬ (branchLines margin []).toList ++ rest = (branchLines margin (child :: after)).toList ++ more := by
  intro same
  rw [branchLines, String.toList_empty, List.nil_append, lines_cons] at same
  rcases leaves with rfl | apart
  · exact absurd (congrArg List.length same) (by simp)
  · rw [same] at apart
    exact apart (List.prefix_append _ _)

theorem number_text (id : NodeId) : id.text.toList = '#' :: Nat.toDigits 10 id := by
  rw [NodeId.text, String.toList_append, Nat.toString_eq_ofList_toDigits, String.toList_ofList,
    String.toList_ofList]
  rfl

def mark (id : NodeId) : Option NodeId → List Char
  | none => '#' :: Nat.toDigits 10 id
  | some target => '-' :: '>' :: ' ' :: '#' :: Nat.toDigits 10 target

theorem label_text (id : NodeId) (name : String) (target : Option NodeId) (children : List Outline) :
    (node id name target children).label.toList = name.toList ++ ' ' :: mark id target := by
  cases target with
  | none => simp [label, mark, number_text]
  | some target => simp [label, mark, number_text]

theorem label_line (id : Nat) (outline : Outline) (regular : outline.Regular id) :
    '\n' ∉ outline.label.toList := by
  have digits : ∀ number, '\n' ∉ Nat.toDigits 10 number := by
    intro number member
    exact absurd (Nat.isDigit_of_mem_toDigits (by decide) (by decide) member) (by decide)
  cases outline with
  | node number name target children =>
    obtain ⟨_, identifier, _⟩ := regular
    have named := identifier_lacks name identifier '\n' (by decide)
    rw [label_text]
    cases target with
    | none => simp [mark, named, digits]
    | some target => simp [mark, named, digits]

theorem label_unique (id : NodeId) (name other : String) (target another : Option NodeId)
    (children below : List Outline) (identifier : isIdentifier name = true)
    (also : isIdentifier other = true)
    (same : (node id name target children).label.toList = (node id other another below).label.toList) :
    name = other ∧ target = another := by
  have blank : Token.continuesIdentifier ' ' = false := by decide
  rw [label_text, label_text] at same
  obtain ⟨names, rest⟩ := divided_unique ' ' _ _ _ _ (identifier_lacks name identifier ' ' blank)
    (identifier_lacks other also ' ' blank) same
  refine ⟨String.toList_inj.1 names, ?_⟩
  cases target with
  | none =>
    cases another with
    | none => rfl
    | some number => simp [mark] at rest
  | some target =>
    cases another with
    | none => simp [mark] at rest
    | some number =>
      simp only [mark, List.cons.injEq, true_and] at rest
      rw [Json.digits_unique target number rest]

-- What follows the lines leaves their margin, so the lines themselves tell where they end. The ids go
-- along because an alias does not show its own.
mutual

theorem below_unique (margin : String) (id : Nat) (first second : Outline) (rest more : List Char)
    (regular : first.Regular id) (also : second.Regular id) (leaves : Leaves margin rest)
    (leaving : Leaves margin more) (labels : first.label.toList = second.label.toList)
    (same : (first.linesBelow margin).toList ++ rest = (second.linesBelow margin).toList ++ more) :
    first = second ∧ rest = more := by
  cases first with
  | node number name target children =>
    cases second with
    | node other another aim below =>
      obtain ⟨rfl, identifier, _, deeper⟩ := regular
      obtain ⟨rfl, alike, _, likewise⟩ := also
      obtain ⟨rfl, rfl⟩ := label_unique _ name another target aim children below identifier alike labels
      rw [linesBelow, linesBelow] at same
      obtain ⟨rfl, rest⟩ := branches_unique margin _ children below rest more deeper likewise leaves
        leaving same
      exact ⟨rfl, rest⟩

theorem branches_unique (margin : String) (id : Nat) (first second : List Outline)
    (rest more : List Char) (regular : RegularAll id first) (also : RegularAll id second)
    (leaves : Leaves margin rest) (leaving : Leaves margin more)
    (same : (branchLines margin first).toList ++ rest = (branchLines margin second).toList ++ more) :
    first = second ∧ rest = more := by
  cases first with
  | nil =>
    cases second with
    | nil => exact ⟨rfl, same⟩
    | cons child after => exact absurd same (ends_apart margin child after rest more leaves)
  | cons child after =>
    cases second with
    | nil => exact absurd same.symm (ends_apart margin child after more rest leaving)
    | cons other beyond =>
      obtain ⟨here, later⟩ := regular
      obtain ⟨there, afterwards⟩ := also
      rw [lines_cons, lines_cons, List.append_cancel_left_eq] at same
      obtain ⟨connected, labelled⟩ := List.cons.inj same
      have alike := rail_of_connector after beyond connected
      simp only [List.cons.injEq, true_and] at labelled
      obtain ⟨labels, inside⟩ := divided_unique '\n' _ _ _ _ (label_line id child here)
        (label_line id other there) labelled
      rw [← alike] at inside
      obtain ⟨rfl, outside⟩ := below_unique (margin ++ rail after) id child other _ _ here there
        (leaves_deeper margin after rest leaves)
        (alike ▸ leaves_deeper margin beyond more leaving) labels inside
      obtain ⟨rfl, ended⟩ := branches_unique margin (id + child.size) after beyond rest more later
        afterwards leaves leaving outside
      exact ⟨rfl, ended⟩

end

theorem drawing_unique (first second : Outline) (regular : first.Regular 0) (also : second.Regular 0)
    (same : first.label ++ "\n" ++ first.linesBelow "" = second.label ++ "\n" ++ second.linesBelow "") :
    first = second := by
  have whole := congrArg String.toList same
  simp only [String.toList_append, List.append_assoc] at whole
  obtain ⟨labels, inside⟩ := divided_unique '\n' _ _ _ _ (label_line 0 first regular)
    (label_line 0 second also) whole
  rw [← List.append_nil (first.linesBelow "").toList, ← List.append_nil (second.linesBelow "").toList]
    at inside
  exact (below_unique "" 0 first second [] [] regular also (.inl rfl) (.inl rfl) labels inside).1

end Outline

end TreeGrammar
