import TreeGrammar.Declaration
import TreeGrammar.Token
set_option autoImplicit false

namespace TreeGrammar

structure Tagged where
  name : String
  tag : Option Multiplicity
deriving DecidableEq

namespace Tagged

def tokens (tagged : Tagged) : List Token :=
  .identifier tagged.name :: tagged.tag.toList.map Token.tag

def text : Tagged → String
  | ⟨name, none⟩ => name
  | ⟨name, some multiplicity⟩ => name.push multiplicity.tag

def reference (tagged : Tagged) : Reference := ⟨tagged.name, tagged.tag.getD .exactlyOne⟩

end Tagged

structure Written where
  name : String
  contents : Option (List (List Tagged))
deriving DecidableEq

namespace Written

def alternativeTokens (alternative : List Tagged) : List Token := alternative.flatMap Tagged.tokens

def contentsTokens : List (List Tagged) → List Token
  | [] => []
  | first :: rest =>
    alternativeTokens first ++ rest.flatMap fun alternative => .pipe :: alternativeTokens alternative

def tokens (written : Written) : List Token :=
  .identifier written.name ::
    match written.contents with
    | none => [.semicolon]
    | some contents => .colon :: (contentsTokens contents ++ [.semicolon])

def Proper (written : Written) : Prop :=
  ∀ contents, written.contents = some contents → contents ≠ [] ∧ [] ∉ contents

def statement (written : Written) : Statement :=
  ⟨written.name, (written.contents.getD []).map (·.map Tagged.reference)⟩

end Written

theorem contents_tokens_append (front : List (List Tagged)) (last : List Tagged) :
    Written.contentsTokens (front ++ [last]) =
      front.flatMap (fun alternative => Written.alternativeTokens alternative ++ [.pipe]) ++
        Written.alternativeTokens last := by
  cases front with
  | nil => simp [Written.contentsTokens]
  | cons first rest =>
    rw [List.cons_append, Written.contentsTokens, List.flatMap_cons, List.append_assoc,
      List.append_assoc]
    congr 1
    induction rest generalizing last with
    | nil => simp
    | cons second rest ih => simp [ih]

def Mention.tagged (mention : Mention) : Tagged := ⟨mention.name, mention.tag⟩

def Declaration.written (declaration : Declaration) : Written :=
  ⟨declaration.name, declaration.contents.map fun contents => contents.map (·.map Mention.tagged)⟩

theorem statement_written (declaration : Declaration) :
    declaration.written.statement = declaration.statement := by
  cases declaration with
  | mk name position contents =>
    cases contents with
    | none => rfl
    | some contents =>
      simp [Declaration.written, Written.statement, Declaration.statement, Declaration.alternatives,
        Mention.tagged, Tagged.reference, Mention.reference]

theorem alternatives_filled (declaration : Declaration) (proper : declaration.written.Proper) :
    [] ∉ declaration.alternatives := by
  intro empty
  obtain ⟨alternative, listed, none⟩ := List.mem_map.1 empty
  rw [List.map_eq_nil_iff.1 none] at listed
  cases contents : declaration.contents with
  | none =>
    rw [contents] at listed
    cases listed
  | some mentions =>
    rw [contents] at listed
    have referring := (proper (mentions.map (·.map Mention.tagged)) (by
      rw [Declaration.written, contents]
      rfl)).2
    exact referring (List.mem_map.2 ⟨[], listed, rfl⟩)

end TreeGrammar
