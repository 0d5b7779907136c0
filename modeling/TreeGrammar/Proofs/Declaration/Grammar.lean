import Mathlib.Computability.Language
import TreeGrammar.Proofs.Declaration.Reading
import TreeGrammar.Proofs.Token.Layout
set_option autoImplicit false

namespace TreeGrammar

open scoped Computability

namespace Grammar

def name : Language Token := {tokens | ∃ name, tokens = [.identifier name]}

def tag : Language Token := {tokens | ∃ multiplicity, tokens = [.tag multiplicity]}

def reference : Language Token := name * (tag + 1)

def content : Language Token := reference * reference∗

def contentList : Language Token := content * ({[.pipe]} * content)∗

def statement : Language Token :=
  name * {[.colon]} * contentList * {[.semicolon]} + name * {[.semicolon]}

def definition : Language Token := statement∗

section

variable {α : Type} (language : Language Token) (good : α → Prop) (tokens : α → List Token)
  (spelled : ∀ x, x ∈ language ↔ ∃ item, good item ∧ tokens item = x)

include spelled

theorem mem_star (x : List Token) :
    x ∈ language∗ ↔ ∃ items : List α, (∀ item ∈ items, good item) ∧ items.flatMap tokens = x := by
  rw [Language.mem_kstar]
  constructor
  · intro member
    obtain ⟨parts, rfl, every⟩ := member
    induction parts with
    | nil => exact ⟨[], nofun, rfl⟩
    | cons part parts ih =>
      obtain ⟨item, fits, rfl⟩ := (spelled part).1 (every part (.head _))
      obtain ⟨items, others, written⟩ := ih fun other listed => every other (.tail _ listed)
      refine ⟨item :: items, List.forall_mem_cons.2 ⟨fits, others⟩, ?_⟩
      rw [List.flatMap_cons, written, List.flatten_cons]
  · intro member
    obtain ⟨items, every, rfl⟩ := member
    refine ⟨items.map tokens, List.flatMap_def .., ?_⟩
    intro part member
    obtain ⟨item, listed, rfl⟩ := List.mem_map.1 member
    exact (spelled _).2 ⟨item, every item listed, rfl⟩

end

theorem mem_reference (x : List Token) : x ∈ reference ↔ ∃ tagged : Tagged, tagged.tokens = x := by
  simp only [reference, Language.mem_mul, Language.mem_add, Language.mem_one]
  constructor
  · intro member
    obtain ⟨_, ⟨name, rfl⟩, _, ⟨multiplicity, rfl⟩ | rfl, rfl⟩ := member
    · exact ⟨⟨name, some multiplicity⟩, rfl⟩
    · exact ⟨⟨name, none⟩, rfl⟩
  · intro member
    obtain ⟨⟨name, tag⟩, rfl⟩ := member
    refine ⟨_, ⟨name, rfl⟩, tag.toList.map Token.tag, ?_, rfl⟩
    cases tag with
    | none => exact .inr rfl
    | some multiplicity => exact .inl ⟨multiplicity, rfl⟩

theorem mem_content (x : List Token) :
    x ∈ content ↔ ∃ alternative, alternative ≠ [] ∧ Written.alternativeTokens alternative = x := by
  have many := mem_star reference (fun _ => True) Tagged.tokens fun x => by simp [mem_reference]
  simp only [content, Language.mem_mul, mem_reference, many]
  constructor
  · intro member
    obtain ⟨_, ⟨first, rfl⟩, _, ⟨rest, _, rfl⟩, rfl⟩ := member
    exact ⟨first :: rest, List.cons_ne_nil _ _, List.flatMap_cons⟩
  · intro member
    obtain ⟨alternative, referring, rfl⟩ := member
    obtain ⟨first, rest, rfl⟩ := List.exists_cons_of_ne_nil referring
    exact ⟨_, ⟨first, rfl⟩, _, ⟨rest, fun _ _ => trivial, rfl⟩, List.flatMap_cons.symm⟩

theorem mem_content_list (x : List Token) :
    x ∈ contentList ↔
      ∃ contents, (contents ≠ [] ∧ [] ∉ contents) ∧ Written.contentsTokens contents = x := by
  have further := mem_star ({[.pipe]} * content) (fun alternative => alternative ≠ [])
    (fun alternative => .pipe :: Written.alternativeTokens alternative) fun x => by
      simp only [Language.mem_mul, mem_content]
      constructor
      · intro member
        obtain ⟨_, rfl, _, ⟨alternative, referring, rfl⟩, rfl⟩ := member
        exact ⟨alternative, referring, rfl⟩
      · intro member
        obtain ⟨alternative, referring, rfl⟩ := member
        exact ⟨_, rfl, _, ⟨alternative, referring, rfl⟩, rfl⟩
  simp only [contentList, Language.mem_mul, mem_content, further]
  constructor
  · intro member
    obtain ⟨_, ⟨first, referring, rfl⟩, _, ⟨rest, others, rfl⟩, rfl⟩ := member
    refine ⟨first :: rest, ⟨List.cons_ne_nil _ _, ?_⟩, rfl⟩
    intro empty
    rcases List.mem_cons.1 empty with same | later
    · exact referring same.symm
    · exact others [] later rfl
  · intro member
    obtain ⟨contents, ⟨filled, referring⟩, rfl⟩ := member
    obtain ⟨first, rest, rfl⟩ := List.exists_cons_of_ne_nil filled
    refine ⟨_, ⟨first, fun same => referring (same ▸ .head _), rfl⟩, _, ⟨rest, ?_, rfl⟩, rfl⟩
    intro alternative listed empty
    subst empty
    exact referring (.tail _ listed)

theorem mem_statement (x : List Token) :
    x ∈ statement ↔ ∃ written : Written, written.Proper ∧ written.tokens = x := by
  simp only [statement, Language.mem_add, Language.mem_mul, mem_content_list]
  constructor
  · intro either
    rcases either with ⟨_, ⟨_, ⟨_, ⟨name, rfl⟩, _, rfl, rfl⟩, _, ⟨contents, proper, rfl⟩, rfl⟩, _, rfl, rfl⟩ |
      ⟨_, ⟨name, rfl⟩, _, rfl, rfl⟩
    · refine ⟨⟨name, some contents⟩, ?_, ?_⟩
      · intro others same
        cases same
        exact proper
      · simp [Written.tokens]
    · refine ⟨⟨name, none⟩, ?_, rfl⟩
      intro others same
      cases same
  · intro member
    obtain ⟨⟨name, contents⟩, proper, rfl⟩ := member
    cases contents with
    | none => exact .inr ⟨_, ⟨name, rfl⟩, _, rfl, rfl⟩
    | some contents =>
      refine .inl ⟨_, ⟨_, ⟨_, ⟨name, rfl⟩, _, rfl, rfl⟩, _, ⟨contents, proper contents rfl, rfl⟩, rfl⟩,
        _, rfl, ?_⟩
      simp [Written.tokens]

structure Derives (writings : List Written) (tokens : List Token) : Prop where
  proper : ∀ written ∈ writings, written.Proper
  spelled : writings.flatMap Written.tokens = tokens

theorem mem_definition (tokens : List Token) :
    tokens ∈ definition ↔ ∃ writings, Derives writings tokens := by
  rw [definition, mem_star statement Written.Proper Written.tokens mem_statement]
  constructor
  · intro ⟨writings, proper, spelled⟩
    exact ⟨writings, proper, spelled⟩
  · intro ⟨writings, proper, spelled⟩
    exact ⟨writings, proper, spelled⟩

end Grammar

end TreeGrammar
