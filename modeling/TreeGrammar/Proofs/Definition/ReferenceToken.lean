import Mathlib.Data.List.Basic
import TreeGrammar.Proofs.Definition.RoundTrip
set_option autoImplicit false

namespace TreeGrammar

def Untagged (text : String) : Prop := ∀ c ∈ text.toList.getLast?, c ∉ ['!', '?', '+', '*']

theorem tag_shown (multiplicity : Multiplicity) : multiplicity.tag ∈ ['!', '?', '+', '*'] := by
  cases multiplicity <;> decide

theorem no_tag_iff (c : Char) : Multiplicity.ofTag? c = none ↔ c ∉ ['!', '?', '+', '*'] := by
  have tags : ['!', '?', '+', '*'] = Multiplicity.all.map Multiplicity.tag := rfl
  rw [Multiplicity.ofTag?, List.find?_eq_none, tags, List.mem_map]
  simp

theorem tagged_not_untagged (name : String) (multiplicity : Multiplicity) :
    ¬ Untagged (name.push multiplicity.tag) := by
  intro untagged
  refine untagged multiplicity.tag ?_ (tag_shown multiplicity)
  rw [String.toList_push, List.getLast?_concat]
  rfl

theorem tagged_or_untagged (text : String) :
    (∃ (name : String) (multiplicity : Multiplicity), text = name.push multiplicity.tag) ∨
      Untagged text := by
  cases last : text.toList.getLast? with
  | none =>
    refine .inr fun c member => ?_
    rw [last] at member
    cases member
  | some c =>
    cases found : Multiplicity.ofTag? c with
    | none =>
      refine .inr fun d member => ?_
      rw [last] at member
      cases member
      exact (no_tag_iff c).1 found
    | some multiplicity =>
      refine .inl ⟨String.ofList text.toList.dropLast, multiplicity, ?_⟩
      apply String.toList_inj.1
      rw [String.toList_push, String.toList_ofList, tag_of_mark c multiplicity found]
      exact (List.dropLast_append_getLast? c last).symm

theorem tagged_unique (name other : String) (multiplicity another : Multiplicity)
    (same : name.push multiplicity.tag = other.push another.tag) :
    name = other ∧ multiplicity = another := by
  have texts := congrArg String.toList same
  rw [String.toList_push, String.toList_push] at texts
  obtain ⟨names, tags⟩ := List.append_inj' texts rfl
  refine ⟨String.toList_inj.1 names, ?_⟩
  have found := congrArg Multiplicity.ofTag? (List.singleton_inj.1 tags)
  rw [Multiplicity.ofTag?_tag, Multiplicity.ofTag?_tag] at found
  exact Option.some.inj found

namespace Reference

theorem of_split (token name : String) (multiplicity : Multiplicity)
    (parts : split token.toList = (name.toList, multiplicity)) :
    ofToken? token = if name = "" then none else some ⟨name, multiplicity⟩ := by
  rw [ofToken?, parts]
  cases letters : name.toList with
  | nil =>
    rw [if_pos (String.toList_eq_nil_iff.1 letters)]
  | cons c rest =>
    have named : name ≠ "" := by
      rintro rfl
      cases letters
    rw [if_neg named]
    change some (Reference.mk (String.ofList (c :: rest)) multiplicity) = _
    rw [← letters, String.ofList_toList]

theorem of_tagged (name : String) (multiplicity : Multiplicity) :
    ofToken? (name.push multiplicity.tag) =
      if name = "" then none else some ⟨name, multiplicity⟩ := by
  apply of_split
  simp [split, Multiplicity.ofTag?_tag]

theorem of_untagged (token : String) (untagged : Untagged token) :
    ofToken? token = if token = "" then none else some ⟨token, .exactlyOne⟩ := by
  apply of_split
  rw [split]
  cases last : token.toList.getLast? with
  | none => rw [List.getLast?_eq_none_iff.1 last]
  | some c => simp only [(no_tag_iff c).2 (untagged c last)]

theorem of_token_iff (token : String) (reference : Reference) :
    ofToken? token = some reference ↔ reference.name ≠ "" ∧
      (token = reference.tagged ∨
        token = reference.name ∧ reference.multiplicity = .exactlyOne ∧ Untagged token) := by
  rcases tagged_or_untagged token with ⟨name, multiplicity, rfl⟩ | untagged
  · rw [of_tagged, Option.ite_none_left_eq_some]
    constructor
    · rintro ⟨named, read⟩
      cases read
      exact ⟨named, .inl rfl⟩
    · rintro ⟨named, same | ⟨_, _, untagged⟩⟩
      · obtain ⟨rfl, rfl⟩ := tagged_unique _ _ _ _ same
        exact ⟨named, rfl⟩
      · exact absurd untagged (tagged_not_untagged name multiplicity)
  · rw [of_untagged token untagged, Option.ite_none_left_eq_some]
    constructor
    · rintro ⟨named, read⟩
      cases read
      exact ⟨named, .inr ⟨rfl, rfl, untagged⟩⟩
    · rintro ⟨named, rfl | ⟨rfl, single, _⟩⟩
      · exact absurd untagged (tagged_not_untagged _ _)
      · refine ⟨named, ?_⟩
        rw [← single]

theorem of_token_text (reference : Reference) :
    ofToken? reference.text = some reference ↔ reference.name ≠ "" ∧
      (reference.multiplicity ≠ .exactlyOne ∨ Untagged reference.name) := by
  rw [of_token_iff]
  refine and_congr_right fun _ => ?_
  by_cases single : reference.multiplicity = .exactlyOne
  · have text : reference.text = reference.name := by rw [Reference.text, single]
    rw [text]
    constructor
    · rintro (same | ⟨_, _, untagged⟩)
      -- With its tag the name would be longer.
      · have lengths := congrArg String.length same
        rw [tagged, String.length_push] at lengths
        omega
      · exact .inr untagged
    · rintro (repeated | untagged)
      · exact absurd single repeated
      · exact .inr ⟨rfl, single, untagged⟩
  · have text : reference.text = reference.tagged := by
      cases reference with
      | mk name multiplicity =>
        cases multiplicity with
        | exactlyOne => exact absurd rfl single
        | _ => rfl
    exact ⟨fun _ => .inl single, fun _ => .inl text⟩

end Reference

theorem identifier_untagged (name : String) (identifier : isIdentifier name = true) :
    Untagged name := by
  intro c last shown
  have letter := identifier_characters name identifier c (List.mem_of_getLast? last)
  simp only [List.mem_cons, List.not_mem_nil, or_false] at shown
  rcases shown with rfl | rfl | rfl | rfl <;> exact absurd letter (by decide)

theorem identifier_named (name : String) (identifier : isIdentifier name = true) : name ≠ "" := by
  rintro rfl
  cases identifier

theorem tagged_token (tagged : Tagged) (identifier : isIdentifier tagged.name = true) :
    Reference.ofToken? tagged.text = some tagged.reference := by
  have named := identifier_named tagged.name identifier
  cases tagged with
  | mk name tag =>
    cases tag with
    | none =>
      exact (Reference.of_token_iff _ _).2
        ⟨named, .inr ⟨rfl, rfl, identifier_untagged name identifier⟩⟩
    | some multiplicity => exact (Reference.of_token_iff _ _).2 ⟨named, .inl rfl⟩

def Tagged.slot (tagged : Tagged) : Written := ⟨"x", some [[tagged]]⟩

theorem slot_proper (tagged : Tagged) : tagged.slot.Proper := by
  intro contents same
  cases same
  exact ⟨List.cons_ne_nil _ _, by simp⟩

theorem slot_spelled (tagged : Tagged) (identifier : isIdentifier tagged.name = true) :
    Spells ("x: " ++ tagged.text ++ ";").toList tagged.slot.tokens := by
  have apart (c : Char) (rest : List Char) (outside : Token.continuesIdentifier c = false) :
      Apart (c :: rest) := by
    intro d first
    cases first
    exact outside
  have ended := spells_mark ';' .semicolon [] [] rfl spells_nil
  have slot := spells_tagged tagged [';'] _ identifier (apart ';' [] (by decide)) ended
  have colon := spells_mark ':' .colon _ _ rfl (spells_blank ' ' _ _ (by decide) slot)
  have whole := spells_name "x" _ _ (by decide) (apart ':' _ (by decide)) colon
  simpa [Tagged.slot, Written.tokens, Written.contentsTokens, Written.alternativeTokens] using whole

-- Only a slot that refers to its own statement makes up a whole definition.
def Tagged.looped (tagged : Tagged) (same : tagged.name = "x") : Definition :=
  ⟨⟨[("x", [[tagged.reference]])], List.pairwise_singleton _ _⟩, by
    intro reference member
    rw [Statements.references, List.flatMap_singleton] at member
    obtain rfl : reference = tagged.reference := by simpa using member
    rw [Tagged.reference, same]
    rfl⟩

theorem reference_tokens_agree :
    (∀ reference : Reference, Reference.ofToken? reference.text = some reference ↔
      reference.name ≠ "" ∧ (reference.multiplicity ≠ .exactlyOne ∨ Untagged reference.name)) ∧
    ∀ (source : String) (tagged : Tagged), isIdentifier tagged.name = true →
      ∃ reference declaration, Reference.ofToken? tagged.text = some reference ∧
        readDeclarations source ("x: " ++ tagged.text ++ ";") = .ok [declaration] ∧
        declaration.statement = ⟨"x", [[reference]]⟩ ∧
        (tagged.name = "x" → ∃ definition,
          Definition.parse source ("x: " ++ tagged.text ++ ";") = .ok definition ∧
            definition.toList = [⟨"x", [[reference]]⟩]) := by
  refine ⟨Reference.of_token_text, ?_⟩
  intro source tagged identifier
  have proper : ∀ written ∈ [tagged.slot], written.Proper := by
    intro written member
    rw [List.mem_singleton.1 member]
    exact slot_proper tagged
  have spells : Spells ("x: " ++ tagged.text ++ ";").toList ([tagged.slot].flatMap Written.tokens) := by
    rw [List.flatMap_singleton]
    exact slot_spelled tagged identifier
  obtain ⟨declarations, success, statements⟩ :=
    Definition.read_spelled source _ [tagged.slot] proper spells
  obtain ⟨declaration, rfl, same⟩ := List.map_eq_singleton_iff.1 statements
  refine ⟨tagged.reference, declaration, tagged_token tagged identifier, success, same, ?_⟩
  intro looped
  exact ⟨tagged.looped looped,
    Definition.parse_spelled source _ [tagged.slot] (tagged.looped looped) proper spells rfl, rfl⟩

theorem starred_slot_agrees :
    Reference.ofToken? (Reference.text ⟨"é!", .exactlyOne⟩) ≠ some ⟨"é!", .exactlyOne⟩ ∧
    isIdentifier "x" = true ∧ Reference.ofToken? "x*" = some ⟨"x", .anyNumber⟩ ∧
    (∃ declaration, readDeclarations "slots" "x: x*;" = .ok [declaration] ∧
      declaration.statement = ⟨"x", [[⟨"x", .anyNumber⟩]]⟩) ∧
    ∃ definition, Definition.parse "slots" "x: x*;" = .ok definition ∧
      definition.toList = [⟨"x", [[⟨"x", .anyNumber⟩]]⟩] := by
  obtain ⟨written, read⟩ := reference_tokens_agree
  have identifier : isIdentifier "x" = true := rfl
  have token : Reference.ofToken? "x*" = some ⟨"x", .anyNumber⟩ := by decide +kernel
  obtain ⟨reference, declaration, found, declared, statement, looped⟩ :=
    read "slots" ⟨"x", some .anyNumber⟩ identifier
  obtain rfl : ⟨"x", .anyNumber⟩ = reference := Option.some.inj (token.symm.trans found)
  refine ⟨?_, identifier, token, ⟨declaration, declared, statement⟩, looped rfl⟩
  intro back
  rcases ((written ⟨"é!", .exactlyOne⟩).1 back).2 with repeated | untagged
  · exact repeated rfl
  · exact untagged '!' rfl (by decide)

end TreeGrammar
