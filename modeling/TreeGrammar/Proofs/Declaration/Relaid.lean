import Mathlib.Data.List.Chain
import TreeGrammar.Proofs.Declaration.Reading
import TreeGrammar.Proofs.Definition.Checking
import TreeGrammar.Proofs.Token.Layout
set_option autoImplicit false

namespace TreeGrammar

def Token.isName : Token → Bool
  | .identifier _ => true
  | _ => false

def Token.leads (within : Bool) : Token → Bool
  | .colon => true
  | .semicolon => false
  | _ => within

structure Chunk where
  gap : List Char
  token : Token

def Chunk.text (chunk : Chunk) : List Char := chunk.gap ++ chunk.token.text.toList

def spread (chunks : List Chunk) (last : List Char) : List Char := chunks.flatMap Chunk.text ++ last

structure Spaced (chunks : List Chunk) (last : List Char) : Prop where
  gaps : ∀ chunk ∈ chunks, Gap chunk.token.text.toList chunk.gap
  last : Gap [] last
  apart : chunks.IsChain fun chunk next =>
    chunk.token.isName = true → next.token.isName = true → next.gap ≠ []

-- A name is a reference if it stands between a colon and the semicolon.
inductive Marked : (within : Bool) → List Token → List Token → Prop where
  | done (within : Bool) : Marked within [] []
  | kept (within : Bool) (token : Token) (rest marked : List Token)
      (more : Marked (token.leads within) rest marked) :
      Marked within (token :: rest) (token :: marked)
  | added (name : String) (rest marked : List Token)
      (untagged : ∀ multiplicity, rest.head? ≠ some (.tag multiplicity))
      (more : Marked true rest marked) :
      Marked true (.identifier name :: rest) (.identifier name :: .tag .exactlyOne :: marked)

theorem gap_apart (rest gap more : List Char) (gapped : Gap rest gap) (some : gap ≠ []) :
    Apart (gap ++ more) := by
  cases gapped with
  | nothing => exact absurd rfl some
  | blank c gap blank _ =>
    intro first here
    cases here
    simp only [Token.isBlank, Bool.or_eq_true, decide_eq_true_eq] at blank
    rcases blank with (((rfl | rfl) | rfl) | rfl) | rfl <;> decide
  | comment body gap _ _ _ =>
    intro first here
    cases here
    decide

theorem mark_apart (token : Token) (rest : List Char) (mark : token.isName = false) :
    Apart (token.text.toList ++ rest) := by
  intro first here
  cases token with
  | identifier name => cases mark
  | colon | semicolon | pipe =>
    cases here
    decide
  | tag multiplicity =>
    rw [Token.text, String.toList_singleton] at here
    cases here
    cases multiplicity <;> decide

theorem gap_before (text rest gap : List Char) (some : text ≠ []) (gapped : Gap text gap) :
    Gap (text ++ rest) gap := by
  induction gapped with
  | nothing => exact .nothing
  | blank c gap blank more ih => exact .blank c gap blank ih
  | comment body gap inside ended more ih =>
    refine .comment body gap inside ?_ ih
    have filled := List.append_ne_nil_of_right_ne_nil gap some
    rwa [LineEnd, ← List.append_assoc, List.head?_append_of_ne_nil _ filled]

theorem spells_gap (gap rest : List Char) (tokens : List Token) (gapped : Gap rest gap)
    (spells : Spells rest tokens) : Spells (gap ++ rest) tokens := by
  intro cursor
  rw [lexemes_gap cursor gap rest gapped]
  exact spells (cursor.past gap)

theorem spaced_stands (chunk : Chunk) (rest : List Chunk) (last : List Char)
    (spaced : Spaced (chunk :: rest) last)
    (named : ∀ name, chunk.token = .identifier name → isIdentifier name = true) :
    chunk.token.Stands (spread rest last) := by
  intro name same
  refine ⟨named name same, ?_⟩
  cases rest with
  | nil =>
    by_cases empty : last = []
    · rw [empty]
      exact nofun
    · have apart := gap_apart [] last [] spaced.last empty
      rwa [List.append_nil] at apart
  | cons next rest =>
    have apart := (List.isChain_cons_cons.1 spaced.apart).1
    rw [spread, List.flatMap_cons, Chunk.text, List.append_assoc, List.append_assoc]
    by_cases empty : next.gap = []
    · rw [empty, List.nil_append]
      refine mark_apart next.token _ (Bool.eq_false_iff.2 fun name => ?_)
      exact apart (by rw [same]; rfl) name empty
    · exact gap_apart _ next.gap _ (spaced.gaps next (.tail _ (.head _))) empty

theorem spaced_spells (chunks : List Chunk) (last : List Char) (spaced : Spaced chunks last)
    (named : ∀ name, Token.identifier name ∈ chunks.map Chunk.token → isIdentifier name = true) :
    Spells (spread chunks last) (chunks.map Chunk.token) := by
  induction chunks with
  | nil =>
    have ending := spells_gap last [] [] spaced.last spells_nil
    rwa [List.append_nil] at ending
  | cons chunk rest ih =>
    have later := ih ⟨fun next listed => spaced.gaps next (.tail _ listed), spaced.last,
      spaced.apart.tail⟩ fun name listed => named name (.tail _ listed)
    have stands := spaced_stands chunk rest last spaced fun name same =>
      named name (same ▸ .head _)
    have gapped := gap_before _ (spread rest last) chunk.gap
      (token_filled chunk.token _ stands) (spaced.gaps chunk (.head _))
    have here := spells_gap chunk.gap _ _ gapped (spells_token chunk.token _ _ stands later)
    rwa [spread, List.flatMap_cons, Chunk.text, List.append_assoc, List.append_assoc]

theorem marked_names (within : Bool) (tokens marked : List Token)
    (changed : Marked within tokens marked) (name : String) (listed : .identifier name ∈ marked) :
    .identifier name ∈ tokens := by
  induction changed with
  | done within => exact listed
  | kept within token rest marked more ih =>
    rcases List.mem_cons.1 listed with here | later
    · exact here ▸ .head _
    · exact .tail _ (ih later)
  | added other rest marked untagged more ih =>
    rcases List.mem_cons.1 listed with here | later
    · exact here ▸ .head _
    · rcases List.mem_cons.1 later with tag | further
      · cases tag
      · exact .tail _ (ih further)

namespace Reading

inductive Alike : (within : Bool) → Reading → Reading → Prop where
  | nothing (declared others : List Declaration)
      (same : others.map Declaration.statement = declared.map Declaration.statement) :
      Alike false ⟨declared, .nothing⟩ ⟨others, .nothing⟩
  | named (declared others : List Declaration) (name : String) (position place : Position)
      (same : others.map Declaration.statement = declared.map Declaration.statement) :
      Alike false ⟨declared, .named name position⟩ ⟨others, .named name place⟩
  | within (declared others : List Declaration) (name : String) (position place : Position)
      (finished complete : List (List Mention)) (current latest : List Mention)
      (same : others.map Declaration.statement = declared.map Declaration.statement)
      (before : complete.map (·.map Mention.reference) = finished.map (·.map Mention.reference))
      (now : latest.map Mention.reference = current.map Mention.reference) :
      Alike true ⟨declared, .within name position finished current⟩
        ⟨others, .within name place complete latest⟩

def awaitsTag (reading : Reading) : Bool :=
  match reading.unfinished with
  | .within _ _ _ (⟨_, none, _⟩ :: _) => true
  | _ => false

theorem awaiting_mention (declared : List Declaration) (name : String) (position : Position)
    (finished : List (List Mention)) (current : List Mention)
    (awaits : awaitsTag ⟨declared, .within name position finished current⟩ = true) :
    ∃ mentioned place earlier, current = ⟨mentioned, none, place⟩ :: earlier := by
  cases current with
  | nil => cases awaits
  | cons last earlier =>
    obtain ⟨mentioned, tag, place⟩ := last
    cases tag with
    | none => exact ⟨mentioned, place, earlier, rfl⟩
    | some multiplicity => cases awaits

theorem alike_steps (within : Bool) (reading other next : Reading) (lexeme another : Lexeme)
    (alike : Alike within reading other) (same : another.token = lexeme.token)
    (tags : ∀ multiplicity, lexeme.token = .tag multiplicity → other.awaitsTag = reading.awaitsTag)
    (steps : Steps reading lexeme next) :
    ∃ after, Steps other another after ∧ Alike (lexeme.token.leads within) next after ∧
      after.awaitsTag = next.awaitsTag := by
  cases steps with
  | name declared lexeme name spelled =>
    cases alike with
    | nothing declared others declare =>
      rw [spelled] at same ⊢
      exact ⟨_, .name others another name same, .named _ _ name _ _ declare, rfl⟩
  | bare declared lexeme name position spelled =>
    cases alike with
    | named declared others name position place declare =>
      rw [spelled] at same ⊢
      refine ⟨_, .bare others another name place same, .nothing _ _ ?_, rfl⟩
      rw [List.map_cons, List.map_cons, declare]
      rfl
  | colon declared lexeme name position spelled =>
    cases alike with
    | named declared others name position place declare =>
      rw [spelled] at same ⊢
      exact ⟨_, .colon others another name place same,
        .within _ _ name _ _ _ _ _ _ declare rfl rfl, rfl⟩
  | mention declared lexeme name position finished current mentioned spelled =>
    cases alike with
    | within declared others name position place finished complete current latest declare before now =>
      rw [spelled] at same ⊢
      refine ⟨_, .mention others another name place complete latest mentioned same,
        .within _ _ name _ _ _ _ _ _ declare before ?_, rfl⟩
      rw [List.map_cons, List.map_cons, now]
      rfl
  | tag declared lexeme name position finished current mentioned stands multiplicity spelled =>
    cases alike with
    | within declared others name position place finished complete _ latest declare before now =>
      have awaits : awaitsTag ⟨others, .within name place complete latest⟩ = true :=
        tags multiplicity spelled
      obtain ⟨word, found, earlier, rfl⟩ :=
        awaiting_mention others name place complete latest awaits
      rw [spelled] at same ⊢
      obtain ⟨last, earliest⟩ := List.cons.inj now
      obtain rfl : word = mentioned := congrArg Reference.name last
      refine ⟨_, .tag others another name place complete earlier word found multiplicity same,
        .within _ _ name _ _ _ _ _ _ declare before ?_, rfl⟩
      rw [List.map_cons, List.map_cons, earliest]
      rfl
  | pipe declared lexeme name position finished current begun spelled =>
    cases alike with
    | within declared others name position place finished complete current latest declare before now =>
      rw [spelled] at same ⊢
      have started : latest ≠ [] := by
        rintro rfl
        exact begun (List.map_eq_nil_iff.1 now.symm)
      refine ⟨_, .pipe others another name place complete latest started same,
        .within _ _ name _ _ _ _ _ _ declare ?_ rfl, rfl⟩
      rw [List.map_cons, List.map_cons, List.map_reverse, List.map_reverse, before, now]
  | close declared lexeme name position finished current begun spelled =>
    cases alike with
    | within declared others name position place finished complete current latest declare before now =>
      rw [spelled] at same ⊢
      have started : latest ≠ [] := by
        rintro rfl
        exact begun (List.map_eq_nil_iff.1 now.symm)
      refine ⟨_, .close others another name place complete latest started same, .nothing _ _ ?_, rfl⟩
      simp only [List.map_cons, Declaration.statement, Declaration.alternatives, Option.getD_some,
        List.map_append, List.map_reverse, List.map_nil, before, now, declare]

theorem alike_added (reading other next : Reading) (lexeme another mark : Lexeme) (name : String)
    (alike : Alike true reading other) (same : lexeme.token = .identifier name)
    (alsoSame : another.token = .identifier name) (tagged : mark.token = .tag .exactlyOne)
    (steps : Steps reading lexeme next) :
    ∃ middle after, Steps other another middle ∧ Steps middle mark after ∧ Alike true next after := by
  cases alike with
  | within declared others statement position place finished complete current latest declare before now =>
    cases steps with
    | mention _ _ _ _ _ _ mentioned spelled =>
      cases same.symm.trans spelled
      refine ⟨_, _, .mention others another statement place complete latest name alsoSame,
        .tag others mark statement place complete latest name another.position .exactlyOne tagged,
        .within _ _ statement _ _ _ _ _ _ declare before ?_⟩
      rw [List.map_cons, List.map_cons, now]
      rfl
    | tag _ _ _ _ _ _ _ _ _ spelled | pipe _ _ _ _ _ _ _ spelled | close _ _ _ _ _ _ _ spelled =>
      cases same.symm.trans spelled

theorem alike_read (within : Bool) (tokens marked : List Token) (changed : Marked within tokens marked)
    (lexemes others : List Lexeme) (spelled : lexemes.map Lexeme.token = tokens)
    (respelled : others.map Lexeme.token = marked) (reading other next : Reading)
    (alike : Alike within reading other)
    (tags : ∀ multiplicity, tokens.head? = some (.tag multiplicity) →
      other.awaitsTag = reading.awaitsTag)
    (read : reading.readAll lexemes = .ok next) :
    ∃ after ending, other.readAll others = .ok after ∧ Alike ending next after := by
  induction changed generalizing lexemes others reading other with
  | done within =>
    rw [List.map_eq_nil_iff.1 spelled] at read
    rw [List.map_eq_nil_iff.1 respelled]
    cases read
    exact ⟨other, within, rfl, alike⟩
  | kept within token rest marked more ih =>
    obtain ⟨lexeme, later, rfl, rfl, spelledLater⟩ := List.map_eq_cons_iff.1 spelled
    obtain ⟨another, further, rfl, same, respelledLater⟩ := List.map_eq_cons_iff.1 respelled
    obtain ⟨middle, steps, onward⟩ := read_first reading next lexeme later read
    obtain ⟨after, stepped, related, awaits⟩ := alike_steps within reading other middle lexeme another
      alike same (fun multiplicity tag => tags multiplicity (congrArg some tag)) steps
    obtain ⟨last, ending, whole, ends⟩ :=
      ih later further spelledLater respelledLater middle after related (fun _ _ => awaits) onward
    refine ⟨last, ending, ?_, ends⟩
    rw [read_cons, step_ok _ _ _ stepped]
    exact whole
  | added name rest marked untagged more ih =>
    obtain ⟨lexeme, later, rfl, same, spelledLater⟩ := List.map_eq_cons_iff.1 spelled
    obtain ⟨another, between, rfl, alsoSame, respelledLater⟩ := List.map_eq_cons_iff.1 respelled
    obtain ⟨mark, further, rfl, tagged, respelledLast⟩ := List.map_eq_cons_iff.1 respelledLater
    obtain ⟨middle, steps, onward⟩ := read_first reading next lexeme later read
    obtain ⟨named, after, stepped, marks, related⟩ :=
      alike_added reading other middle lexeme another mark name alike same alsoSame tagged steps
    -- The other reading takes one step more, for the tag behind the reference.
    obtain ⟨last, ending, whole, ends⟩ := ih later further spelledLater respelledLast middle after
      related (fun multiplicity tag => absurd tag (untagged multiplicity)) onward
    refine ⟨last, ending, ?_, ends⟩
    rw [read_cons, step_ok _ _ _ stepped]
    change readAll named (mark :: further) = _
    rw [read_cons, step_ok _ _ _ marks]
    exact whole

end Reading

theorem of_declarations_alike (source other : String) (declarations others : List Declaration)
    (definition : Definition)
    (same : others.map Declaration.statement = declarations.map Declaration.statement)
    (success : Definition.ofDeclarations source declarations = .ok definition) :
    Definition.ofDeclarations other others = .ok definition := by
  have complete := Definition.of_declarations_complete source declarations definition success
  have judged := judged_of_declarations source declarations
  rw [success] at judged
  have names : others.map Declaration.name = declarations.map Declaration.name := by
    rw [← names_of_statements, same, names_of_statements]
  cases judged with
  | sound _ distinct declared _ =>
    refine judged_unique other others _ _ (judged_of_declarations other others)
      (.sound definition (names ▸ distinct) ?_ ?_)
    · intro mention member
      obtain ⟨statement, listed, referred⟩ := referred_mention others mention member
      obtain ⟨original, mentioned, named⟩ :=
        mentioned_reference declarations statement (same ▸ listed) mention.reference referred
      have sameName : original.name = mention.name := named
      rw [names, ← sameName]
      exact declared original mentioned
    · intro name statement
      rw [complete.keyed name statement, ← same, List.mem_map]
      constructor
      · rintro ⟨⟨declaration, member, rfl⟩, rfl⟩
        exact ⟨declaration, member, rfl, rfl⟩
      · rintro ⟨declaration, member, rfl, rfl⟩
        exact ⟨⟨declaration, member, rfl⟩, rfl⟩

theorem read_declarations_marked (source text : String) (declarations : List Declaration)
    (found others : List Lexeme)
    (read : Reading.start.readAll found = .ok ⟨declarations.reverse, .nothing⟩)
    (changed : Marked false (found.map Lexeme.token) (others.map Lexeme.token))
    (tokenized : tokenize source text = .ok others) :
    ∃ later, readDeclarations source text = .ok later ∧
      later.map Declaration.statement = declarations.map Declaration.statement := by
  obtain ⟨after, ending, reread, alike⟩ := Reading.alike_read false _ _ changed found others rfl rfl
    .start .start _ (.nothing [] [] rfl) (fun _ _ => rfl) read
  cases alike with
  | nothing _ later same =>
    refine ⟨later.reverse, ?_, ?_⟩
    · rw [readDeclarations, tokenized]
      simp only [bind, Except.bind, reread]
      rfl
    · rw [List.map_reverse, same, List.map_reverse, List.reverse_reverse]

theorem relaid_texts_agree (source text : String) (definition : Definition)
    (success : Definition.parse source text = .ok definition) :
    ∃ found, Layout [] text.toList found ∧
      ∀ other chunks last, Marked false (found.map Lexeme.token) (chunks.map Chunk.token) →
        Spaced chunks last →
        Definition.parse other (String.ofList (spread chunks last)) = .ok definition := by
  obtain ⟨declarations, declared, built⟩ := Definition.parse_ok source text definition success
  obtain ⟨found, tokenized, read⟩ := read_declarations_run source text declarations declared
  refine ⟨found, (tokenize_layout source text found).1 tokenized, ?_⟩
  intro other chunks last changed spaced
  have named : ∀ name, Token.identifier name ∈ chunks.map Chunk.token → isIdentifier name = true := by
    intro name listed
    exact lexed_identifier .start text.toList found name (tokenize_ok source text found tokenized)
      (marked_names false _ _ changed name listed)
  obtain ⟨others, lexed, tokens⟩ := spaced_spells chunks last spaced named .start
  have retokenized : tokenize other (String.ofList (spread chunks last)) = .ok others := by
    rw [tokenize, String.toList_ofList, lexed]
  obtain ⟨later, redeclared, same⟩ := read_declarations_marked other _ declarations found others read
    (tokens ▸ changed) retokenized
  rw [Definition.parse, redeclared]
  exact of_declarations_alike source other declarations later definition same built

def noted : Definition := ⟨⟨[("a", [[⟨"b", .exactlyOne⟩]]), ("b", [])], by decide⟩, by decide⟩

theorem notes_relaid :
    Definition.parse "notes" "a:b;b;" = .ok noted ∧
      Definition.parse "more" "// é\na: b!;b; // b" = .ok noted := by
  have success : Definition.parse "notes" "a:b;b;" = .ok noted := by decide +kernel
  refine ⟨success, ?_⟩
  obtain ⟨found, layout, relaid⟩ := relaid_texts_agree "notes" "a:b;b;" noted success
  have tokenized : tokenize "notes" "a:b;b;" = .ok [⟨.identifier "a", 0, 1, ⟨1, 1⟩⟩,
    ⟨.colon, 1, 2, ⟨1, 2⟩⟩, ⟨.identifier "b", 2, 3, ⟨1, 3⟩⟩, ⟨.semicolon, 3, 4, ⟨1, 4⟩⟩,
    ⟨.identifier "b", 4, 5, ⟨1, 5⟩⟩, ⟨.semicolon, 5, 6, ⟨1, 6⟩⟩] := by decide +kernel
  rw [(tokenize_layout "notes" "a:b;b;" found).2 layout] at tokenized
  cases tokenized
  have untagged : ∀ multiplicity, some Token.semicolon ≠ some (.tag multiplicity) := by
    intro multiplicity tag
    cases tag
  have ended : LineEnd [] := by
    intro c feed
    cases feed
  refine relaid "more" [⟨"// é\n".toList, .identifier "a"⟩, ⟨[], .colon⟩, ⟨[' '], .identifier "b"⟩,
    ⟨[], .tag .exactlyOne⟩, ⟨[], .semicolon⟩, ⟨[], .identifier "b"⟩, ⟨[], .semicolon⟩]
    " // b".toList ?_ ?_
  · exact .kept _ _ _ _ (.kept _ _ _ _ (.added "b" _ _ untagged (.kept _ _ _ _ (.kept _ _ _ _
      (.kept _ _ _ _ (.done _))))))
  · refine ⟨?_, ?_, by decide⟩
    · simp only [List.forall_mem_cons]
      refine ⟨.comment " é".toList ['\n'] (by decide) (fun _ feed => (Option.some.inj feed).symm)
        (.blank _ _ rfl .nothing), .nothing,
        .blank _ _ rfl .nothing, .nothing, .nothing, .nothing, .nothing,
        List.forall_mem_nil _⟩
    · exact .blank _ _ rfl (.comment " b".toList [] (by decide) ended .nothing)

end TreeGrammar
