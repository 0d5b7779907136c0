import TreeGrammar.CommandLine
import TreeGrammar.Proofs.Format.Rendering
import TreeGrammar.Proofs.Histories
import TreeGrammar.Proofs.Strategy.Random
set_option autoImplicit false

namespace TreeGrammar

namespace CommandLine

namespace Printing

def Prints (command : Printing Unit) (text : String) : Prop :=
  ∀ printed, command printed = .ok () (printed ++ text)

def Fails (command : Printing Unit) : Prop :=
  ∃ detail, ∀ printed, command printed = .error detail printed

def Whole (command : Printing Unit) : Prop := (∃ text, Prints command text) ∨ Fails command

theorem prints_print (text : String) : Prints (print text) text := fun _ => rfl

theorem prints_line (text : String) : Prints (printLine text) (text ++ "\n") := fun _ => rfl

theorem prints_nothing : Prints (return ()) "" := by
  intro printed
  rw [String.append_empty]
  rfl

theorem prints_then (first second : Printing Unit) (text further : String)
    (start : Prints first text) (onward : Prints second further) :
    Prints (do first; second) (text ++ further) := by
  intro printed
  change EStateM.bind first (fun _ => second) printed = _
  rw [EStateM.bind, start printed, ← String.append_assoc]
  exact onward (printed ++ text)

theorem prints_if (condition : Prop) [Decidable condition] (command : Printing Unit) (text : String)
    (prints : Prints command text) :
    Prints (if condition then command else return ()) (if condition then text else "") := by
  split
  · exact prints
  · exact prints_nothing

theorem prints_each {α : Type} (command : α → Printing Unit) (text : α → String)
    (prints : ∀ item, Prints (command item) (text item)) (items : List α) :
    Prints (items.forM command) (String.join (items.map text)) := by
  induction items with
  | nil => exact prints_nothing
  | cons item rest ih =>
    rw [List.map_cons, String.join_cons]
    exact prints_then _ _ _ _ (prints item) ih

theorem attempt_cases {α : Type} (result : Except String α) (command : α → Printing Unit) :
    Fails (attempt result >>= command) ∨
      ∃ value, result = .ok value ∧ (attempt result >>= command) = command value := by
  cases result with
  | ok value => exact .inr ⟨value, rfl, rfl⟩
  | error detail => exact .inl ⟨detail, fun _ => rfl⟩

theorem whole_attempt {α : Type} (result : Except String α) (command : α → Printing Unit)
    (onward : ∀ value, Whole (command value)) : Whole (attempt result >>= command) := by
  rcases attempt_cases result command with fails | ⟨value, _, same⟩
  · exact .inr fails
  · rw [same]
    exact onward value

end Printing

open Printing

theorem check_whole (definition : Definition) : Whole (check definition) :=
  .inl ⟨_, prints_then _ _ _ _ (prints_line _) (prints_if _ _ _ (prints_line _))⟩

theorem dump_whole (definition : Definition) (format : DumpFormat) :
    Whole (dump definition format) := by
  cases format with
  | text | yaml | json => exact .inl ⟨_, prints_print _⟩

theorem contexts_whole (definition : Definition) : Whole (contexts definition) :=
  .inl ⟨_, prints_each _ _ (fun _ => prints_line _) _⟩

theorem list_formats_whole (registry : Registry) : Whole (listFormats registry) :=
  .inl ⟨_, prints_then _ _ _ _ (prints_line _)
    (prints_each _ _ (fun _ => prints_then _ _ _ _ (prints_line _) (prints_line _)) _)⟩

def closed (text : String) : String := text ++ if !text.endsWith "\n" then "\n" else ""

theorem first_graph_prints (text : String) : Prints (printGraph true text) (closed text) :=
  prints_then _ _ _ _ (prints_print _) (prints_if _ _ _ (prints_print _))

theorem next_graph_prints (text : String) : Prints (printGraph false text) ("\n" ++ closed text) :=
  prints_then _ _ _ _ (prints_print _) (first_graph_prints text)

theorem intercalate_closed (text : String) (rest : List String) :
    "\n".intercalate ((text :: rest).map closed) =
      closed text ++ String.join (rest.map fun text => "\n" ++ closed text) := by
  induction rest generalizing text with
  | nil => exact String.append_empty.symm
  | cons next rest ih =>
    rw [List.map_cons, List.map_cons, String.intercalate_cons_cons, ← List.map_cons, ih,
      List.map_cons, String.join_cons, String.append_assoc, String.append_assoc]

theorem find_format_standard (name : String) (format : Format) (found : findFormat name = .ok format) :
    format = .treeviz ∨ format = .json := by
  have standard : Registry.standard.get? name =
      if name = "json" then some .json else if name = "treeviz" then some .treeviz else none := by
    rw [Registry.standard, Registry.add, Registry.add, NameMap.get?_insert, NameMap.get?_insert]
    rfl
  rw [findFormat, standard] at found
  split_ifs at found with json treeviz
  · cases found
    exact .inr rfl
  · cases found
    exact .inl rfl

theorem standard_renders (name : String) (format : Format) (found : findFormat name = .ok format)
    (graph : Graph) (outline : Outline) (outlined : graph.outline? = some outline) :
    ∃ text, format.render graph = .ok text := by
  rcases find_format_standard name format found with rfl | rfl
  · exact ⟨_, rfl⟩
  · refine ⟨outline.toJson.pretty, ?_⟩
    simp only [Format.json, Graph.nestedJson?, outlined, Option.map_some]

section

variable (settings : Settings) (root : String) (format : Format) (first : Bool) (count : Nat)
  (generator : Generator RandomStream)

theorem print_graphs_next (graph : Graph) (text : String)
    (grown : (generator.generate (depthLimit settings) root).1.result = .ok graph)
    (rendered : format.render graph = .ok text) :
    printGraphs settings root format first (count + 1) generator =
      (do
        printGraph first text
        printGraphs settings root format false count
          (generator.generate (depthLimit settings) root).2) := by
  rw [printGraphs]
  generalize generator.generate (depthLimit settings) root = called at grown ⊢
  obtain ⟨⟨result, log⟩, next⟩ := called
  cases grown
  simp only [rendered]

theorem print_graphs_refused (halt : Halt)
    (refused : (generator.generate (depthLimit settings) root).1.result = .error halt) :
    Fails (printGraphs settings root format first (count + 1) generator) := by
  rw [printGraphs]
  generalize generator.generate (depthLimit settings) root = called at refused ⊢
  obtain ⟨⟨result, log⟩, next⟩ := called
  cases refused
  cases halt with
  | error cause => exact ⟨cause.message, fun _ => rfl⟩
  | depthExceeded => exact ⟨"the graph is too deep", fun _ => rfl⟩

end

theorem load_definition_parsed (files : Files) (path : String) (definition : Definition)
    (loaded : loadDefinition files path = .ok definition) :
    ∃ text, Definition.parse path text = .ok definition := by
  rw [loadDefinition] at loaded
  cases read : (files path).contents with
  | error detail => simp only [read, reduceCtorEq] at loaded
  | ok text =>
    rw [read] at loaded
    cases parsed : Definition.parse path text with
    | error error => simp only [parsed, reduceCtorEq] at loaded
    | ok built =>
      simp only [parsed] at loaded
      cases loaded
      exact ⟨text, parsed⟩

structure Batch where
  definition : Definition
  settings : Settings
  root : String
  format : Format
  stream : RandomStream

namespace Batch

structure Requested (batch : Batch) (files : Files) (entropy : Nat) (path : String)
    (options : GenerateOptions) : Prop where
  definition : loadDefinition files path = .ok batch.definition
  settings : loadSettings files options.config = .ok batch.settings
  root : chooseRoot batch.definition options.root = .ok batch.root
  format : findFormat options.format = .ok batch.format
  stream : batch.stream = newStream (options.seed <|> batch.settings.seed) entropy

theorem Requested.from_text {batch : Batch} {files : Files} {entropy : Nat} {path : String}
    {options : GenerateOptions} (requested : batch.Requested files entropy path options) :
    batch.definition.FromText := by
  obtain ⟨text, parsed⟩ := load_definition_parsed files path batch.definition requested.definition
  exact .parsed path text parsed

variable (batch : Batch)

def call : Call := ⟨depthLimit batch.settings, batch.root⟩

def generator (index : Nat) : Generator RandomStream :=
  (Generator.new batch.definition (.random batch.settings) batch.stream).after
    (List.replicate index batch.call)

def result (index : Nat) : Except Halt Graph :=
  ((batch.generator index).generate batch.call.depth batch.call.root).1.result

def Yields (index : Nat) (text : String) : Prop :=
  ∃ graph, batch.result index = .ok graph ∧ batch.format.render graph = .ok text

theorem generator_keeps (index : Nat) :
    (batch.generator index).definition = batch.definition ∧
      (batch.generator index).strategy = .random batch.settings :=
  Generator.after_keeps _ _

theorem generator_next (index : Nat) :
    ((batch.generator index).generate batch.call.depth batch.call.root).2 =
      batch.generator (index + 1) := by
  rw [generator, generator, List.replicate_succ', Generator.after_append]
  rfl

theorem result_unknown (unknown : batch.definition.statement? batch.root = none) (index : Nat) :
    batch.result index = .error (.error (.unknownStatement batch.root)) := by
  rw [← (batch.generator_keeps index).1] at unknown
  exact (batch.generator index).unknown_root_fails _ _ unknown (lt_max_of_lt_right Nat.zero_lt_one)

theorem first_declared (graph : Graph) (grown : batch.result 0 = .ok graph) :
    batch.definition.Declares batch.root := by
  cases stated : batch.definition.statement? batch.root with
  | some statement => exact ⟨statement, stated⟩
  | none => cases grown.symm.trans (batch.result_unknown stated 0)

section

variable (origin : batch.definition.FromText) (name : String)
  (format : findFormat name = .ok batch.format)

include origin format

theorem yields (known : batch.definition.Declares batch.root) (index : Nat) :
    ∃ text, batch.Yields index text := by
  obtain ⟨definition, strategy⟩ := batch.generator_keeps index
  have careful : (batch.generator index).strategy.Careful batch.settings.maxDepth := by
    rw [strategy]
    exact random_careful batch.settings
  obtain ⟨graph, grown⟩ := (batch.generator index).careful_ends batch.settings.maxDepth careful
    batch.root batch.call.depth (by rwa [definition]) (Nat.le_refl _)
  obtain ⟨outline, outlined, _⟩ := generated_outline (batch.generator index) batch.call.depth
    batch.root graph (by rwa [definition]) grown
  obtain ⟨text, rendered⟩ := standard_renders name batch.format format graph outline outlined
  exact ⟨text, graph, grown, rendered⟩

theorem yields_later (graph : Graph) (grown : batch.result 0 = .ok graph) (index : Nat) :
    ∃ text, batch.Yields index text :=
  batch.yields origin name format (batch.first_declared graph grown) index

end

theorem print_graphs_yields (first : Bool) (index count : Nat) (text : String)
    (yields : batch.Yields index text) :
    printGraphs batch.settings batch.root batch.format first (count + 1) (batch.generator index) =
      (do
        printGraph first text
        printGraphs batch.settings batch.root batch.format false count
          (batch.generator (index + 1))) := by
  obtain ⟨graph, grown, rendered⟩ := yields
  rw [← generator_next]
  exact print_graphs_next _ _ _ first count _ graph text grown rendered

theorem print_graphs_after (all : ∀ index, ∃ text, batch.Yields index text) (index count : Nat) :
    ∃ texts, List.Forall₂ batch.Yields (List.range' index count) texts ∧
      Prints (printGraphs batch.settings batch.root batch.format false count (batch.generator index))
        (String.join (texts.map fun text => "\n" ++ closed text)) := by
  induction count generalizing index with
  | zero => exact ⟨[], .nil, prints_nothing⟩
  | succ count ih =>
    obtain ⟨text, yields⟩ := all index
    obtain ⟨texts, rest, prints⟩ := ih (index + 1)
    refine ⟨text :: texts, .cons yields rest, ?_⟩
    rw [batch.print_graphs_yields false index count text yields, List.map_cons, String.join_cons]
    exact prints_then _ _ _ _ (next_graph_prints text) prints

def Printed (count : Nat) (output : String) : Prop :=
  ∃ texts, List.Forall₂ batch.Yields (List.range count) texts ∧
    output = "\n".intercalate (texts.map closed)

-- Without a graph to print no root is looked up.
def Grows (count : Nat) : Prop := count = 0 ∨ batch.definition.contains batch.root = true

theorem print_graphs_grown (origin : batch.definition.FromText) (name : String)
    (format : findFormat name = .ok batch.format) (count : Nat) (grows : batch.Grows count) :
    ∃ output, batch.Printed count output ∧
      Prints (printGraphs batch.settings batch.root batch.format true count (batch.generator 0))
        output := by
  cases count with
  | zero => exact ⟨"", ⟨[], .nil, rfl⟩, prints_nothing⟩
  | succ count =>
    have known := (declares_iff _ _).2 (grows.resolve_left (Nat.succ_ne_zero count))
    have all := batch.yields origin name format known
    obtain ⟨text, yields⟩ := all 0
    obtain ⟨texts, rest, prints⟩ := batch.print_graphs_after all 1 count
    refine ⟨_, ⟨text :: texts, ?_, rfl⟩, ?_⟩
    · rw [List.range_eq_range']
      exact .cons yields rest
    · rw [batch.print_graphs_yields true 0 count text yields, intercalate_closed]
      exact prints_then _ _ _ _ (first_graph_prints text) prints

theorem print_graphs_stunted (count : Nat) (stunted : ¬ batch.Grows count) :
    Fails (printGraphs batch.settings batch.root batch.format true count (batch.generator 0)) := by
  obtain ⟨wanted, undeclared⟩ := not_or.1 stunted
  obtain ⟨count, rfl⟩ := Nat.exists_eq_succ_of_ne_zero wanted
  cases stated : batch.definition.statement? batch.root with
  | some statement => exact absurd ((declares_iff _ _).1 ⟨statement, stated⟩) undeclared
  | none => exact print_graphs_refused _ _ _ true count _ _ (batch.result_unknown stated 0)

end Batch

section

variable (files : Files) (entropy : Nat) (path : String) (options : GenerateOptions)

theorem generate_requested (batch : Batch) (requested : batch.Requested files entropy path options) :
    generate files entropy path options =
      printGraphs batch.settings batch.root batch.format true options.count (batch.generator 0) := by
  rw [generate, requested.definition, requested.settings, Batch.generator, requested.stream]
  change (do
    let root ← attempt (chooseRoot batch.definition options.root)
    let format ← attempt (findFormat options.format)
    printGraphs batch.settings root format true options.count _) = _
  rw [requested.root, requested.format]
  rfl

theorem generate_requests :
    Fails (generate files entropy path options) ∨
      ∃ batch, Batch.Requested batch files entropy path options := by
  rw [generate]
  rcases attempt_cases (loadDefinition files path) _ with fails | ⟨definition, loaded, onward⟩
  · exact .inl fails
  rw [onward]
  rcases attempt_cases (loadSettings files options.config) _ with fails | ⟨settings, configured, onward⟩
  · exact .inl fails
  rw [onward]
  rcases attempt_cases (chooseRoot definition options.root) _ with fails | ⟨root, chosen, onward⟩
  · exact .inl fails
  rw [onward]
  rcases attempt_cases (findFormat options.format) _ with fails | ⟨format, found, onward⟩
  · exact .inl fails
  exact .inr ⟨⟨definition, settings, root, format, newStream (options.seed <|> settings.seed) entropy⟩,
    loaded, configured, chosen, found, rfl⟩

section

variable (batch : Batch) (requested : batch.Requested files entropy path options)

include requested

theorem generate_grown (grows : batch.Grows options.count) :
    ∃ output, batch.Printed options.count output ∧
      Prints (generate files entropy path options) output := by
  rw [generate_requested files entropy path options batch requested]
  exact batch.print_graphs_grown requested.from_text options.format requested.format options.count grows

theorem generate_stunted (stunted : ¬ batch.Grows options.count) :
    Fails (generate files entropy path options) := by
  rw [generate_requested files entropy path options batch requested]
  exact batch.print_graphs_stunted options.count stunted

end

theorem generate_ends :
    Fails (generate files entropy path options) ∨
      ∃ batch output, Batch.Requested batch files entropy path options ∧
        batch.Printed options.count output ∧ Prints (generate files entropy path options) output := by
  rcases generate_requests files entropy path options with fails | ⟨batch, requested⟩
  · exact .inl fails
  by_cases grows : batch.Grows options.count
  · obtain ⟨output, printed, prints⟩ := generate_grown files entropy path options batch requested grows
    exact .inr ⟨batch, output, requested, printed, prints⟩
  · exact .inl (generate_stunted files entropy path options batch requested grows)

end

theorem command_whole (files : Files) (entropy : Nat) (command : Command) :
    Whole (command.run files entropy) := by
  cases command with
  | check path => exact whole_attempt _ _ check_whole
  | generate path options =>
    rcases generate_ends files entropy path options with fails | ⟨_, output, _, _, prints⟩
    · exact .inr fails
    · exact .inl ⟨output, prints⟩
  | dump path format => exact whole_attempt _ _ fun definition => dump_whole definition format
  | contexts path => exact whole_attempt _ _ contexts_whole
  | listFormats => exact list_formats_whole .standard

section

variable (files : Files) (entropy : Nat) (words : List String) (command : Command)
  (accepted : readWords words = .ok command)

include accepted

theorem run_prints (output : String) (prints : Prints (command.run files entropy) output) :
    run files entropy words = ⟨0, output, ""⟩ := by
  simp only [run, accepted, prints "", String.empty_append]

theorem run_fails (fails : Fails (command.run files entropy)) :
    ∃ detail, run files entropy words = ⟨1, "", "Error: " ++ detail ++ "\n"⟩ := by
  obtain ⟨detail, ends⟩ := fails
  refine ⟨detail, ?_⟩
  simp only [run, accepted, ends ""]

end

-- Graphs are printed while later ones are yet to grow, so this rests on all runs together: the
-- first graph is refused if its root is not declared, and otherwise no graph is refused.
theorem failing_commands_print_nothing (files : Files) (entropy : Nat) (words : List String) :
    ((run files entropy words).exitCode = 1 → (run files entropy words).output = "") ∧
    ∀ path options, readWords words = .ok (.generate path options) →
      ((run files entropy words).exitCode = 1 ∧ (run files entropy words).output = "" ∨
        (run files entropy words).exitCode = 0 ∧
          ∃ batch, Batch.Requested batch files entropy path options ∧
            batch.Printed options.count (run files entropy words).output) ∧
      ∀ batch, Batch.Requested batch files entropy path options →
        ((run files entropy words).exitCode = 0 ↔ batch.Grows options.count) ∧
        ∀ first, batch.result 0 = .ok first → ∀ index, ∃ text, batch.Yields index text := by
  refine ⟨?_, ?_⟩
  · intro failed
    cases read : readWords words with
    | error stop => cases stop <;> simp [run, read] at failed
    | ok command =>
      rcases command_whole files entropy command with ⟨output, prints⟩ | fails
      · rw [run_prints files entropy words command read output prints] at failed
        cases failed
      · obtain ⟨detail, whole⟩ := run_fails files entropy words command read fails
        rw [whole]
  · intro path options read
    refine ⟨?_, ?_⟩
    · rcases generate_ends files entropy path options with
        fails | ⟨batch, output, requested, printed, prints⟩
      · obtain ⟨detail, whole⟩ := run_fails files entropy words _ read fails
        rw [whole]
        exact .inl ⟨rfl, rfl⟩
      · rw [run_prints files entropy words _ read output prints]
        exact .inr ⟨rfl, batch, requested, printed⟩
    · intro batch requested
      refine ⟨⟨?_, ?_⟩, ?_⟩
      · intro succeeds
        by_contra stunted
        have fails := generate_stunted files entropy path options batch requested stunted
        obtain ⟨detail, whole⟩ := run_fails files entropy words _ read fails
        rw [whole] at succeeds
        cases succeeds
      · intro grows
        obtain ⟨output, _, prints⟩ := generate_grown files entropy path options batch requested grows
        rw [run_prints files entropy words _ read output prints]
      · exact batch.yields_later requested.from_text options.format requested.format

-- One definition, whose boxes draw sizes and alternatives from the stream, and no settings.
def boxFiles : Files := fun path =>
  if path = "boxes" then .text "box: item*; item: label? | label+; label;" else .missing

theorem boxes_printed :
    ((run boxFiles 0 ["generate", "boxes", "-r", "crate", "-n", "3"]).exitCode = 1 ∧
      (run boxFiles 0 ["generate", "boxes", "-r", "crate", "-n", "3"]).output = "") ∧
    ∃ batch, Batch.Requested batch boxFiles 0 "boxes" ⟨none, none, none, "treeviz", 2⟩ ∧
      batch.Printed 2 (run boxFiles 0 ["generate", "boxes", "-n", "2"]).output ∧
      ∀ index, ∃ text, batch.Yields index text := by
  have refused : (run boxFiles 0 ["generate", "boxes", "-r", "crate", "-n", "3"]).exitCode = 1 := by
    decide +kernel
  have silent := (failing_commands_print_nothing boxFiles 0 ["generate", "boxes", "-r", "crate", "-n", "3"]).1
  refine ⟨⟨refused, silent refused⟩, ?_⟩
  have read : readWords ["generate", "boxes", "-n", "2"] =
      .ok (.generate "boxes" ⟨none, none, none, "treeviz", 2⟩) := by decide
  have succeeds : (run boxFiles 0 ["generate", "boxes", "-n", "2"]).exitCode = 0 := by decide +kernel
  obtain ⟨ends, later⟩ :=
    (failing_commands_print_nothing boxFiles 0 ["generate", "boxes", "-n", "2"]).2 _ _ read
  rcases ends with ⟨failed, _⟩ | ⟨_, batch, requested, printed⟩
  · rw [succeeds] at failed
    cases failed
  · obtain ⟨texts, yielded, output⟩ := printed
    cases yielded with
    | cons first rest =>
      obtain ⟨graph, grown, rendered⟩ := first
      exact ⟨batch, requested, ⟨_, .cons ⟨graph, grown, rendered⟩ rest, output⟩,
        (later batch requested).2 graph grown⟩

end CommandLine

end TreeGrammar
