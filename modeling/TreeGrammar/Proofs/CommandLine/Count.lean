import Mathlib.Data.List.Forall2
import TreeGrammar.Proofs.CommandLine
import TreeGrammar.Proofs.Format.Lines
import TreeGrammar.Proofs.Json.Lines
set_option autoImplicit false

namespace TreeGrammar

namespace Graph

theorem label_filled (graph : Graph) (id : NodeId) : graph.label id ≠ "" := by
  rw [label]
  cases graph.target? id <;> simp [String.append_eq_empty_iff]

theorem line_filled (graph : Graph) (id : NodeId) : graph.line id ≠ "" := by
  rw [line]
  cases graph.ancestors id with
  | nil => exact graph.label_filled id
  | cons parent above => exact fun empty => graph.label_filled id (String.append_eq_empty_iff.1 empty).2

end Graph

theorem Outline.pretty_closes (outline : Outline) :
    outline.toJson.pretty.toList.getLast? = some '\x7d' := by
  cases outline with
  | node id name target children =>
    cases target with
    | none => exact Json.pretty_object_closes _
    | some target => exact Json.pretty_object_closes _

theorem generated_treeviz_lined {σ : Type} (generator : Generator σ) (depth : Nat) (root : String)
    (graph : Graph) (origin : generator.definition.FromText)
    (success : (generator.generate depth root).1.result = .ok graph) : Lined graph.treeviz := by
  obtain ⟨sprout, grows⟩ := Generator.generate_grows generator depth root graph success
  have expressible := Definition.from_text_expressible generator.definition origin
  refine ⟨graph.ids.map graph.line, ?_, ?_, ?_⟩
  · rw [Graph.ids, Graph.planted_size graph sprout grows.planted, ← List.length_pos_iff,
      List.length_map, List.length_range]
    exact sprout.size_pos
  · intro line listed
    obtain ⟨id, among, rfl⟩ := List.mem_map.1 listed
    exact ⟨graph.line_filled id,
      grown_unbroken generator depth root graph sprout grows expressible id among⟩
  · rw [grown_drawn generator depth root graph sprout grows, List.map_map]
    rfl

namespace CommandLine

open Printing

theorem ends_line_iff (text : String) : text.endsWith "\n" = true ↔ ['\n'] <:+ text.toList := by
  rw [← String.endsWith_toSlice, String.Slice.endsWith_string_iff, String.copy_toSlice]
  rfl

theorem closed_lined (text : String) (lined : Lined text) : closed text = text := by
  rw [closed, (ends_line_iff text).2 lined.ends]
  exact String.append_empty

theorem closed_open (text : String) (last : text.toList.getLast? ≠ some '\n') :
    closed text = text ++ "\n" := by
  have unended : text.endsWith "\n" = false := by
    rw [Bool.eq_false_iff, Ne, ends_line_iff]
    rintro ⟨front, whole⟩
    rw [← whole] at last
    exact last List.getLast?_concat
  rw [closed, unended]
  rfl

namespace Batch

variable (batch : Batch)

theorem yields_lined (origin : batch.definition.FromText) (name : String)
    (format : findFormat name = .ok batch.format) (index : Nat) (text : String)
    (yields : batch.Yields index text) : Lined (closed text) := by
  obtain ⟨graph, grown, rendered⟩ := yields
  rw [← (batch.generator_keeps index).1] at origin
  rcases find_format_standard name batch.format format with drawn | written
  · rw [drawn] at rendered
    cases rendered
    have lined := generated_treeviz_lined (batch.generator index) _ _ graph origin grown
    rwa [closed_lined _ lined]
  · obtain ⟨outline, outlined, _⟩ := generated_outline (batch.generator index) _ _ graph origin grown
    simp only [written, Format.json, Graph.nestedJson?, outlined, Option.map_some] at rendered
    cases rendered
    have closes : outline.toJson.pretty.toList.getLast? = some '\x7d' := outline.pretty_closes
    rw [closed_open _ (by rw [closes]; decide)]
    exact outline.toJson.pretty_lined

theorem yields_unique (index : Nat) (text another : String) (first : batch.Yields index text)
    (second : batch.Yields index another) : text = another := by
  obtain ⟨graph, grown, rendered⟩ := first
  obtain ⟨same, alike, drawn⟩ := second
  cases grown.symm.trans alike
  exact Except.ok.inj (rendered.symm.trans drawn)

theorem yields_shorter (fewer count : Nat) (less : fewer ≤ count) (texts first : List String)
    (all : List.Forall₂ batch.Yields (List.range count) texts)
    (some : List.Forall₂ batch.Yields (List.range fewer) first) : first = texts.take fewer := by
  have taken := List.forall₂_take fewer all
  rw [List.take_range, Nat.min_eq_left less] at taken
  exact List.right_unique_forall₂' (fun index text another => batch.yields_unique index text another)
    some taken

def fresh (index : Nat) : Generator RandomStream :=
  .new batch.definition (.random batch.settings) (batch.generator index).state

theorem generator_fresh (index : Nat) :
    (batch.generator index).generate batch.call.depth batch.call.root =
      (batch.fresh index).generate batch.call.depth batch.call.root := by
  obtain ⟨definition, strategy⟩ := batch.generator_keeps index
  rw [Generator.generate_new, definition, strategy, fresh]

theorem grows_fewer (fewer count : Nat) (less : fewer ≤ count) (grows : batch.Grows count) :
    batch.Grows fewer := by
  rcases grows with rfl | known
  · exact .inl (Nat.le_zero.1 less)
  · exact .inr known

theorem requested_fewer (files : Files) (entropy other : Nat) (path : String)
    (options : GenerateOptions) (seed fewer : Nat) (seeded : options.seed = some seed)
    (requested : batch.Requested files entropy path options) :
    batch.Requested files other path { options with count := fewer } where
  definition := requested.definition
  settings := requested.settings
  root := requested.root
  format := requested.format
  stream := by
    have stream := requested.stream
    rw [seeded] at stream
    rw [stream, seeded]
    rfl

end Batch

theorem intercalate_further (first more : List String) :
    ∃ rest, "\n".intercalate ((first ++ more).map closed) =
      "\n".intercalate (first.map closed) ++ rest := by
  cases first with
  | nil => exact ⟨_, String.empty_append.symm⟩
  | cons text later =>
    refine ⟨String.join (more.map fun text => "\n" ++ closed text), ?_⟩
    rw [List.cons_append, intercalate_closed, intercalate_closed, List.map_append, String.join_append,
      String.append_assoc]

section

variable (files : Files) (entropy : Nat) (words : List String) (path : String)
  (options : GenerateOptions) (read : readWords words = .ok (.generate path options))

include read

theorem failing_run (fails : Fails (generate files entropy path options)) :
    (run files entropy words).exitCode = 1 := by
  obtain ⟨detail, whole⟩ := run_fails files entropy words _ read fails
  rw [whole]

theorem succeeding_run (succeeds : (run files entropy words).exitCode = 0) :
    ∃ batch, Batch.Requested batch files entropy path options ∧ batch.Grows options.count := by
  have working : ¬ Fails (generate files entropy path options) := by
    intro fails
    rw [failing_run files entropy words path options read fails] at succeeds
    cases succeeds
  obtain ⟨batch, requested⟩ := (generate_requests files entropy path options).resolve_left working
  refine ⟨batch, requested, ?_⟩
  by_contra stunted
  exact working (generate_stunted files entropy path options batch requested stunted)

theorem growing_run (batch : Batch) (requested : batch.Requested files entropy path options)
    (grows : batch.Grows options.count) :
    (run files entropy words).exitCode = 0 ∧
      batch.Printed options.count (run files entropy words).output := by
  obtain ⟨output, printed, prints⟩ := generate_grown files entropy path options batch requested grows
  rw [run_prints files entropy words _ read output prints]
  exact ⟨rfl, printed⟩

end

theorem further_graphs_follow (files : Files) (entropy other : Nat) (words fewerWords : List String)
    (path : String) (options : GenerateOptions) (seed fewer : Nat)
    (seeded : options.seed = some seed) (less : fewer ≤ options.count)
    (read : readWords words = .ok (.generate path options))
    (reread : readWords fewerWords = .ok (.generate path { options with count := fewer }))
    (succeeds : (run files entropy words).exitCode = 0) :
    (run files other fewerWords).exitCode = 0 ∧
    (∃ rest, (run files entropy words).output = (run files other fewerWords).output ++ rest) ∧
    ∃ batch, Batch.Requested batch files entropy path options ∧
      batch.stream = .ofSeed (.ofNat seed) ∧
      (∀ index, (batch.generator index).generate batch.call.depth batch.call.root =
        (batch.fresh index).generate batch.call.depth batch.call.root) ∧
      ∃ texts, List.Forall₂ batch.Yields (List.range options.count) texts ∧
        (∀ text ∈ texts, Lined (closed text)) ∧
        (run files entropy words).output = "\n".intercalate (texts.map closed) := by
  obtain ⟨batch, requested, grows⟩ := succeeding_run files entropy words path options read succeeds
  obtain ⟨_, texts, all, output⟩ :=
    growing_run files entropy words path options read batch requested grows
  obtain ⟨ends, first, some, beginning⟩ :=
    growing_run files other fewerWords path { options with count := fewer } reread batch
      (batch.requested_fewer files entropy other path options seed fewer seeded requested)
      (batch.grows_fewer fewer options.count less grows)
  refine ⟨ends, ?_, batch, requested, ?_, batch.generator_fresh, texts, all, ?_, output⟩
  · obtain ⟨rest, further⟩ := intercalate_further (texts.take fewer) (texts.drop fewer)
    rw [List.take_append_drop] at further
    rw [output, beginning, batch.yields_shorter fewer options.count less texts first all some]
    exact ⟨rest, further⟩
  · rw [requested.stream, seeded]
    rfl
  · refine ((List.forall₂_and_left _ _).1 (all.flip.imp fun text index yields => ⟨?_, yields⟩)).1
    exact batch.yields_lined requested.from_text options.format requested.format index text yields

theorem further_boxes_follow :
    (run boxFiles 0 ["generate", "boxes", "-s", "7", "-n", "2"]).exitCode = 0 ∧
      ∃ rest, (run boxFiles 0 ["generate", "boxes", "-s", "7", "-n", "3"]).output =
        (run boxFiles 0 ["generate", "boxes", "-s", "7", "-n", "2"]).output ++ rest := by
  have read : readWords ["generate", "boxes", "-s", "7", "-n", "3"] =
      .ok (.generate "boxes" ⟨none, some 7, none, "treeviz", 3⟩) := by decide
  have reread : readWords ["generate", "boxes", "-s", "7", "-n", "2"] =
      .ok (.generate "boxes" ⟨none, some 7, none, "treeviz", 2⟩) := by decide
  have succeeds : (run boxFiles 0 ["generate", "boxes", "-s", "7", "-n", "3"]).exitCode = 0 := by
    decide +kernel
  obtain ⟨ends, beginning, _⟩ := further_graphs_follow boxFiles 0 0 _ _ "boxes" _ 7 2 rfl (by decide)
    read reread succeeds
  exact ⟨ends, beginning⟩

end CommandLine

end TreeGrammar
