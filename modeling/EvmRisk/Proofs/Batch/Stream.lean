import EvmRisk.Proofs.Batch.Sequence
import EvmRisk.Proofs.Json.Layout
import EvmRisk.Proofs.Text.Lines

/-!
# A batch as a stream of documents

Where documents are wanted, all that a batch prints are the reports of the snapshots that can be
loaded, in the order of their paths, and the statistics if these are wanted, too (`documents`).
Each of them ends its line (`output_analyzeBatch`).

Without a line for every part the stream can be cut at its line breaks: no document has one of its
own, whatever the names in a snapshot hold, because no document has any control character
(`lineDelimited_run`). With a line for every part the same documents come, in another layout
(`squeeze_output`).
-/

namespace EvmRisk.CommandLine

open Json (Value squeeze)

/-! ### The documents of a batch -/

/-- The statistics of a batch. -/
def batchStats (files : String → Option String) (paths : List String)
    (periodStart periodEnd : Time.Instant) : Batch.Stats :=
  ((paths.map (assess files)).foldl count .empty).stats (some periodStart) (some periodEnd)

/-- The documents that a batch prints: the reports of the snapshots that can be loaded and, if
wanted, the statistics. -/
def documents (summary : Bool) (files : String → Option String) (paths : List String)
    (periodStart periodEnd : Time.Instant) : List Value :=
  (loaded files paths).map (fun p => p.2.analyze.report) ++
    if summary then [(batchStats files paths periodStart periodEnd).toValue] else []

variable {settings : Settings} {files : String → Option String} {paths : List String}
  {periodStart periodEnd : Time.Instant}

/-- A batch prints its `documents`, each with a line break behind it. -/
theorem output_analyzeBatch (json : settings.format = .json) :
    (analyzeBatch settings files paths periodStart periodEnd).output =
      String.join ((documents settings.batchSummary files paths periodStart periodEnd).map
        fun v => v.text settings.pretty ++ "\n") := by
  have reports : blocks settings files paths = String.join ((loaded files paths).map fun p =>
      p.2.analyze.report.text settings.pretty ++ "\n") := by
    rw [blocks, json]
    rfl
  have statistics : statsBlock settings (batchStats files paths periodStart periodEnd) =
      (batchStats files paths periodStart periodEnd).toValue.text settings.pretty ++ "\n" := by
    rw [statsBlock, json]
    rfl
  have printed : (analyzeBatch settings files paths periodStart periodEnd).output =
      blocks settings files paths ++ if settings.batchSummary then
        statsBlock settings (batchStats files paths periodStart periodEnd) else "" := by
    rw [← join_blockOf]
    simp only [analyzeBatch, List.map_map, Function.comp_def, batchStats]
  rw [printed, reports, statistics, documents, List.map_append, String.join_append, List.map_map]
  cases settings.batchSummary with
  | true => simp [String.join_cons, Function.comp_def]
  | false => rfl

/-! ### On one line each -/

/-- `output` has one line for each document. -/
structure LineDelimited (summary : Bool) (files : String → Option String) (paths : List String)
    (stats : Batch.Stats) (output : String) : Prop where
  /-- The lines are the reports of the snapshots that can be loaded, in the order of their paths,
  and the statistics if they are wanted. The last line is ended, too: behind it there is nothing. -/
  lines : Text.lines output =
    (loaded files paths).map (fun p => p.2.analyze.report.compact.toList) ++
      (if summary then [(stats.json false).toList] else []) ++ [[]]
  /-- A line is the report of the snapshot that is loaded at its place. -/
  line : ∀ (i : Nat) (path : String) (s : Snapshot), (loaded files paths)[i]? = some (path, s) →
    (Text.lines output)[i]? = some s.analyze.report.compact.toList
  /-- As many lines are ended as there are snapshots that can be loaded, and one for the
  statistics. -/
  breaks : Text.breaks output = (loaded files paths).length + if summary then 1 else 0
  /-- No line has a control character in it. -/
  printable : ∀ line ∈ Text.lines output, ∀ c ∈ line, 0x20 ≤ c.toNat

/-- With one line for each document, the lines of the output are the documents. -/
theorem lines_output (json : settings.format = .json) (oneLine : settings.pretty = false) :
    Text.lines (analyzeBatch settings files paths periodStart periodEnd).output =
      (documents settings.batchSummary files paths periodStart periodEnd).map
        (fun v => v.compact.toList) ++ [[]] := by
  have whole : ∀ text ∈ (documents settings.batchSummary files paths periodStart periodEnd).map
      Value.compact, '\n' ∉ text.toList := by
    intro text listed
    obtain ⟨v, -, rfl⟩ := List.mem_map.mp listed
    intro newline
    -- A line break is a control character.
    exact absurd (v.printable_compact '\n' newline) (by decide)
  have ended := Text.lines_join_newline whole
  rw [List.map_map, List.map_map] at ended
  rw [output_analyzeBatch json, oneLine]
  exact ended

theorem lineDelimited_analyzeBatch (json : settings.format = .json)
    (oneLine : settings.pretty = false) :
    LineDelimited settings.batchSummary files paths (batchStats files paths periodStart periodEnd)
      (analyzeBatch settings files paths periodStart periodEnd).output := by
  have cut : Text.lines (analyzeBatch settings files paths periodStart periodEnd).output = _ :=
    lines_output json oneLine
  constructor
  case lines =>
    rw [cut, documents, List.map_append, List.map_map]
    cases settings.batchSummary <;> rfl
  case line =>
    intro i path s found
    have inside : i < (loaded files paths).length := (List.getElem?_eq_some_iff.mp found).1
    rw [cut, documents, List.map_append, List.map_map, List.append_assoc,
      List.getElem?_append_left (by rwa [List.length_map]), List.getElem?_map, found]
    rfl
  case breaks =>
    have length := congrArg List.length cut
    rw [Text.length_lines, List.length_append, List.length_map, documents, List.length_append,
      List.length_map] at length
    rw [Nat.add_right_cancel length]
    cases settings.batchSummary <;> rfl
  case printable =>
    rw [cut]
    simp only [List.forall_mem_append, List.forall_mem_map, List.forall_mem_singleton]
    exact ⟨fun v _ => v.printable_compact, nofun⟩

/-- **With one line for each document, the output can be cut at its line breaks.** -/
theorem lineDelimited_run {arguments : List String} {environment : String → Option String}
    {options : AnalyzeOptions} (asked : Request.ofArguments? arguments = some (.analyze options))
    (set : settingsFor environment (.analyze options) = .ok settings)
    (json : settings.format = .json) (oneLine : settings.pretty = false) :
    LineDelimited settings.batchSummary files options.paths
      (batchStats files options.paths periodStart periodEnd)
      (run arguments environment files periodStart periodEnd).output := by
  rw [run_eq_analyzeBatch asked set]
  exact lineDelimited_analyzeBatch json oneLine

/-- A name with a line break in it, in a file that is given twice, and a file that holds no
document. -/
theorem lineDelimited_run_brokenName :
    let files (path : String) : Option String :=
      if path = "b.json" then some "\x7b\"explorerInfo\":\x7b\"contractName\":\"A\\nB\"\x7d\x7d"
      else some "["
    let arguments := ["analyze", "--format=json", "--summary", "a.json", "b.json", "b.json"]
    let start := Time.Instant.ofNanos 0
    let output := (run arguments (fun _ => none) files start start).output
    ∃ s, snapshotIn? (files "b.json") = some s ∧
      s.explorer.bind Explorer.contractName = some "A\nB" ∧
      (Text.lines output)[1]? = some s.analyze.report.compact.toList ∧
      Text.breaks output = 3 ∧ ∀ line ∈ Text.lines output, ∀ c ∈ line, 0x20 ≤ c.toNat := by
  intro files arguments start output
  let options : AnalyzeOptions := ⟨["a.json", "b.json", "b.json"], some "json", false, true⟩
  let s : Snapshot := { explorer := some ⟨false, false, none, none, none, some "A\nB", none⟩ }
  have undecodable : snapshotIn? (files "a.json") = none := rfl
  have snapshot : snapshotIn? (files "b.json") = some s := rfl
  have two : loaded files options.paths = [("b.json", s), ("b.json", s)] := by
    simp [loaded, options, undecodable, snapshot]
  let settings : Settings := { format := .json, batchSummary := true }
  have asked : Request.ofArguments? arguments = some (.analyze options) := rfl
  have set : settingsFor (fun _ => none) (.analyze options) = .ok settings := rfl
  obtain ⟨-, line, breaks, printable⟩ : LineDelimited true files options.paths
      (batchStats files options.paths start start) output := lineDelimited_run asked set rfl rfl
  refine ⟨s, snapshot, rfl, line 1 "b.json" s ?_, ?_, printable⟩
  · rw [two]
    rfl
  · rw [breaks, two]
    rfl

/-! ### On many lines -/

/-- **A line for every part changes nothing but the layout**, of a report with any findings, of any
statistics, and of all that a batch prints. -/
theorem squeeze_output :
    (∀ a : Assessment, squeeze a.report.pretty = a.report.compact) ∧
      (∀ stats : Batch.Stats, squeeze (stats.json true) = stats.json false) ∧
      ∀ (settings : Settings) (pretty : Bool) (files : String → Option String)
        (paths : List String) (periodStart periodEnd : Time.Instant),
        squeeze (analyzeBatch { settings with format := .json, pretty } files paths periodStart
            periodEnd).output =
          String.join ((documents settings.batchSummary files paths periodStart periodEnd).map
            Value.compact) := by
  refine ⟨fun a => a.report.squeeze_pretty, fun stats => stats.toValue.squeeze_pretty, ?_⟩
  intro settings pretty files paths periodStart periodEnd
  rw [output_analyzeBatch rfl, Value.squeeze_join_text]

end EvmRisk.CommandLine
