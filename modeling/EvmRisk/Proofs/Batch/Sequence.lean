import EvmRisk.CommandLine
import EvmRisk.Proofs.Batch.Counting
import EvmRisk.Proofs.Json.Layout
import EvmRisk.Proofs.Json.Records
import EvmRisk.Proofs.Text.Lines

/-!
# One snapshot after the other

A batch goes through its paths one at a time (`Progress.advance`): a snapshot that can be loaded is
printed and counted, any other one is only counted. What has been printed and counted up to some
path says all about the paths up to there (`Progress.Accounts`), and the outcome of the batch is
what the last path leaves behind (`analyzeBatch_eq_finish`).

So a batch prints what it would print for each snapshot alone, in the order of the arguments, and
then its statistics if they are wanted (`sequential_analyzeBatch`).
-/

namespace EvmRisk.CommandLine

open Json (Node Value)

/-! ### What is printed about a snapshot -/

/-- The snapshot that a file holds, if the file can be read and holds one. -/
def snapshotIn? (file : Option String) : Option Snapshot := file.bind Snapshot.read?

/-- `block` for the assessment of `s`, by the two settings that matter for it. -/
def snapshotBlock (format : OutputFormat) (pretty : Bool) (path : String) (s : Snapshot) : String :=
  block { format, pretty } path s.analyze

/-- `text` shows the assessment `a` of the snapshot in the file `path`: as text, its lines are those
of the path, those of the summary and an empty one; as a document, it is read as the report of `a`.
Its last line is ended. -/
def ShowsAssessment (format : OutputFormat) (path : String) (a : Assessment) (text : String) :
    Prop :=
  match format with
  | .text => Text.lines text = Text.lines ("📄 " ++ path) ++ (Text.lines a.summary ++ [[], []])
  | .json => ['\n'] <:+ text.toList ∧ Node.read? text.toList = some a.report.toNode

/-- `block settings path a` shows the assessment `a` of the snapshot in the file `path`. -/
theorem showsAssessment_block (settings : Settings) (path : String) (a : Assessment) :
    ShowsAssessment settings.format path a (block settings path a) := by
  unfold block
  cases settings.format with
  | text =>
    have parts : "📄 " ++ path ++ "\n" ++ a.summary ++ "\n\n" =
        ("📄 " ++ path) ++ "\n" ++ (a.summary ++ "\n" ++ ("" ++ "\n" ++ "")) := by
      simp only [String.append_assoc]
      rfl
    show Text.lines ("📄 " ++ path ++ "\n" ++ a.summary ++ "\n\n") = _
    rw [parts, Text.lines_append_newline_append, Text.lines_append_newline_append,
      Text.lines_append_newline_append]
    rfl
  | json =>
    refine ⟨?_, a.report.read?_text_newline settings.pretty⟩
    rw [String.toList_append]
    exact List.suffix_append _ _

/-- The snapshots that can be loaded, in the order of their paths. -/
def loaded (files : String → Option String) (paths : List String) : List (String × Snapshot) :=
  paths.filterMap fun path => (snapshotIn? (files path)).map (path, ·)

/-- The blocks of the snapshots that can be loaded, in the order of their paths. -/
def blocks (settings : Settings) (files : String → Option String) (paths : List String) : String :=
  String.join ((loaded files paths).map fun p =>
    snapshotBlock settings.format settings.pretty p.1 p.2)

variable {settings : Settings} {files : String → Option String}

/-- `assess` gives the assessment of the snapshot in the file, if there is one. -/
theorem toOption_assess (files : String → Option String) (path : String) :
    (assess files path).toOption = (snapshotIn? (files path)).map Snapshot.analyze := by
  unfold assess snapshotIn?
  cases files path with
  | none => rfl
  | some text =>
    simp only [Option.bind_some]
    cases Snapshot.read? text <;> rfl

/-- The blocks of two lists of paths come one after the other. -/
theorem blocks_append (before after : List String) :
    blocks settings files (before ++ after) =
      blocks settings files before ++ blocks settings files after := by
  rw [blocks, loaded, List.filterMap_append, List.map_append, String.join_append]
  rfl

/-- The block of one path is that of the snapshot there, or nothing. -/
theorem blocks_singleton (settings : Settings) (files : String → Option String) (path : String) :
    blocks settings files [path] = ((snapshotIn? (files path)).map
      (snapshotBlock settings.format settings.pretty path)).getD "" := by
  unfold blocks loaded
  cases found : snapshotIn? (files path) <;> simp [found, String.join]

/-- For one path `blockOf` is `blocks` of that path. -/
theorem blockOf_assess (settings : Settings) (files : String → Option String) (path : String) :
    blockOf settings path (assess files path) = blocks settings files [path] := by
  have printed (r : Except Fault Assessment) :
      blockOf settings path r = (r.toOption.map (block settings path)).getD "" := by
    cases r <;> rfl
  rw [printed, toOption_assess, blocks_singleton, Option.map_map]
  rfl

/-- Joined over all paths `blockOf` is `blocks` of these paths. -/
theorem join_blockOf (settings : Settings) (files : String → Option String) (paths : List String) :
    String.join (paths.map fun path => blockOf settings path (assess files path)) =
      blocks settings files paths := by
  induction paths with
  | nil => rfl
  | cons path paths ih =>
    rw [List.map_cons, String.join_cons, ih, blockOf_assess, ← blocks_append]
    rfl

/-! ### Going through the paths -/

/-- How far a batch has come. -/
structure Progress where
  /-- The text that has been printed. -/
  output : String := ""
  /-- The complaints that have been made. -/
  complaints : List String := []
  /-- The results that have been counted. -/
  tally : Batch.Tally := .empty

namespace Progress

/-- One path further. -/
def advance (settings : Settings) (files : String → Option String) (p : Progress) (path : String) :
    Progress :=
  match assess files path with
  | .ok a => { p with output := p.output ++ block settings path a, tally := p.tally.record a }
  | .error fault =>
    { p with
      complaints := p.complaints ++ ["❌ " ++ path ++ ": " ++ fault.display]
      tally := p.tally.recordFailure }

/-- The outcome of a batch after its last path. -/
def finish (settings : Settings) (periodStart periodEnd : Time.Instant) (p : Progress) : Outcome :=
  { exitCode := if 0 < p.tally.failed then 1 else 0
    output := p.output ++
      if settings.batchSummary then
        statsBlock settings (p.tally.stats (some periodStart) (some periodEnd))
      else ""
    complaints := p.complaints }

/-- `p.output`, `p.complaints` and `p.tally` are those of `paths`. -/
structure Accounts (settings : Settings) (files : String → Option String) (p : Progress)
    (paths : List String) : Prop where
  output : p.output = blocks settings files paths
  complaints : p.complaints = paths.filterMap fun path => complaint? path (assess files path)
  tally : p.tally = (paths.map (assess files)).foldl count .empty

theorem accounts_start (settings : Settings) (files : String → Option String) :
    Accounts settings files {} [] := ⟨rfl, rfl, rfl⟩

/-- **`advance` accounts for one path more.** -/
theorem Accounts.advance {p : Progress} {paths : List String} (h : Accounts settings files p paths)
    (path : String) :
    Accounts settings files (p.advance settings files path) (paths ++ [path]) := by
  have printed := blockOf_assess settings files path
  unfold Progress.advance
  cases came : assess files path with
  | ok a =>
    rw [came] at printed
    constructor
    case output => rw [blocks_append, ← printed, h.output]; rfl
    case complaints => simp [h.complaints, came, complaint?]
    case tally => simp [h.tally, came, count]
  | error fault =>
    rw [came] at printed
    constructor
    case output => rw [blocks_append, ← printed, h.output]; exact (String.append_empty).symm
    case complaints => simp [h.complaints, came, complaint?]
    case tally => simp [h.tally, came, count]

/-- Going through further paths accounts for them, too. -/
theorem Accounts.foldl {p : Progress} {paths : List String} (h : Accounts settings files p paths)
    (more : List String) :
    Accounts settings files (more.foldl (Progress.advance settings files) p) (paths ++ more) := by
  induction more generalizing p paths with
  | nil =>
    rw [List.append_nil]
    exact h
  | cons path more ih =>
    have next := ih (h.advance path)
    rwa [List.append_assoc] at next

end Progress

/-- **A batch goes through its paths one at a time** and finishes with the progress made. -/
theorem analyzeBatch_eq_finish (settings : Settings) (files : String → Option String)
    (paths : List String) (periodStart periodEnd : Time.Instant) :
    analyzeBatch settings files paths periodStart periodEnd =
      (paths.foldl (Progress.advance settings files) {}).finish settings periodStart periodEnd := by
  have done := (Progress.accounts_start settings files).foldl paths
  rw [Progress.finish, done.output, done.complaints, done.tally, ← join_blockOf]
  simp only [analyzeBatch, List.map_map, List.filterMap_map, List.nil_append, Function.comp_def]

/-! ### What is printed at the end -/

/-- The text shows how many snapshots were assessed and how many failed, and how often each label
was given: in two lines after a heading, or as members of a document. -/
def ShowsCounts (format : OutputFormat) (stats : Batch.Stats) (text : String) : Prop :=
  let shown (label : RiskLabel) : String := Nat.repr (stats.countOf label)
  match format with
  | .text => ∃ score rest, text =
      "📊 Batch Summary\n   Analyzed: " ++ Nat.repr stats.analyzed ++ " | Failed: " ++
        Nat.repr stats.failed ++ " | Avg Score: " ++ score ++ "\n   ✅ Low: " ++ shown .low ++
        " | 🟠 Medium: " ++ shown .medium ++ " | 🔴 High: " ++ shown .high ++ rest
  | .json => ∃ (members : List (String × Value)) (labels : List (String × Nat)),
      Node.read? text.toList = some (Value.object members).toNode ∧
      members.lookup "total_analyzed" = some (.ofNat stats.analyzed) ∧
      members.lookup "total_failed" = some (.ofNat stats.failed) ∧
      members.lookup "by_label" = some (Batch.Stats.countsValue labels) ∧
      ∀ label : RiskLabel, (labels.lookup label.text).getD 0 = stats.countOf label

theorem exists_intercalate_cons (sep s : String) (l : List String) :
    ∃ rest, String.intercalate sep (s :: l) = s ++ rest := by
  cases l with
  | nil => exact ⟨"", by simp⟩
  | cons t l => exact ⟨_, by rw [String.intercalate_cons_cons, String.append_assoc]⟩

theorem showsCounts_summary (stats : Batch.Stats) :
    ShowsCounts .text stats (stats.summary ++ "\n") := by
  obtain ⟨rest, lines⟩ := exists_intercalate_cons "\n"
    ("   " ++ String.intercalate " | " (RiskLabel.all.map stats.labelText))
    (stats.flagged.map fun c => Batch.Stats.flaggedLine c.1 c.2)
  refine ⟨String.ofList (Decimal.fixed 1 stats.averageScore), rest ++ "\n", ?_⟩
  rw [Batch.Stats.summary, List.cons_append, List.cons_append, List.singleton_append,
    String.intercalate_cons_cons, String.intercalate_cons_cons, lines]
  rw [← String.toList_inj]
  simp [RiskLabel.all, Batch.Stats.labelText, RiskLabel.emoji, RiskLabel.text]

theorem showsCounts_json (stats : Batch.Stats) (pretty : Bool) :
    ShowsCounts .json stats (stats.json pretty ++ "\n") :=
  ⟨_, stats.byLabel, stats.toValue.read?_text_newline pretty, rfl, rfl, rfl, fun _ => rfl⟩

/-- `statsBlock` shows the counts in either format. -/
theorem showsCounts_statsBlock (settings : Settings) (stats : Batch.Stats) :
    ShowsCounts settings.format stats (statsBlock settings stats) := by
  unfold statsBlock
  cases settings.format with
  | text => exact showsCounts_summary stats
  | json => exact showsCounts_json stats settings.pretty

/-! ### The outcome of a batch -/

/-- The failures are the paths without a snapshot. -/
theorem failures_map_assess (files : String → Option String) (paths : List String) :
    Batch.failures (paths.map (assess files)) =
      paths.countP fun path => (snapshotIn? (files path)).isNone := by
  rw [Batch.failures, List.countP_map]
  simp only [Function.comp_def, toOption_assess, Option.isNone_map]

/-- The assessments are those of the snapshots that can be loaded. -/
theorem assessed_map_assess (files : String → Option String) (paths : List String) :
    Batch.assessed (paths.map (assess files)) = (loaded files paths).map fun p => p.2.analyze := by
  rw [Batch.assessed, loaded, List.filterMap_map, List.map_filterMap]
  simp only [Function.comp_def, toOption_assess, Option.map_map]

/-- Every path is loaded or failed. -/
theorem length_loaded_add_failures (files : String → Option String) (paths : List String) :
    (loaded files paths).length + Batch.failures (paths.map (assess files)) = paths.length := by
  rw [failures_map_assess, loaded, List.length_filterMap_eq_countP,
    List.length_eq_countP_add_countP fun path => (snapshotIn? (files path)).isSome]
  congr 1
  · exact List.countP_congr fun path _ => by rw [Option.isSome_map]
  · exact List.countP_congr fun path _ => by simp

/-- The outcome of a batch in terms of the snapshots that its paths lead to. -/
structure Sequential (settings : Settings) (files : String → Option String) (paths : List String)
    (outcome : Outcome) : Prop where
  /-- The exit code is `1` if some path leads to no snapshot. -/
  exitCode_failed : (∃ path ∈ paths, snapshotIn? (files path) = none) → outcome.exitCode = 1
  /-- The exit code is `0` if all paths lead to a snapshot. -/
  exitCode_loaded : (∀ path ∈ paths, snapshotIn? (files path) ≠ none) → outcome.exitCode = 0
  /-- Without statistics the output is the blocks of the snapshots that can be loaded, in order. -/
  output : settings.batchSummary = false → outcome.output = blocks settings files paths
  /-- With statistics it goes on with a text that shows them. `analyzed` and `failed` add up to the
  number of paths, and the counts of the three labels to `analyzed`. -/
  output_summary : settings.batchSummary = true → ∃ (stats : Batch.Stats) (text : String),
    outcome.output = blocks settings files paths ++ text ∧ ShowsCounts settings.format stats text ∧
      stats.analyzed = (loaded files paths).length ∧
      stats.analyzed + stats.failed = paths.length ∧
      (∀ l, stats.countOf l = (loaded files paths).countP fun p => p.2.analyze.label = l) ∧
      stats.countOf .low + stats.countOf .medium + stats.countOf .high = stats.analyzed

/-- `text` is the output for `path` alone, in any run with this format and without statistics,
whatever other files there are and whenever it is. -/
def PrintedAlone (settings : Settings) (files : String → Option String) (path text : String) :
    Prop :=
  ∀ (other : Settings) (others : String → Option String) (periodStart periodEnd : Time.Instant),
    other.format = settings.format → other.pretty = settings.pretty →
      other.batchSummary = false → others path = files path →
        (analyzeBatch other others [path] periodStart periodEnd).output = text

/-- The outcome of a batch is `Sequential`, by the invariant `Accounts` at the last path. -/
theorem sequential_outcome (settings : Settings) (files : String → Option String)
    (paths : List String) (periodStart periodEnd : Time.Instant) :
    Sequential settings files paths
      (analyzeBatch settings files paths periodStart periodEnd) := by
  have exact := Batch.Tally.exact_foldl (paths.map (assess files))
  have done := (Progress.accounts_start settings files).foldl paths
  rw [List.nil_append] at done
  rw [analyzeBatch_eq_finish]
  -- From here on only what the invariant says of the last place counts.
  generalize paths.foldl (Progress.advance settings files) {} = p at done
  rw [← done.tally] at exact
  have faithful := exact.faithful (some periodStart) (some periodEnd)
  constructor
  case exitCode_failed =>
    rintro ⟨path, listed, missing⟩
    have some : 0 < p.tally.failed := by
      rw [exact.failed, failures_map_assess, List.countP_pos_iff]
      exact ⟨path, listed, Option.isNone_iff_eq_none.mpr missing⟩
    rw [Progress.finish, if_pos some]
  case exitCode_loaded =>
    intro all
    have none : ¬ 0 < p.tally.failed := by
      rw [exact.failed, failures_map_assess, List.countP_pos_iff]
      rintro ⟨path, listed, missing⟩
      exact all path listed (Option.isNone_iff_eq_none.mp missing)
    rw [Progress.finish, if_neg none]
  case output =>
    intro off
    rw [Progress.finish, off, done.output]
    exact String.append_empty
  case output_summary =>
    intro on
    refine ⟨_, _, by rw [Progress.finish, on, done.output]; rfl, showsCounts_statsBlock _ _,
      ?_, ?_, fun l => ?_, ?_⟩
    · rw [faithful.analyzed, assessed_map_assess, List.length_map]
    · rw [faithful.analyzed, faithful.failed, assessed_map_assess, List.length_map]
      exact length_loaded_add_failures files paths
    · rw [faithful.countOf, Batch.labelled, assessed_map_assess, List.countP_map]
      rfl
    · rw [faithful.countOf, faithful.countOf, faithful.countOf, faithful.analyzed,
        ← Batch.sum_labelled]
      simp [RiskLabel.all, Nat.add_assoc]

/-- The block of a path is printed alone by a run of this path only. -/
theorem printedAlone_blocks (settings : Settings) (files : String → Option String)
    (path : String) : PrintedAlone settings files path (blocks settings files [path]) := by
  intro other others periodStart periodEnd format pretty off same
  rw [(sequential_outcome other others [path] periodStart periodEnd).output off]
  simp only [blocks, loaded, List.filterMap_cons, List.filterMap_nil, format, pretty, same]

/-- `run` of arguments that ask for snapshots is `analyzeBatch` with the settings made. -/
theorem run_eq_analyzeBatch {arguments : List String} {environment : String → Option String}
    {options : AnalyzeOptions} {periodStart periodEnd : Time.Instant}
    (asked : Request.ofArguments? arguments = some (.analyze options))
    (set : settingsFor environment (.analyze options) = .ok settings) :
    run arguments environment files periodStart periodEnd =
      analyzeBatch settings files options.paths periodStart periodEnd := by
  rw [run, asked]
  simp only [set]

/-- **A batch is its single runs, one after the other**: what it prints is what each path alone
makes the program print, in the order of the arguments: the assessment of the snapshot there, and
nothing for a path without a snapshot.
Only the exit code tells whether there was one, and the statistics at the end how many. -/
theorem sequential_analyzeBatch (settings : Settings) (files : String → Option String)
    (paths : List String) (periodStart periodEnd : Time.Instant) :
    Sequential settings files paths (analyzeBatch settings files paths periodStart periodEnd) ∧
      blocks settings files paths =
        String.join (paths.map fun path => blocks settings files [path]) ∧
      (∀ path, PrintedAlone settings files path (blocks settings files [path])) ∧
      (∀ path s, snapshotIn? (files path) = some s →
        ShowsAssessment settings.format path s.analyze (blocks settings files [path])) ∧
      (∀ path, snapshotIn? (files path) = none → blocks settings files [path] = "") ∧
      ∀ arguments environment options,
        Request.ofArguments? arguments = some (.analyze options) → options.paths = paths →
          settingsFor environment (.analyze options) = .ok settings →
            run arguments environment files periodStart periodEnd =
              analyzeBatch settings files paths periodStart periodEnd := by
  refine ⟨sequential_outcome settings files paths periodStart periodEnd, ?_,
    printedAlone_blocks settings files, fun path s found => ?_, fun path missing => ?_, ?_⟩
  · rw [← join_blockOf]
    simp only [blockOf_assess]
  · rw [blocks_singleton, found]
    exact showsAssessment_block { format := settings.format, pretty := settings.pretty } path _
  · rw [blocks_singleton, missing, Option.map_none, Option.getD_none]
  · rintro arguments environment options asked rfl set
    exact run_eq_analyzeBatch asked set

/-- A file that cannot be read, one that holds no document, and a snapshot that is given twice. -/
theorem sequential_analyzeBatch_mixed :
    let files (path : String) : Option String :=
      if path = "b.json" then some "[" else if path = "c.json" then some "\x7b\x7d" else none
    let paths := ["a.json", "c.json", "b.json", "c.json"]
    let start := Time.Instant.ofNanos 0
    let summed : Settings := { format := .json, batchSummary := true }
    let outcome := analyzeBatch {} files paths start start
    let one := snapshotBlock .text false "c.json" {}
    run ("analyze" :: paths) (fun _ => none) files start start = outcome ∧
      outcome.exitCode = 1 ∧ outcome.output = one ++ one ∧
      ShowsAssessment .text "c.json" (Snapshot.analyze {}) one ∧
      (analyzeBatch {} files ["c.json"] start start).output = one ∧
      ∃ stats text, (analyzeBatch summed files paths start start).output =
          blocks summed files paths ++ text ∧
        ShowsCounts .json stats text ∧ stats.analyzed = 2 ∧ stats.failed = 2 ∧
        stats.countOf .low + stats.countOf .medium + stats.countOf .high = 2 := by
  intro files paths start summed outcome one
  have unreadable : snapshotIn? (files "a.json") = none := rfl
  have undecodable : snapshotIn? (files "b.json") = none := rfl
  have snapshot : snapshotIn? (files "c.json") = some {} := rfl
  have two : loaded files paths = [("c.json", {}), ("c.json", {})] := by
    simp [loaded, paths, unreadable, undecodable, snapshot]
  obtain ⟨plain, -, alone, shown, -, ran⟩ := sequential_analyzeBatch {} files paths start start
  obtain ⟨whole, -⟩ := sequential_analyzeBatch summed files paths start start
  obtain ⟨stats, text, output, shows, analyzed, failed, -, labels⟩ := whole.output_summary rfl
  have single : blocks {} files ["c.json"] = one := by
    rw [blocks_singleton, snapshot]
    rfl
  refine ⟨ran _ _ ⟨paths, none, false, false⟩ rfl rfl rfl, ?_, ?_, ?_, ?_,
    stats, text, output, shows, ?_⟩
  · exact plain.exitCode_failed ⟨"a.json", by simp [paths], unreadable⟩
  · rw [plain.output rfl, blocks, two]
    simp [String.join, one]
  · rw [← single]
    exact shown "c.json" {} snapshot
  · rw [alone "c.json" {} files start start rfl rfl rfl rfl, single]
  · have loadedTwo : stats.analyzed = 2 := by rw [analyzed, two]; rfl
    have four : stats.analyzed + stats.failed = 4 := failed
    exact ⟨loadedTwo, by omega, labels.trans loadedTwo⟩

end EvmRisk.CommandLine
