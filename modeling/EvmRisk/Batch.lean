import EvmRisk.Assessment
import EvmRisk.Decimal
import EvmRisk.Time

/-!
# Counting a batch

A `Tally` counts what comes of the snapshots of a batch, one after the other: an assessment
(`Tally.record`), or a failure to read one (`Tally.recordFailure`). A finding that is not passed
counts for the indicator that it is about, wherever it stands.

`Stats` is what is reported about a batch: how many snapshots were assessed and how many could not
be read, how often each label was given and each indicator was not passed, the mean score, and from
when to when that was. Statistics are written as a document (`Stats.json`) or for readers
(`Stats.summary`), and read back from a document (`Stats.read?`).
-/

namespace EvmRisk.Batch

open Json (Node Value)

/-! ### Statistics -/

/-- What is reported about a batch. Counts by name are in the order of the names. -/
structure Stats where
  /-- How many snapshots were assessed. -/
  analyzed : Nat
  /-- How many could not be read. -/
  failed : Nat
  /-- How often each label was given. -/
  byLabel : List (String × Nat)
  /-- How often each indicator was not passed. -/
  flagged : List (String × Nat)
  /-- The mean of the scores. -/
  averageScore : Float
  /-- When the batch began. -/
  periodStart : Option Time.Instant
  /-- When the statistics were taken. -/
  periodEnd : Option Time.Instant
  deriving DecidableEq

namespace Stats

/-- The names of the fields, in their order. -/
def fieldNames : List String :=
  ["total_analyzed", "total_failed", "by_label", "flagged_by_indicator", "avg_score",
    "period_start", "period_end"]

/-- The bound on counts. -/
def countBound : Nat := UInt64.size

/-- Counts by name as a value. -/
def countsValue (counts : List (String × Nat)) : Value :=
  .object (counts.map fun c => (c.1, .ofNat c.2))

/-- Counts by name from a document; under a name that comes twice the last one counts. -/
def countsOfNode? (n : Node) : Option (List (String × Nat)) :=
  (n.toMembers? (Node.toNatBelow? countBound)).map Value.arrange

/-- An instant from a document. -/
def instantOfNode? (n : Node) : Option Time.Instant :=
  n.toString?.bind fun s => Time.Instant.ofText? s.toList

/-- Statistics as a value. -/
def toValue (s : Stats) : Value :=
  .object [
    ("total_analyzed", .ofNat s.analyzed),
    ("total_failed", .ofNat s.failed),
    ("by_label", countsValue s.byLabel),
    ("flagged_by_indicator", countsValue s.flagged),
    ("avg_score", .ofFloat s.averageScore),
    ("period_start", .ofString? (s.periodStart.map Time.Instant.text)),
    ("period_end", .ofString? (s.periodEnd.map Time.Instant.text))]

/-- The statistics of a document. The period may be missing. -/
def ofNode? (n : Node) : Option Stats := do
  let field ← n.fields? fieldNames fieldNames.length
  let analyzed ← Node.required (Node.toNatBelow? countBound) (field "total_analyzed")
  let failed ← Node.required (Node.toNatBelow? countBound) (field "total_failed")
  let byLabel ← Node.required countsOfNode? (field "by_label")
  let flagged ← Node.required countsOfNode? (field "flagged_by_indicator")
  let averageScore ← Node.required Node.toFloat? (field "avg_score")
  let periodStart ← Node.optional instantOfNode? (field "period_start")
  let periodEnd ← Node.optional instantOfNode? (field "period_end")
  some ⟨analyzed, failed, byLabel, flagged, averageScore, periodStart, periodEnd⟩

/-- The statistics of a text. -/
def read? (text : String) : Option Stats := (Node.read? text.toList).bind ofNode?

/-- A document on one line or on many. -/
def json (s : Stats) (pretty : Bool) : String :=
  if pretty then s.toValue.pretty else s.toValue.compact

/-- How often a label was given. -/
def countOf (s : Stats) (label : RiskLabel) : Nat := (s.byLabel.lookup label.text).getD 0

/-- The number of one label, with its sign. -/
def labelText (s : Stats) (label : RiskLabel) : String :=
  label.emoji ++ " " ++ label.text ++ ": " ++ Nat.repr (s.countOf label)

/-- The line of an indicator that was not always passed. -/
def flaggedLine (name : String) (count : Nat) : String :=
  "   " ++ Text.padRight 20 name ++ " flagged " ++ Nat.repr count

/-- Statistics for readers. -/
def summary (s : Stats) : String :=
  String.intercalate "\n" <|
    ["📊 Batch Summary",
      "   Analyzed: " ++ Nat.repr s.analyzed ++ " | Failed: " ++ Nat.repr s.failed ++
        " | Avg Score: " ++ String.ofList (Decimal.fixed 1 s.averageScore),
      "   " ++ String.intercalate " | " (RiskLabel.all.map s.labelText)] ++
    s.flagged.map fun c => flaggedLine c.1 c.2

end Stats

/-! ### Tallies -/

/-- What was counted so far. -/
structure Tally where
  analyzed : Nat
  failed : Nat
  /-- The sum of the scores. -/
  scoreSum : Nat
  labels : RiskLabel → Nat
  flagged : Indicator → Nat

namespace Tally

/-- Nothing was counted yet. -/
def empty : Tally := ⟨0, 0, 0, fun _ => 0, fun _ => 0⟩

/-- How many findings of an assessment are about an indicator and not passed. -/
def flagsOf (a : Assessment) (i : Indicator) : Nat :=
  a.findings.toList.countP fun f => f.indicator = i && !f.isPass

/-- Counts an assessment. -/
def record (t : Tally) (a : Assessment) : Tally :=
  { t with
    analyzed := t.analyzed + 1
    scoreSum := t.scoreSum + a.score.toNat
    labels := fun l => t.labels l + if a.label = l then 1 else 0
    flagged := fun i => t.flagged i + flagsOf a i }

/-- Counts a snapshot that could not be read. -/
def recordFailure (t : Tally) : Tally := { t with failed := t.failed + 1 }

/-- The mean of the scores; zero if there is none. -/
def averageScore (t : Tally) : Float :=
  if t.analyzed = 0 then 0 else Float.ofNat t.scoreSum / Float.ofNat t.analyzed

/-- The counts that are not zero, under their names and in the order of these. -/
def named {α : Type} (names : α → String) (all : List α) (count : α → Nat) :
    List (String × Nat) :=
  Json.Value.arrange ((all.filter fun x => 0 < count x).map fun x => (names x, count x))

/-- The statistics of what was counted in a period. -/
def stats (t : Tally) (periodStart periodEnd : Option Time.Instant) : Stats :=
  { analyzed := t.analyzed
    failed := t.failed
    byLabel := named RiskLabel.text RiskLabel.all t.labels
    flagged := named Indicator.key Indicator.all t.flagged
    averageScore := t.averageScore
    periodStart
    periodEnd }

end Tally

end EvmRisk.Batch
