import EvmRisk.Finding
import EvmRisk.Text.Basic
import EvmRisk.Verdict.Danger
import EvmRisk.Verdict.Market
import EvmRisk.Verdict.Owner
import EvmRisk.Verdict.Proxy
import EvmRisk.Verdict.Source

/-!
# Score, label and report

The penalties of the findings are taken off a full score of one hundred, and the score decides the
label. An `Assessment` is the findings with their score and label; one that comes from a document
may carry any score and any label. Its report adds what speaks against the contract and what speaks
for it, and its summary is the same for readers.

A snapshot is assessed by the four findings that count and, where the market has something to say,
by the two that inform (`Snapshot.analyze`).
-/

namespace EvmRisk

/-- How risky a contract is altogether. -/
inductive RiskLabel where
  | low
  | medium
  | high
  deriving DecidableEq, Repr

namespace RiskLabel

/-- All labels, from the least risk to the greatest. -/
def all : List RiskLabel := [low, medium, high]

/-- The least score that is of low risk. -/
def lowBound : UInt8 := 80

/-- The least score that is of medium risk. -/
def mediumBound : UInt8 := 50

/-- The label of a score. -/
def ofScore (score : UInt8) : RiskLabel :=
  if lowBound ≤ score then low else if mediumBound ≤ score then medium else high

/-- A label as it is written. -/
def text : RiskLabel → String
  | low => "Low"
  | medium => "Medium"
  | high => "High"

/-- A label as a sign. -/
def emoji : RiskLabel → String
  | low => "✅"
  | medium => "🟠"
  | high => "🔴"

/-- The label with a name. -/
def ofText? (s : String) : Option RiskLabel := all.find? fun l => l.text == s

/-- The label that a document names. -/
def ofNode? (n : Json.Node) : Option RiskLabel := n.toTag?.bind ofText?

end RiskLabel

/-- The score of a contract with nothing against it. -/
def fullScore : Int := 100

/-- The score that a penalty leaves, from 0 to the full one. -/
def scoreOfPenalty (penalty : Int) : UInt8 :=
  UInt8.ofNat (max 0 (min fullScore (fullScore - penalty))).toNat

/-- Findings with a score and a label. -/
@[ext]
structure Assessment where
  findings : Findings
  /-- From 0 to 100; higher is safer. -/
  score : UInt8
  label : RiskLabel

namespace Assessment

/-- The assessment that findings lead to. -/
def ofFindings (fs : Findings) : Assessment :=
  let score := scoreOfPenalty fs.totalPenalty
  ⟨fs, score, RiskLabel.ofScore score⟩

/-! ### What speaks against a contract and for it -/

/-- What is said where nothing speaks against a contract. -/
def nothingAgainst : String := "No critical issues detected"

/-- What is said where nothing speaks for a contract. -/
def nothingFor : String := "Insufficient data to confirm positive signals"

/-- Lines, or one line in their place if there are none. -/
def orElseLine (lines : List String) (fallback : String) : List String :=
  if lines.isEmpty then [fallback] else lines

/-- The reasons of the findings that are not passed. -/
def concerns (a : Assessment) : List String :=
  (a.findings.toList.filter fun f => !f.isPass).map Finding.reason

/-- The good messages for the findings that are passed. -/
def merits (a : Assessment) : List String :=
  (a.findings.toList.filter Finding.isPass).map fun f => f.indicator.profile.goodMessage

/-- What speaks against the contract, never empty. -/
def keyFindings (a : Assessment) : List String := orElseLine a.concerns nothingAgainst

/-- What speaks for the contract, never empty. -/
def goodSigns (a : Assessment) : List String := orElseLine a.merits nothingFor

/-! ### As documents -/

/-- The names of the fields, in their order. -/
def fieldNames : List String := ["findings", "score", "label"]

/-- The members that an assessment and its report have in common. -/
def members (a : Assessment) : List (String × Json.Value) :=
  [("findings", a.findings.toValue),
   ("score", .ofNat a.score.toNat),
   ("label", .string a.label.text)]

/-- An assessment as a value. -/
def toValue (a : Assessment) : Json.Value := .object a.members

/-- The report of an assessment. -/
def report (a : Assessment) : Json.Value :=
  .object (a.members ++
    [("keyFindings", .array (a.keyFindings.map .string)),
     ("goodSigns", .array (a.goodSigns.map .string))])

/-- The assessment of a document in which at most `levels` brackets are open at once, with its
score and label as they stand there. -/
def ofNode? (levels : Nat) (n : Json.Node) : Option Assessment := do
  let field ← n.fields? fieldNames fieldNames.length
  let findings ← Json.Node.required (Findings.ofNode? (levels - 1)) (field "findings")
  let score ← Json.Node.required (Json.Node.toNatBelow? UInt8.size) (field "score")
  let label ← Json.Node.required RiskLabel.ofNode? (field "label")
  some ⟨findings, UInt8.ofNat score, label⟩

/-- The assessment of a text. -/
def read? (text : String) : Option Assessment :=
  (Json.Node.read? text.toList).bind (ofNode? Json.depthBound)

/-! ### For readers -/

/-- What a finding takes off the score, as it is shown. -/
def penaltyText (f : Finding) : String :=
  if f.indicator.isScoring then "-" ++ Nat.repr f.penalty.toNat else "info"

/-- The line of a finding. -/
def line (f : Finding) : String :=
  "   " ++ f.status.emoji ++ " " ++ Text.padRight 20 f.indicator.profile.title ++ " " ++
    Text.padLeft 5 (penaltyText f) ++ "  " ++ f.reason

/-- The first line. -/
def heading (a : Assessment) : String :=
  a.label.emoji ++ " Risk: " ++ a.label.text ++ " | Score: " ++ Nat.repr a.score.toNat ++ "/100"

/-- An assessment for readers: a heading, and a line for each finding. -/
def summary (a : Assessment) : String :=
  String.intercalate "\n" (a.heading :: a.findings.toList.map line)

end Assessment

end EvmRisk

/-! ### The assessment of a snapshot -/

namespace EvmRisk.Snapshot

/-- The findings that count for the score, in the order of the indicators. -/
def scoringFindings (s : Snapshot) : List Finding :=
  [SourceVerdict.finding s, ProxyVerdict.finding s, OwnerVerdict.finding s, DangerVerdict.finding s]

/-- The findings about the market; none if it says nothing. -/
def marketFindings (s : Snapshot) : List Finding :=
  match s.market with
  | none => []
  | some m => [Market.liquidityFinding (some m), Market.holdersFinding (some m)]

/-- The assessment of a snapshot. -/
def analyze (s : Snapshot) : Assessment :=
  .ofFindings (.ofList (s.scoringFindings ++ s.marketFindings))

end EvmRisk.Snapshot
