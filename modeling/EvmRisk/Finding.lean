import EvmRisk.Indicator

/-!
# Findings

What was found out about one indicator: a verdict, the reason for it, what it takes off the score,
and the evidence. `Finding.make` keeps the penalty within what the indicator allows
(`Finding.penalty_make_le`).

`Findings` holds at most one finding under each indicator and lists them in the order of the
indicators. What stands under an indicator need not be a finding about it: a document can put any
finding anywhere. `Findings.insert` files a finding under its own indicator, in place of the one
that was there (`Findings.get?_insert`).
-/

namespace EvmRisk

/-! ### One finding -/

/-- A verdict. -/
inductive Status where
  | pass
  /-- Something may be wrong, or could not be looked at. -/
  | warn
  | fail
  deriving DecidableEq, Repr

namespace Status

/-- A verdict in documents. -/
def text : Status → String
  | pass => "Pass"
  | warn => "Warn"
  | fail => "Fail"

/-- A verdict in capitals. -/
def label : Status → String
  | pass => "PASS"
  | warn => "WARN"
  | fail => "FAIL"

/-- A verdict as a sign. -/
def emoji : Status → String
  | pass => "✅"
  | warn => "🟠"
  | fail => "🔴"

/-- The verdict with a name. -/
def ofText? (s : String) : Option Status := [pass, warn, fail].find? fun v => v.text == s

/-- The verdict that a document names. -/
def ofNode? (n : Json.Node) : Option Status := n.toTag?.bind ofText?

end Status

/-- What was found out about one indicator. -/
structure Finding where
  indicator : Indicator
  status : Status
  reason : String
  penalty : UInt8
  evidence : Json.Value

namespace Finding

/-- A finding whose penalty is cut down to what the indicator allows. Without evidence given it has
an empty object. -/
def make (indicator : Indicator) (status : Status) (reason : String) (penalty : UInt8)
    (evidence : Json.Value := .object []) : Finding :=
  ⟨indicator, status, reason, min penalty indicator.maxPenalty, evidence⟩

/-- Whether nothing is wrong. -/
def isPass (f : Finding) : Bool := f.status = .pass

/-- The names of the fields, in their order. -/
def fieldNames : List String := ["key", "status", "reason", "penalty", "evidence"]

/-- A finding as a value. -/
def toValue (f : Finding) : Json.Value :=
  .object [
    ("key", .string f.indicator.key),
    ("status", .string f.status.text),
    ("reason", .string f.reason),
    ("penalty", .ofNat f.penalty.toNat),
    ("evidence", f.evidence)]

/-- The finding of a document in which at most `levels` brackets are open at once. The penalty is
taken as it is. -/
def ofNode? (levels : Nat) (n : Json.Node) : Option Finding := do
  let field ← n.fields? fieldNames fieldNames.length
  let indicator ← Json.Node.required Indicator.ofNode? (field "key")
  let status ← Json.Node.required Status.ofNode? (field "status")
  let reason ← Json.Node.required Json.Node.toString? (field "reason")
  let penalty ← Json.Node.required (Json.Node.toNatBelow? UInt8.size) (field "penalty")
  let evidence ← Json.Node.required (Json.Value.ofNode? (levels - 1)) (field "evidence")
  some ⟨indicator, status, reason, UInt8.ofNat penalty, evidence⟩

/-- **The penalty of a finding that is made stays within what its indicator allows.** -/
theorem penalty_make_le (indicator : Indicator) (status : Status) (reason : String)
    (penalty : UInt8) (evidence : Json.Value) :
    (make indicator status reason penalty evidence).penalty ≤ indicator.maxPenalty := by
  simp only [make, UInt8.le_iff_toNat_le]
  show (if penalty ≤ indicator.maxPenalty then penalty else indicator.maxPenalty).toNat ≤ _
  split
  · next h => exact UInt8.le_iff_toNat_le.mp h
  · exact Nat.le_refl _

end Finding

/-! ### One finding for each indicator -/

/-- At most one finding under each indicator. -/
@[ext]
structure Findings where
  /-- What stands under an indicator. -/
  get? : Indicator → Option Finding

namespace Findings

/-- No finding at all. -/
def empty : Findings := ⟨fun _ => none⟩

/-- The findings with one more, or another one, under an indicator. -/
def put (fs : Findings) (i : Indicator) (f : Finding) : Findings :=
  ⟨fun j => if j = i then some f else fs.get? j⟩

/-- The findings with one filed under its own indicator. -/
def insert (fs : Findings) (f : Finding) : Findings := fs.put f.indicator f

/-- The findings of a list, filed one after the other. -/
def ofList (list : List Finding) : Findings := list.foldl insert empty

/-- The indicators under which a finding stands, with that finding, in their order. -/
def entries (fs : Findings) : List (Indicator × Finding) :=
  Indicator.all.filterMap fun i => (fs.get? i).map (i, ·)

/-- The findings in the order of the indicators under which they stand. -/
def toList (fs : Findings) : List Finding := fs.entries.map (·.2)

/-- The indicators under which a finding stands. -/
def indicators (fs : Findings) : List Indicator := fs.entries.map (·.1)

/-- The sum of the penalties of the findings that count for the score. -/
def totalPenalty (fs : Findings) : Nat :=
  ((fs.toList.filter fun f => f.indicator.isScoring).map fun f => f.penalty.toNat).foldr (· + ·) 0

/-- Findings as a value, under the names of the indicators. -/
def toValue (fs : Findings) : Json.Value :=
  .object (fs.entries.map fun e => (e.1.key, e.2.toValue))

/-- The findings of a document, an object with the names of indicators, in which at most `levels`
brackets are open at once. Under a name that comes twice the last one counts. -/
def ofNode? (levels : Nat) (n : Json.Node) : Option Findings := do
  let members ← n.toMembers? (Finding.ofNode? (levels - 1))
  let filed ← members.mapM fun m => (Indicator.ofKey? m.1).map (·, m.2)
  some (filed.foldl (fun fs e => fs.put e.1 e.2) empty)

/-- **Filing a finding replaces the one under its indicator and leaves the others alone.** -/
theorem get?_insert (fs : Findings) (f : Finding) (i : Indicator) :
    (fs.insert f).get? i = if i = f.indicator then some f else fs.get? i := rfl

end Findings

end EvmRisk
