import EvmRisk.Finding
import EvmRisk.Keyword
import EvmRisk.Signature.Tables
import EvmRisk.Snapshot

/-!
# What can calls do?

The signs are words at the start of the names of functions, dangerous functions in the code, and
dangerous instructions in it. What is in the code counts by its tier, every marker once; names count
only where the code shows nothing.
-/

namespace EvmRisk

/-- The signs of danger. -/
structure DangerSigns where
  keywords : List KeywordHit
  selectors : List Signature
  opcodes : List Signature
  hasAbi : Bool
  hasBytecode : Bool

namespace DangerSigns

/-- The signs in a snapshot. -/
def ofSnapshot (s : Snapshot) : DangerSigns :=
  { keywords := Keyword.hits .atStart Keyword.dangerWords s.functionNames
    selectors := Signature.detect s.bytecode Signature.dangerousSelectors
    opcodes := Signature.detect s.bytecode Signature.dangerousOpcodes
    hasAbi := s.hasAbi
    hasBytecode := s.hasBytecode }

/-- What was found in the code. -/
def inCode (d : DangerSigns) : List Signature := d.selectors ++ d.opcodes

/-- How many different markers of a tier were found in the code. -/
def count (d : DangerSigns) (tier : Tier) : Nat :=
  ((Signature.ofTier tier d.inCode).map Signature.marker).eraseDups.length

/-- The names of what was found in the code, of one tier. -/
def names (d : DangerSigns) (tier : Tier) : String :=
  String.intercalate ", " ((Signature.ofTier tier d.inCode).map Signature.name)

/-- The names of functions with a word in them, in their alphabetical order, each one once. -/
def riskyNames (d : DangerSigns) : List String :=
  (d.keywords.map KeywordHit.function).eraseDups.mergeSort fun a b => a ≤ b

/-- A word in a name as evidence. -/
def hitEvidence (hit : KeywordHit) : Json.Value :=
  .object [
    ("description", .string (Keyword.description hit.keyword)),
    ("function", .string hit.function),
    ("keyword", .string hit.keyword)]

end DangerSigns

/-- The verdict on danger. -/
inductive DangerVerdict where
  /-- There was nothing to look at. -/
  | inconclusive
  /-- Two grave signs or more. -/
  | multipleHigh
  /-- One grave sign. -/
  | singleHigh
  /-- Many signs, none of them grave. -/
  | manyMedium
  /-- A few signs, none of them grave. -/
  | someMedium
  /-- Nothing but names. -/
  | keywordOnly
  /-- Nothing at all. -/
  | clean
  deriving DecidableEq, Repr

namespace DangerVerdict

/-- How many signs that are not grave are many. -/
def many : Nat := 3

/-- The verdict on signs: the first of the rules that applies. -/
def ofSigns (d : DangerSigns) : DangerVerdict :=
  if !d.hasAbi && !d.hasBytecode then inconclusive
  else if 2 ≤ d.count .high then multipleHigh
  else if d.count .high = 1 then singleHigh
  else if many ≤ d.count .medium then manyMedium
  else if 0 < d.count .medium then someMedium
  else if !d.keywords.isEmpty then keywordOnly
  else clean

/-- What the verdict amounts to. -/
def status : DangerVerdict → Status
  | multipleHigh => .fail
  | clean => .pass
  | _ => .warn

/-- What the verdict takes off the score. -/
def penalty : DangerVerdict → UInt8
  | inconclusive => 12
  | multipleHigh => 30
  | singleHigh => 18
  | manyMedium => 12
  | someMedium => 8
  | keywordOnly => 8
  | clean => 0

/-- The verdict in documents. -/
def text : DangerVerdict → String
  | inconclusive => "inconclusive"
  | multipleHigh => "multipleHigh"
  | singleHigh => "singleHigh"
  | manyMedium => "manyMedium"
  | someMedium => "someMedium"
  | keywordOnly => "keywordOnly"
  | clean => "clean"

/-- The verdict in words, with the signs that it rests on. -/
def reason (v : DangerVerdict) (d : DangerSigns) : String :=
  match v with
  | inconclusive => "Dangerous functions inconclusive: no ABI or bytecode available"
  | multipleHigh => "Multiple high-risk capabilities: " ++ d.names .high
  | singleHigh => "High-risk capability: " ++ d.names .high
  | manyMedium => "Several sensitive functions: " ++ d.names .medium
  | someMedium => "Sensitive functions: " ++ d.names .medium
  | keywordOnly => "Risky function names in ABI: " ++ String.intercalate ", " d.riskyNames
  | clean => "No dangerous functions detected"

/-- The verdict and the signs as evidence. -/
def evidence (v : DangerVerdict) (d : DangerSigns) : Json.Value :=
  .object [
    ("abiMatches", .array (d.keywords.map DangerSigns.hitEvidence)),
    ("highCount", .ofNat (d.count .high)),
    ("mediumCount", .ofNat (d.count .medium)),
    ("opcodes", Signature.evidenceList d.opcodes),
    ("rule", .string v.text),
    ("selectors", Signature.evidenceList d.selectors)]

/-- What is found out about danger. -/
def finding (s : Snapshot) : Finding :=
  let signs := DangerSigns.ofSnapshot s
  let v := ofSigns signs
  .make .dangerousFunctions v.status (v.reason signs) v.penalty (v.evidence signs)

end DangerVerdict

end EvmRisk
