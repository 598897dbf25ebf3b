import EvmRisk.Finding
import EvmRisk.Keyword
import EvmRisk.Signature.Tables
import EvmRisk.Snapshot

/-!
# What can the owner do?

The signs are words anywhere in the names of functions and functions of owners in the code. A
blacklist, from either source, is grave. Whether there was anything to look at matters only where
nothing was found.
-/

namespace EvmRisk

/-- The signs of a privileged owner. -/
structure OwnerSigns where
  keywords : List KeywordHit
  selectors : List Signature
  hasAbi : Bool
  hasBytecode : Bool

namespace OwnerSigns

/-- The signs in a snapshot. -/
def ofSnapshot (s : Snapshot) : OwnerSigns :=
  { keywords := Keyword.hits .anywhere Keyword.ownerWords s.functionNames
    selectors := Signature.detect s.bytecode Signature.ownerSelectors
    hasAbi := s.hasAbi
    hasBytecode := s.hasBytecode }

/-- Whether a word is grave. -/
def isGrave (hit : KeywordHit) : Bool := Keyword.graveOwnerWords.contains hit.keyword

/-- How many signs of a blacklist there are. -/
def highRiskCount (o : OwnerSigns) : Nat :=
  (o.keywords.filter isGrave).length + (Signature.ofTier .high o.selectors).length

/-- How many signs there are. -/
def totalCount (o : OwnerSigns) : Nat := o.keywords.length + o.selectors.length

/-- The names of the functions that were found, those from the interface first, each one where it
comes first. -/
def detectedNames (o : OwnerSigns) : List String :=
  (o.keywords.map KeywordHit.function ++ o.selectors.map Signature.name).eraseDups

/-- A word in a name as evidence. -/
def hitEvidence (hit : KeywordHit) : Json.Value :=
  .object [
    ("description", .string (Keyword.description hit.keyword)),
    ("function", .string hit.function),
    ("highRisk", .bool (isGrave hit)),
    ("keyword", .string hit.keyword)]

/-- The signs as evidence. -/
def evidence (o : OwnerSigns) : Json.Value :=
  .object [
    ("abiAvailable", .bool o.hasAbi),
    ("abiMatches", .array (o.keywords.map hitEvidence)),
    ("bytecodeAvailable", .bool o.hasBytecode),
    ("highRiskCount", .ofNat o.highRiskCount),
    ("selectors", Signature.evidenceList o.selectors)]

end OwnerSigns

/-- The verdict on an owner. -/
inductive OwnerVerdict where
  /-- The owner keeps a blacklist. -/
  | highRisk
  /-- The owner has some other control. -/
  | mediumRisk
  /-- There was nothing to look at. -/
  | inconclusive
  /-- The owner has no control. -/
  | clean
  deriving DecidableEq, Repr

namespace OwnerVerdict

/-- The verdict on signs. -/
def ofSigns (o : OwnerSigns) : OwnerVerdict :=
  if 0 < o.highRiskCount then highRisk
  else if 0 < o.totalCount then mediumRisk
  else if !o.hasAbi && !o.hasBytecode then inconclusive
  else clean

/-- What the verdict amounts to. -/
def status : OwnerVerdict → Status
  | clean => .pass
  | _ => .warn

/-- What the verdict takes off the score. -/
def penalty : OwnerVerdict → UInt8
  | highRisk => 18
  | mediumRisk => 8
  | inconclusive => 10
  | clean => 0

/-- The verdict in words, with the signs that it rests on. -/
def reason (v : OwnerVerdict) (o : OwnerSigns) : String :=
  match v with
  | highRisk =>
    "Owner can blacklist addresses (" ++ Nat.repr o.highRiskCount ++ " high-risk control" ++
      (if o.highRiskCount = 1 then "" else "s") ++ " detected)"
  | mediumRisk => "Owner-only controls detected: " ++ String.intercalate ", " o.detectedNames
  | inconclusive => "Owner privileges inconclusive: no ABI or bytecode available"
  | clean => "No privileged owner controls detected"

/-- What is found out about an owner. -/
def finding (s : Snapshot) : Finding :=
  let signs := OwnerSigns.ofSnapshot s
  let v := ofSigns signs
  .make .ownerPrivileges v.status (v.reason signs) v.penalty signs.evidence

end OwnerVerdict

end EvmRisk
