import EvmRisk.Finding
import EvmRisk.Snapshot

/-!
# Is the source verified?

The explorer's word is enough, and so is an interface with something in it. Without an explorer
nothing is known, and that is less bad than a source which the explorer does not have.
-/

namespace EvmRisk

/-- The verdict on the source. -/
inductive SourceVerdict where
  /-- It is verified: the explorer says so, there is an interface, or both. -/
  | verified (byExplorer byAbi : Bool)
  /-- Nobody was asked. -/
  | inconclusive
  /-- It is not. -/
  | unverified
  deriving DecidableEq, Repr

namespace SourceVerdict

/-- The verdict on a snapshot. -/
def ofSnapshot (s : Snapshot) : SourceVerdict :=
  let byExplorer := s.explorer.any Explorer.isVerified
  let byAbi := s.hasAbi
  if byExplorer || byAbi then verified byExplorer byAbi
  else if s.explorer.isNone then inconclusive
  else unverified

/-- What the verdict amounts to. -/
def status : SourceVerdict → Status
  | verified _ _ => .pass
  | inconclusive => .warn
  | unverified => .fail

/-- What the verdict takes off the score. -/
def penalty : SourceVerdict → UInt8
  | verified _ _ => 0
  | inconclusive => 10
  | unverified => 30

/-- The verdict in words. -/
def reason : SourceVerdict → String
  | verified true _ => "Source code is verified on the block explorer"
  | verified false _ => "Contract ABI is published"
  | inconclusive => "Verification status inconclusive: explorer metadata unavailable"
  | unverified => "Source code is not verified and no ABI is available"

/-- What the verdict on a snapshot rests on. -/
def evidence (s : Snapshot) : Json.Value :=
  .object [
    ("abiEntries", (s.abi.map fun abi => Json.Value.ofNat abi.length).getD .null),
    ("abiFunctions", .ofNat s.functionNames.length),
    ("contractName", .ofString? (s.explorer.bind Explorer.contractName)),
    ("explorerAvailable", .bool s.explorer.isSome),
    ("isVerified", (s.explorer.map fun e => Json.Value.bool e.isVerified).getD .null)]

/-- What is found out about the source. -/
def finding (s : Snapshot) : Finding :=
  let v := ofSnapshot s
  .make .verifiedSource v.status v.reason v.penalty (evidence s)

end SourceVerdict

end EvmRisk
