import EvmRisk.Finding
import EvmRisk.Signature.Tables
import EvmRisk.Snapshot

/-!
# Can the code be replaced?

Three signs make a proxy: the explorer's word, a function that proxies have, and the storage slot
of the standard kind. How grave that is depends on whether a function that replaces the code is
there and whether anybody is known who may call it.
-/

namespace EvmRisk

/-- The signs of a proxy. -/
structure ProxySigns where
  /-- Whether the explorer takes the contract for one. -/
  explorerFlag : Bool
  /-- The functions of proxies that the code has. -/
  selectors : List Signature
  /-- Whether the storage slot of the implementation occurs in the code. -/
  implementationSlot : Bool
  /-- Who may replace the code. -/
  admin : Option Address
  /-- Where the code is. -/
  implementation : Option Address

namespace ProxySigns

/-- The signs in a snapshot. -/
def ofSnapshot (s : Snapshot) : ProxySigns :=
  { explorerFlag := s.explorer.any Explorer.proxy
    selectors := Signature.detect s.bytecode Signature.proxySelectors
    implementationSlot := s.bytecode.any (·.contains Signature.implementationSlot)
    admin := s.explorer.bind Explorer.admin?
    implementation := s.explorer.bind Explorer.implementation? }

/-- Whether any of the three signs is there. -/
def isProxy (p : ProxySigns) : Bool :=
  p.explorerFlag || !p.selectors.isEmpty || p.implementationSlot

/-- Whether a function that replaces the code is there. -/
def isUpgradeable (p : ProxySigns) : Bool :=
  p.selectors.any fun s => Signature.upgradeMarkers.contains s.marker

/-- The names of the signs that are there. -/
def fired (p : ProxySigns) : List String :=
  (if p.explorerFlag then ["explorerFlag"] else []) ++
    (if p.selectors.isEmpty then [] else ["proxySelectors"]) ++
    (if p.implementationSlot then ["eip1967Slot"] else [])

/-- The signs as evidence. -/
def evidence (p : ProxySigns) : Json.Value :=
  .object [
    ("eip1967Slot", .bool p.implementationSlot),
    ("explorerFlag", .bool p.explorerFlag),
    ("implementation", .ofString? (p.implementation.map Address.text)),
    ("proxyAdmin", .ofString? (p.admin.map Address.text)),
    ("selectors", Signature.evidenceList p.selectors),
    ("signals", .array (p.fired.map .string)),
    ("upgradeable", .bool p.isUpgradeable)]

end ProxySigns

/-- The verdict on a proxy. -/
inductive ProxyVerdict where
  /-- It is none. -/
  | notProxy
  /-- The code can be replaced, and somebody may do so. -/
  | upgradeableWithAdmin
  /-- The code can be replaced; by whom is not known. -/
  | upgradeable
  /-- No function that replaces the code was found, but somebody is in charge. -/
  | passiveWithAdmin
  /-- No function that replaces the code was found, and nobody is known to be in charge. -/
  | passive
  deriving DecidableEq, Repr

namespace ProxyVerdict

/-- The verdict on signs. -/
def ofSigns (p : ProxySigns) : ProxyVerdict :=
  if !p.isProxy then notProxy
  else if p.isUpgradeable && p.admin.isSome then upgradeableWithAdmin
  else if p.isUpgradeable then upgradeable
  else if p.admin.isSome then passiveWithAdmin
  else passive

/-- What the verdict amounts to. -/
def status : ProxyVerdict → Status
  | notProxy => .pass
  | _ => .warn

/-- What the verdict takes off the score. -/
def penalty : ProxyVerdict → UInt8
  | notProxy => 0
  | upgradeableWithAdmin => 15
  | upgradeable => 12
  | passiveWithAdmin => 12
  | passive => 5

/-- The verdict in words. -/
def reason : ProxyVerdict → String
  | notProxy => "No proxy pattern detected"
  | upgradeableWithAdmin =>
    "Upgradeable proxy with an active admin: contract logic can be replaced"
  | upgradeable => "Upgradeable proxy: upgrade functions present, admin unknown"
  | passiveWithAdmin => "Proxy contract controlled by a known admin"
  | passive => "Proxy pattern detected without an upgrade function"

/-- What is found out about a proxy. -/
def finding (s : Snapshot) : Finding :=
  let signs := ProxySigns.ofSnapshot s
  let v := ofSigns signs
  .make .proxy v.status v.reason v.penalty signs.evidence

end ProxyVerdict

end EvmRisk
