import EvmRisk.Assessment
import Mathlib.Data.Option.Basic

/-!
# What an assessment reads

Of the code an assessment reads everything, of the interface only the number of its entries and the
names of the functions, and of what the explorer says two flags, a name and the two addresses, as
far as they can be read. Snapshots that agree on these (`Snapshot.Agree`) have the same assessment
(`Snapshot.Agree.analyze_eq`).
-/

namespace EvmRisk

/-- Two explorers that say the same as far as it is read. -/
structure Explorer.Agree (e f : Explorer) : Prop where
  isVerified : e.isVerified = f.isVerified
  proxy : e.proxy = f.proxy
  contractName : e.contractName = f.contractName
  admin? : e.admin? = f.admin?
  implementation? : e.implementation? = f.implementation?

namespace Snapshot

/-- Two snapshots that are the same as far as they are read. -/
structure Agree (s t : Snapshot) : Prop where
  bytecode : s.bytecode = t.bytecode
  /-- The interfaces have as many entries, or are both absent. -/
  abiLength : s.abi.map List.length = t.abi.map List.length
  functionNames : s.functionNames = t.functionNames
  explorer : Option.Rel Explorer.Agree s.explorer t.explorer
  market : s.market = t.market

/-- `s.hasAbi` depends on the number of entries only. -/
theorem hasAbi_eq_any_length (s : Snapshot) : s.hasAbi = (s.abi.map List.length).any (0 < ·) := by
  unfold hasAbi
  cases s.abi with
  | none => rfl
  | some abi => cases abi <;> simp

section Congr

variable {s t : Snapshot}

/-- A function that gives the same for related values gives the same for values that may be missing.
-/
theorem congr_of_rel {α β : Type} {R : α → α → Prop} {a b : Option α} (h : Option.Rel R a b)
    (f : Option α → β) (hf : ∀ x y, R x y → f (some x) = f (some y)) : f a = f b := by
  cases h with
  | none => rfl
  | some same => exact hf _ _ same

/-- The verdict on the source depends on `hasAbi` and on whether an explorer is there and verified.
-/
theorem sourceVerdict_congr (abi : s.hasAbi = t.hasAbi)
    (verified : s.explorer.any Explorer.isVerified = t.explorer.any Explorer.isVerified)
    (absent : s.explorer.isNone = t.explorer.isNone) :
    SourceVerdict.ofSnapshot s = .ofSnapshot t := by
  rw [SourceVerdict.ofSnapshot, verified, abi, absent, SourceVerdict.ofSnapshot]

/-- The signs of an owner depend on the bytecode, the function names and `hasAbi`. -/
theorem ownerSigns_congr (code : s.bytecode = t.bytecode)
    (names : s.functionNames = t.functionNames) (abi : s.hasAbi = t.hasAbi) :
    OwnerSigns.ofSnapshot s = .ofSnapshot t := by
  have bytes : s.hasBytecode = t.hasBytecode := congrArg Option.isSome code
  rw [OwnerSigns.ofSnapshot, names, code, abi, bytes, OwnerSigns.ofSnapshot]

/-- The signs of danger depend on the bytecode, the function names and `hasAbi`. -/
theorem dangerSigns_congr (code : s.bytecode = t.bytecode)
    (names : s.functionNames = t.functionNames) (abi : s.hasAbi = t.hasAbi) :
    DangerSigns.ofSnapshot s = .ofSnapshot t := by
  have bytes : s.hasBytecode = t.hasBytecode := congrArg Option.isSome code
  rw [DangerSigns.ofSnapshot, names, code, abi, bytes, DangerSigns.ofSnapshot]

end Congr

namespace Agree

variable {s t : Snapshot}

theorem hasAbi (h : Agree s t) : s.hasAbi = t.hasAbi := by
  rw [hasAbi_eq_any_length, h.abiLength, hasAbi_eq_any_length]

/-- A function that gives the same for explorers that agree gives the same for those of `s` and `t`.
-/
theorem congr_explorer {α : Type} (h : Agree s t) (f : Option Explorer → α)
    (hf : ∀ a b, Explorer.Agree a b → f (some a) = f (some b)) : f s.explorer = f t.explorer :=
  congr_of_rel h.explorer f hf

/-! ### What each finding rests on -/

theorem sourceVerdict (h : Agree s t) : SourceVerdict.ofSnapshot s = .ofSnapshot t := by
  have verified : s.explorer.any Explorer.isVerified = t.explorer.any Explorer.isVerified :=
    h.congr_explorer _ fun _ _ same => same.isVerified
  have absent : s.explorer.isNone = t.explorer.isNone := h.congr_explorer _ fun _ _ _ => rfl
  exact sourceVerdict_congr h.hasAbi verified absent

theorem sourceEvidence (h : Agree s t) : SourceVerdict.evidence s = SourceVerdict.evidence t := by
  have entries : (s.abi.map fun abi => Json.Value.ofNat abi.length) =
      t.abi.map fun abi => Json.Value.ofNat abi.length := by
    have counted := congrArg (Option.map Json.Value.ofNat) h.abiLength
    rwa [Option.map_map, Option.map_map] at counted
  have named : s.explorer.bind Explorer.contractName = t.explorer.bind Explorer.contractName :=
    h.congr_explorer (·.bind _) fun _ _ same => same.contractName
  have present : s.explorer.isSome = t.explorer.isSome := h.congr_explorer _ fun _ _ _ => rfl
  have verified : (s.explorer.map fun e => Json.Value.bool e.isVerified) =
      t.explorer.map fun e => Json.Value.bool e.isVerified :=
    h.congr_explorer _ fun _ _ same => by rw [Option.map_some, same.isVerified, Option.map_some]
  rw [SourceVerdict.evidence, entries, h.functionNames, named, present, verified,
    SourceVerdict.evidence]

theorem proxySigns (h : Agree s t) : ProxySigns.ofSnapshot s = .ofSnapshot t := by
  have flag : s.explorer.any Explorer.proxy = t.explorer.any Explorer.proxy :=
    h.congr_explorer _ fun _ _ same => same.proxy
  have admin : s.explorer.bind Explorer.admin? = t.explorer.bind Explorer.admin? :=
    h.congr_explorer (·.bind _) fun _ _ same => same.admin?
  have code : s.explorer.bind Explorer.implementation? = t.explorer.bind Explorer.implementation? :=
    h.congr_explorer (·.bind _) fun _ _ same => same.implementation?
  rw [ProxySigns.ofSnapshot, flag, h.bytecode, admin, code, ProxySigns.ofSnapshot]

theorem ownerSigns (h : Agree s t) : OwnerSigns.ofSnapshot s = .ofSnapshot t :=
  ownerSigns_congr h.bytecode h.functionNames h.hasAbi

theorem dangerSigns (h : Agree s t) : DangerSigns.ofSnapshot s = .ofSnapshot t :=
  dangerSigns_congr h.bytecode h.functionNames h.hasAbi

/-- **Snapshots that agree as far as they are read are assessed alike**, word for word. -/
theorem analyze_eq (h : Agree s t) : s.analyze = t.analyze := by
  have scoring : s.scoringFindings = t.scoringFindings := by
    simp only [scoringFindings, SourceVerdict.finding, ProxyVerdict.finding, OwnerVerdict.finding,
      DangerVerdict.finding, h.sourceVerdict, h.sourceEvidence, h.proxySigns, h.ownerSigns,
      h.dangerSigns]
  have market : s.marketFindings = t.marketFindings := by
    rw [marketFindings, h.market, marketFindings]
  rw [analyze, scoring, market, analyze]

end Agree

end Snapshot

end EvmRisk
