import EvmRisk.Proofs.Scoring.Ladders
import EvmRisk.Proofs.Scoring.Monotone

/-!
# Nothing to look at

A snapshot is `Blind` if there is nothing in which the functions of the contract could be seen: no
code, and no interface or an empty one. The ladders of owners and of danger are then inconclusive,
and only then (`owner_eq_inconclusive_iff`, `danger_eq_inconclusive_iff`): although the one asks
last and the other first, a snapshot has no signs where there is nothing to see them in. What the
explorer says decides the rest of the score, which is never of low risk
(`Snapshot.inconclusive_iff_blind`).
-/

namespace EvmRisk.Snapshot

/-- Neither code nor an interface with something in it. -/
def Blind (s : Snapshot) : Prop := s.bytecode = none ∧ (s.abi = none ∨ s.abi = some [])

/-- `s.Blind` is that neither `hasAbi` nor `hasBytecode` holds. -/
theorem blind_iff {s : Snapshot} : s.Blind ↔ s.hasAbi = false ∧ s.hasBytecode = false := by
  have abi : (s.abi = none ∨ s.abi = some []) ↔ s.hasAbi = false := by
    unfold hasAbi
    cases s.abi <;> simp
  have code : s.bytecode = none ↔ s.hasBytecode = false := by simp [hasBytecode]
  rw [Blind, abi, code, and_comm]

/-! ### The two ladders that read code -/

theorem danger_eq_inconclusive_iff {s : Snapshot} :
    DangerVerdict.ofSigns (.ofSnapshot s) = .inconclusive ↔ s.Blind :=
  DangerVerdict.ofSigns_eq_iff.trans blind_iff.symm

/-- The verdict on an owner is `inconclusive` iff the snapshot is blind. No sign can come before
this rung, since a blind snapshot has none. -/
theorem owner_eq_inconclusive_iff {s : Snapshot} :
    OwnerVerdict.ofSigns (.ofSnapshot s) = .inconclusive ↔ s.Blind := by
  rw [OwnerVerdict.ofSigns_eq_iff, blind_iff]
  -- That nothing was found follows from there being nothing to look at.
  exact ⟨And.right, fun h => ⟨ownerSigns_of_blind (Bool.or_eq_false_iff.mpr h), h⟩⟩

/-! ### What the explorer leaves of the score -/

/-- The penalty for the source if there is no code. -/
def sourceCost : Option Explorer → Nat
  | none => 10
  | some e => if e.isVerified then 0 else 30

/-- The penalty for a proxy if there is no code. -/
def proxyCost : Option Explorer → Nat
  | none => 0
  | some e => if e.proxy then if e.admin?.isSome then 12 else 5 else 0

/-- In a blind snapshot the source costs `sourceCost s.explorer`. -/
theorem toNat_verdictPenalty_source {s : Snapshot} (h : s.Blind) :
    (s.verdictPenalty .verifiedSource).toNat = sourceCost s.explorer := by
  rw [verdictPenalty, SourceVerdict.ofSnapshot, (blind_iff.mp h).1]
  cases s.explorer with
  | none => rfl
  | some e => cases he : e.isVerified <;> simp [sourceCost, he, SourceVerdict.penalty]

/-- In a blind snapshot a proxy costs `proxyCost s.explorer`. -/
theorem toNat_verdictPenalty_proxy {s : Snapshot} (h : s.Blind) :
    (s.verdictPenalty .proxy).toNat = proxyCost s.explorer := by
  rw [verdictPenalty, ProxySigns.ofSnapshot, h.1]
  cases s.explorer with
  | none => rfl
  | some e =>
    cases flag : e.proxy <;> cases admin : e.admin? <;>
      simp [proxyCost, flag, admin, ProxyVerdict.ofSigns, ProxySigns.isProxy,
        ProxySigns.isUpgradeable, Signature.detect, ProxyVerdict.penalty]

/-- In a blind snapshot the owner and danger cost `10 + 12`, and the explorer decides the rest. -/
theorem totalPenalty_of_blind {s : Snapshot} (h : s.Blind) :
    s.analyze.findings.totalPenalty = 22 + sourceCost s.explorer + proxyCost s.explorer := by
  have owner : (s.verdictPenalty .ownerPrivileges).toNat = 10 := by
    rw [verdictPenalty, owner_eq_inconclusive_iff.mpr h]; rfl
  have danger : (s.verdictPenalty .dangerousFunctions).toNat = 12 := by
    rw [verdictPenalty, danger_eq_inconclusive_iff.mpr h]; rfl
  rw [totalPenalty_analyze]
  simp only [Indicator.scoring, List.map_cons, List.map_nil, List.sum_cons, List.sum_nil, owner,
    danger, toNat_verdictPenalty_source h, toNat_verdictPenalty_proxy h]
  omega

/-! ### The account of a blind snapshot -/

/-- A warning with this penalty and with the word `inconclusive` in its reason. -/
def Inconclusive (penalty : UInt8) (f : Finding) : Prop :=
  f.status = .warn ∧ f.penalty = penalty ∧ "inconclusive".toList <:+: f.reason.toList

theorem inconclusive_owner {s : Snapshot} (h : s.Blind) :
    Inconclusive 10 (OwnerVerdict.finding s) := by
  rw [OwnerVerdict.finding, owner_eq_inconclusive_iff.mpr h]
  have reason : "inconclusive".toList <:+:
      "Owner privileges inconclusive: no ABI or bytecode available".toList :=
    Text.occursIn_iff.mp (by decide)
  exact ⟨rfl, rfl, reason⟩

theorem inconclusive_danger {s : Snapshot} (h : s.Blind) :
    Inconclusive 12 (DangerVerdict.finding s) := by
  rw [DangerVerdict.finding, danger_eq_inconclusive_iff.mpr h]
  have reason : "inconclusive".toList <:+:
      "Dangerous functions inconclusive: no ABI or bytecode available".toList :=
    Text.occursIn_iff.mp (by decide)
  exact ⟨rfl, rfl, reason⟩

/-- The findings, the score and the label of a snapshot without code and interface. -/
structure BlindAccount (s : Snapshot) : Prop where
  /-- The finding about the owner is inconclusive and costs `10`. -/
  owner : ∃ f, s.analyze.findings.get? .ownerPrivileges = some f ∧ Inconclusive 10 f
  /-- The finding about danger is inconclusive and costs `12`. -/
  danger : ∃ f, s.analyze.findings.get? .dangerousFunctions = some f ∧ Inconclusive 12 f
  /-- The score is `78` less what the explorer gives away. -/
  score_eq : (s.analyze.score.toNat : Int) = 78 - sourceCost s.explorer - proxyCost s.explorer
  /-- The label is not `low`. -/
  label_ne : s.analyze.label ≠ .low

/-- **What cannot be looked at is never taken for clean.** The ladders of owners and of danger are
inconclusive for the same snapshots, the blind ones, and their score is `78` less what the explorer
gives away. -/
theorem inconclusive_iff_blind (s : Snapshot) :
    (OwnerVerdict.ofSigns (.ofSnapshot s) = .inconclusive ↔
      DangerVerdict.ofSigns (.ofSnapshot s) = .inconclusive) ∧
    (DangerVerdict.ofSigns (.ofSnapshot s) = .inconclusive ↔
      s.bytecode = none ∧ (s.abi = none ∨ s.abi = some [])) ∧
    (s.Blind → s.BlindAccount) := by
  refine ⟨owner_eq_inconclusive_iff.trans danger_eq_inconclusive_iff.symm,
    danger_eq_inconclusive_iff, fun h => ?_⟩
  have total := totalPenalty_of_blind h
  have score := s.toNat_score_analyze
  constructor
  case owner => exact ⟨_, s.get?_analyze _, inconclusive_owner h⟩
  case danger => exact ⟨_, s.get?_analyze _, inconclusive_danger h⟩
  case score_eq => omega
  case label_ne =>
    rw [Ne, label_analyze_eq_low_iff]
    omega

/-- A proxy with an admin, of which the explorer says nothing else and nothing else is known. -/
theorem inconclusive_iff_blind_proxy :
    let e : Explorer := ⟨false, true, none, some " 0X5fbdb2315678afecb367f032d93f642f64180aa3",
      none, none, none⟩
    let s : Snapshot := { abi := some [], explorer := some e }
    s.Blind ∧ s.BlindAccount ∧ s.analyze.score = 36 := by
  intro e s
  have blind : s.Blind := ⟨rfl, Or.inr rfl⟩
  have account := (inconclusive_iff_blind s).2.2 blind
  have admin : proxyCost s.explorer = 12 := by decide
  have source : sourceCost s.explorer = 30 := rfl
  have score := account.score_eq
  rw [admin, source] at score
  exact ⟨blind, account, UInt8.toNat_inj.mp (Int.ofNat_inj.mp score)⟩

end EvmRisk.Snapshot
