import EvmRisk.Proofs.Scoring.Account
import EvmRisk.Proofs.Scoring.Agreement
import Mathlib.Data.List.Forall2

/-!
# What does not matter

Much of what is known about a contract only describes it: who made it and what it is called, its
source, the address of the code behind a proxy, who exactly may replace that code, and of the
interface all but the names of the functions. Two snapshots that differ in these alone
(`Snapshot.Alike`) get the same verdicts in the same words (`Snapshot.indifferent_analyze`);
where nothing hints at a proxy (`Snapshot.Unproxied`), it does not even matter whether anybody is
known who may replace the code.

What differs is the evidence. Nothing that is written for readers looks at it, so that assessments
can be compared without it (`Assessment.bare`).
-/

namespace EvmRisk

/-! ### Assessments without their evidence -/

/-- A finding without its evidence. -/
def Finding.bare (f : Finding) : Finding := { f with evidence := .null }

/-- Findings without their evidence. -/
def Findings.bare (fs : Findings) : Findings := ⟨fun i => (fs.get? i).map Finding.bare⟩

theorem Findings.toList_bare (fs : Findings) : fs.bare.toList = fs.toList.map Finding.bare := by
  unfold toList entries bare
  simp only [List.map_filterMap, Option.map_map]
  rfl

namespace Assessment

/-- An assessment without the evidence of its findings. -/
def bare (a : Assessment) : Assessment := { a with findings := a.findings.bare }

theorem concerns_bare (a : Assessment) : a.bare.concerns = a.concerns := by
  unfold concerns bare
  rw [Findings.toList_bare, List.filter_map, List.map_map]
  rfl

theorem merits_bare (a : Assessment) : a.bare.merits = a.merits := by
  unfold merits bare
  rw [Findings.toList_bare, List.filter_map, List.map_map]
  rfl

theorem summary_bare (a : Assessment) : a.bare.summary = a.summary := by
  unfold summary bare
  rw [Findings.toList_bare, List.map_map]
  rfl

/-- **Readers do not see the evidence**: assessments that are equal without it have the same texts.
-/
theorem texts_eq_of_bare {a b : Assessment} (h : a.bare = b.bare) :
    a.summary = b.summary ∧ a.keyFindings = b.keyFindings ∧ a.goodSigns = b.goodSigns := by
  refine ⟨?_, ?_, ?_⟩
  · rw [← summary_bare, h, summary_bare]
  · rw [keyFindings, ← concerns_bare, h, concerns_bare, keyFindings]
  · rw [goodSigns, ← merits_bare, h, merits_bare, goodSigns]

end Assessment

/-! ### Snapshots that differ in what only describes -/

/-- Entries of the same kind, and of the same name where they are functions. -/
structure AbiEntry.Alike (e f : AbiEntry) : Prop where
  kind : e.kind = f.kind
  name : e.kind = .function → e.name = f.name

/-- Explorers that say the same about the source and about a proxy. -/
structure Explorer.Alike (e f : Explorer) : Prop where
  isVerified : e.isVerified = f.isVerified
  proxy : e.proxy = f.proxy

namespace Snapshot

/-- The explorer knows an admin, who may replace the code. -/
def hasAdmin (s : Snapshot) : Bool := (s.explorer.bind Explorer.admin?).isSome

/-- Snapshots that may differ in what only describes the contract, and in who may replace the
code. -/
structure Alike (s t : Snapshot) : Prop where
  bytecode : s.bytecode = t.bytecode
  /-- The interfaces go along entry by entry; a missing one goes along with an empty one. -/
  entries : List.Forall₂ AbiEntry.Alike (s.abi.getD []) (t.abi.getD [])
  explorer : Option.Rel Explorer.Alike s.explorer t.explorer

/-- None of the three signs of a proxy is there. -/
structure Unproxied (s : Snapshot) : Prop where
  flag : ∀ e ∈ s.explorer, e.proxy = false
  selectors : ∀ code ∈ s.bytecode, ∀ g ∈ Signature.proxySelectors,
    ¬ g.marker.hex <:+: code.hex.toList
  slot : ∀ code ∈ s.bytecode, ¬ Signature.implementationSlot <:+: code.hex.toList

end Snapshot

/-! ### The signs -/

/-- Entries that are `Alike` have the same function name, if they have one. -/
theorem AbiEntry.Alike.functionName? {e f : AbiEntry} (h : Alike e f) :
    e.functionName? = f.functionName? := by
  unfold AbiEntry.functionName?
  rw [← h.kind]
  cases kind : e.kind with
  | other => rfl
  | function => rw [h.name kind]

theorem AbiEntry.filterMap_functionName? {es fs : List AbiEntry} (h : List.Forall₂ Alike es fs) :
    es.filterMap functionName? = fs.filterMap functionName? := by
  induction h with
  | nil => rfl
  | cons first _ ih => rw [List.filterMap_cons, List.filterMap_cons, first.functionName?, ih]

namespace Snapshot

/-- `s.hasAbi` is the same for a missing interface as for an empty one. -/
theorem hasAbi_eq_isEmpty (s : Snapshot) : s.hasAbi = !(s.abi.getD []).isEmpty := by
  unfold hasAbi
  cases s.abi <;> rfl

/-- A snapshot that is `Unproxied` has no sign of a proxy. -/
theorem Unproxied.isProxy {s : Snapshot} (h : s.Unproxied) :
    (ProxySigns.ofSnapshot s).isProxy = false := by
  have flag : s.explorer.any Explorer.proxy = false := by
    rw [Option.any_eq_false_iff_get]
    exact fun some => h.flag _ (Option.get_mem some)
  have selectors : Signature.detect s.bytecode Signature.proxySelectors = [] := by
    cases code : s.bytecode with
    | none => rfl
    | some c =>
      refine List.eq_nil_iff_forall_not_mem.mpr fun g hg => ?_
      obtain ⟨listed, occurs⟩ := Signature.mem_detect_iff.mp hg
      exact h.selectors c code g listed occurs
  have slot : s.bytecode.any (·.contains Signature.implementationSlot) = false := by
    rw [Option.any_eq_false_iff_get]
    intro some
    rw [Bool.eq_false_iff, Bytecode.contains, Ne, Text.occursIn_iff]
    exact h.slot _ (Option.get_mem some)
  simp [ProxySigns.isProxy, ProxySigns.ofSnapshot, flag, selectors, slot]

namespace Alike

variable {s t : Snapshot}

theorem hasAbi (h : Alike s t) : s.hasAbi = t.hasAbi := by
  have empty : s.abi.getD [] = [] ↔ t.abi.getD [] = [] := by
    rw [← List.length_eq_zero_iff, h.entries.length_eq, List.length_eq_zero_iff]
  rw [hasAbi_eq_isEmpty, hasAbi_eq_isEmpty, Bool.eq_iff_iff]
  simp [empty]

theorem functionNames (h : Alike s t) : s.functionNames = t.functionNames := by
  rw [Snapshot.functionNames, Snapshot.functionNames, Abi.functionNames, Abi.functionNames,
    AbiEntry.filterMap_functionName? h.entries]

theorem sourceVerdict (h : Alike s t) : SourceVerdict.ofSnapshot s = .ofSnapshot t :=
  sourceVerdict_congr h.hasAbi
    (congr_of_rel h.explorer (·.any _) fun _ _ same => same.isVerified)
    (congr_of_rel h.explorer _ fun _ _ _ => rfl)

theorem ownerSigns (h : Alike s t) : OwnerSigns.ofSnapshot s = .ofSnapshot t :=
  ownerSigns_congr h.bytecode h.functionNames h.hasAbi

theorem dangerSigns (h : Alike s t) : DangerSigns.ofSnapshot s = .ofSnapshot t :=
  dangerSigns_congr h.bytecode h.functionNames h.hasAbi

/-- Snapshots that are `Alike` have the same signs of a proxy; the admin is not one of them. -/
theorem isProxy (h : Alike s t) :
    (ProxySigns.ofSnapshot s).isProxy = (ProxySigns.ofSnapshot t).isProxy := by
  have flag : s.explorer.any Explorer.proxy = t.explorer.any Explorer.proxy :=
    congr_of_rel h.explorer (·.any _) fun _ _ same => same.proxy
  simp only [ProxySigns.isProxy, ProxySigns.ofSnapshot, flag, h.bytecode]

theorem isUpgradeable (h : Alike s t) :
    (ProxySigns.ofSnapshot s).isUpgradeable = (ProxySigns.ofSnapshot t).isUpgradeable := by
  simp only [ProxySigns.isUpgradeable, ProxySigns.ofSnapshot, h.bytecode]

/-- The verdict on a proxy is the same if both have an admin or neither has, or if there is no sign
of a proxy. -/
theorem proxyVerdict (h : Alike s t) (admin : s.hasAdmin = t.hasAdmin ∨ s.Unproxied) :
    ProxyVerdict.ofSigns (.ofSnapshot s) = ProxyVerdict.ofSigns (.ofSnapshot t) := by
  unfold ProxyVerdict.ofSigns
  rw [← h.isProxy, ← h.isUpgradeable]
  rcases admin with same | unproxied
  · have known : (ProxySigns.ofSnapshot s).admin.isSome = (ProxySigns.ofSnapshot t).admin.isSome :=
      same
    rw [known]
  · -- The first rule applies, before anybody asks who may replace the code.
    rw [unproxied.isProxy]
    rfl

/-! ### The assessments -/

/-- The findings on `i` are equal without their evidence. -/
theorem bare_findingOn (h : Alike s t) (admin : s.hasAdmin = t.hasAdmin ∨ s.Unproxied)
    {i : Indicator} (same : i.isScoring = true ∨ s.market = t.market) :
    (s.findingOn i).map Finding.bare = (t.findingOn i).map Finding.bare := by
  cases i with
  | verifiedSource =>
    simp only [findingOn, SourceVerdict.finding, h.sourceVerdict]
    rfl
  | proxy =>
    simp only [findingOn, ProxyVerdict.finding, h.proxyVerdict admin]
    rfl
  | ownerPrivileges => simp only [findingOn, OwnerVerdict.finding, h.ownerSigns]
  | dangerousFunctions => simp only [findingOn, DangerVerdict.finding, h.dangerSigns]
  | liquidity => rw [findingOn, same.resolve_left (by decide), findingOn]
  | holderDistribution => rw [findingOn, same.resolve_left (by decide), findingOn]

theorem score_analyze (h : Alike s t) (admin : s.hasAdmin = t.hasAdmin ∨ s.Unproxied) :
    s.analyze.score = t.analyze.score ∧ s.analyze.label = t.analyze.label := by
  refine score_congr fun i => ?_
  cases i with
  | verifiedSource => rw [verdictPenalty, h.sourceVerdict, verdictPenalty]
  | proxy => rw [verdictPenalty, h.proxyVerdict admin, verdictPenalty]
  | ownerPrivileges => rw [verdictPenalty, h.ownerSigns, verdictPenalty]
  | dangerousFunctions => rw [verdictPenalty, h.dangerSigns, verdictPenalty]
  | liquidity => rfl
  | holderDistribution => rfl

/-- With the same market, the assessments are equal without their evidence. -/
theorem bare_analyze (h : Alike s t) (admin : s.hasAdmin = t.hasAdmin ∨ s.Unproxied)
    (market : s.market = t.market) : s.analyze.bare = t.analyze.bare := by
  obtain ⟨score, label⟩ := h.score_analyze admin
  have findings : s.analyze.findings.bare = t.analyze.findings.bare := by
    ext1
    funext i
    simp only [Findings.bare, get?_analyze, h.bare_findingOn admin (Or.inr market)]
  rw [Assessment.bare, findings, score, label, Assessment.bare]

end Alike

end Snapshot

/-- Assessments that come to the same verdicts in the same words. -/
structure Assessment.SameVerdicts (a b : Assessment) : Prop where
  findings : ∀ i, i.isScoring = true → ∃ f g,
    a.findings.get? i = some f ∧ b.findings.get? i = some g ∧
      f.status = g.status ∧ f.reason = g.reason ∧ f.penalty = g.penalty
  score : a.score = b.score
  label : a.label = b.label

namespace Snapshot

/-- **Snapshots that are `Alike` get the same verdicts in the same words**, if both have an admin or
neither has, or if there is no sign of a proxy. -/
theorem indifferent_analyze {s t : Snapshot} (h : s.Alike t)
    (admin : s.hasAdmin = t.hasAdmin ∨ s.Unproxied) :
    s.analyze.SameVerdicts t.analyze ∧
      (s.market = t.market → s.analyze.summary = t.analyze.summary ∧
        s.analyze.keyFindings = t.analyze.keyFindings ∧
        s.analyze.goodSigns = t.analyze.goodSigns) := by
  obtain ⟨score, label⟩ := h.score_analyze admin
  refine ⟨⟨fun i hi => ?_, score, label⟩, fun market => ?_⟩
  · obtain ⟨f, hf, -⟩ := s.exists_findingOn hi
    obtain ⟨g, hg, -⟩ := t.exists_findingOn hi
    have same := h.bare_findingOn admin (Or.inl hi)
    rw [hf, hg, Option.map_some, Option.map_some, Option.some.injEq] at same
    refine ⟨f, g, (get?_analyze s i).trans hf, (get?_analyze t i).trans hg, ?_, ?_, ?_⟩
    · show f.bare.status = g.bare.status
      rw [same]
    · show f.bare.reason = g.bare.reason
      rw [same]
    · show f.bare.penalty = g.bare.penalty
      rw [same]
  · exact Assessment.texts_eq_of_bare (h.bare_analyze admin market)

/-- A proxy under two names with two admins, whose interfaces differ in what is not a function, and
code without a hint at a proxy whose admin is known to one side only. -/
theorem indifferent_analyze_renamed :
    let mint (note : String) : AbiEntry := ⟨.function, some "mint", some note, [⟨"to", note⟩], []⟩
    let e : Explorer := ⟨true, true, some "0x1", some "0x5fbdb2315678afecb367f032d93f642f64180aa3",
      none, some "Vault", some "contract Vault {}"⟩
    let f : Explorer := ⟨true, true, none, some " 5FBDB2315678AFECB367F032D93F642F64180AA4",
      some "0x2", none, none⟩
    let event (name : Option String) : AbiEntry := ⟨.other, name, none, [], []⟩
    let s : Snapshot := { abi := some [mint "view", event (some "Paid")], explorer := some e }
    let t : Snapshot := { abi := some [mint "", event none], explorer := some f }
    let u : Snapshot := { bytecode := some ⟨"6080"⟩, explorer := some { e with proxy := false } }
    let v : Snapshot := { u with explorer := some { e with proxy := false, proxyAdmin := none } }
    s.analyze.SameVerdicts t.analyze ∧ s.analyze.summary = t.analyze.summary ∧
      (u.hasAdmin ≠ v.hasAdmin ∧ u.analyze.SameVerdicts v.analyze) := by
  intro mint e f event s t u v
  have renamed : s.Alike t := by
    refine ⟨rfl, ?_, Option.Rel.some ⟨rfl, rfl⟩⟩
    exact .cons ⟨rfl, fun _ => rfl⟩ (.cons ⟨rfl, fun other => nomatch other⟩ .nil)
  have bothKnown : s.hasAdmin = t.hasAdmin := by decide
  have described : u.Alike v := ⟨rfl, .nil, Option.Rel.some ⟨rfl, rfl⟩⟩
  have unproxied : u.Unproxied := by
    constructor
    case flag => rintro _ ⟨⟩; rfl
    case selectors =>
      rintro _ ⟨⟩ g listed
      rw [← Text.occursIn_iff]
      revert g
      decide
    case slot =>
      rintro _ ⟨⟩
      rw [← Text.occursIn_iff]
      decide
  obtain ⟨same, texts⟩ := indifferent_analyze renamed (Or.inl bothKnown)
  exact ⟨same, (texts rfl).1, by decide, (indifferent_analyze described (Or.inr unproxied)).1⟩

end Snapshot

end EvmRisk
