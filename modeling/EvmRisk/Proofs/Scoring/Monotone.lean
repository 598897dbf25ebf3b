import EvmRisk.Proofs.Scoring.Account
import EvmRisk.Proofs.Lists

/-!
# More evidence is never less risk

`Snapshot.LessEvident s t` says that the snapshot `t` holds all the evidence against a contract that
`s` holds: its code goes on around the code of `s`, its interface has at least the functions of the
other one, and its explorer knows at least as much. Each of the four verdicts on `t` is then as
costly as the one on `s`, or costlier (`verdictPenalty_mono`), although the ladder of owners puts
the verdict of not knowing between two of its other rungs.

Since the evidence is compared as sets of functions, the order and the repetitions of the entries of
an interface have no effect (`analyze_mono`).
-/

namespace EvmRisk

/-! ### Less evidence -/

/-- The code `b` contains the code `a`, if there is any, as one piece. -/
def Bytecode.Within : (a b : Option Bytecode) → Prop
  | none, _ => True
  | some a, some b => a.hex.toList <:+: b.hex.toList
  | some _, none => False

/-- Two explorers that are both absent, or agree on the source while `b` knows at least as much as
`a` about a proxy. -/
def Explorer.Within : (a b : Option Explorer) → Prop
  | none, none => True
  | some a, some b => a.isVerified = b.isVerified ∧ (a.proxy = true → b.proxy = true) ∧
      (a.admin?.isSome = true → b.admin?.isSome = true)
  | _, _ => False

/-- A snapshot `t` that holds the evidence of `s` and may hold more. -/
structure Snapshot.LessEvident (s t : Snapshot) : Prop where
  /-- The code of `s` is a piece of the code of `t`. -/
  bytecode : Bytecode.Within s.bytecode t.bytecode
  /-- If `t` has code and `s` has none, `s` has an interface with an entry. -/
  informed : s.bytecode = none → t.bytecode ≠ none → s.hasAbi = true
  /-- Both have an interface with an entry, or neither has. -/
  hasAbi : s.hasAbi = t.hasAbi
  /-- The functions of `s` are functions of `t`. -/
  functionNames : s.functionNames ⊆ t.functionNames
  /-- The explorer of `t` knows at least as much. -/
  explorer : Explorer.Within s.explorer t.explorer

/-- Digits in a piece of the code are digits in the code. -/
theorem Bytecode.contains_mono {a b : Bytecode} (h : a.hex.toList <:+: b.hex.toList)
    {piece : List Char} (ha : a.contains piece = true) : b.contains piece = true := by
  rw [contains, Text.occursIn_iff] at ha ⊢
  exact ha.trans h

/-- A signature that is detected in a piece of the code is detected in the code. -/
theorem Signature.detect_mono {a b : Option Bytecode} (h : Bytecode.Within a b)
    (table : List Signature) : detect a table ⊆ detect b table := by
  intro s hs
  cases a with
  | none => exact absurd hs (by simp [detect])
  | some a =>
    cases b with
    | none => exact h.elim
    | some b =>
      rw [mem_detect_iff] at hs ⊢
      exact ⟨hs.1, hs.2.trans h⟩

theorem Signature.ofTier_mono {l m : List Signature} (h : l ⊆ m) (tier : Tier) :
    ofTier tier l ⊆ ofTier tier m := List.filter_subset _ h

/-- More names have more hits. -/
theorem Keyword.hits_mono {l m : List String} (h : l ⊆ m) (place : Place) (words : List String) :
    hits place words l ⊆ hits place words m := by
  intro hit hmem
  rw [mem_hits_iff] at hmem ⊢
  exact ⟨h hmem.1, hmem.2⟩

/-! ### Each ladder climbs -/

/-- With more signs of a proxy the penalty is the same or greater. -/
theorem ProxyVerdict.penalty_mono {p q : ProxySigns} (flag : p.explorerFlag → q.explorerFlag)
    (selectors : p.selectors ⊆ q.selectors) (slot : p.implementationSlot → q.implementationSlot)
    (admin : p.admin.isSome → q.admin.isSome) : (ofSigns p).penalty ≤ (ofSigns q).penalty := by
  have isProxy : p.isProxy → q.isProxy := by
    simp only [ProxySigns.isProxy, Bool.or_eq_true, Bool.not_eq_true', List.isEmpty_eq_false_iff]
    rintro ((h | h) | h)
    · exact Or.inl (Or.inl (flag h))
    · exact Or.inl (Or.inr fun none => h (List.subset_nil.mp (none ▸ selectors)))
    · exact Or.inr (slot h)
  have isUpgradeable : p.isUpgradeable → q.isUpgradeable := by
    simp only [ProxySigns.isUpgradeable, List.any_eq_true]
    rintro ⟨s, hs, h⟩
    exact ⟨s, selectors hs, h⟩
  -- The ladder looks at three truth values of either side, so all combinations can be tried.
  unfold ofSigns
  revert isProxy isUpgradeable admin
  generalize p.isProxy = a, p.isUpgradeable = b, p.admin.isSome = c, q.isProxy = a',
    q.isUpgradeable = b', q.admin.isSome = c'
  revert a b c a' b' c'
  decide

/-- With more signs of an owner the penalty is the same or greater. The hypothesis `blind` is needed
because `inconclusive` costs more than `mediumRisk`. -/
theorem OwnerVerdict.penalty_mono {o p : OwnerSigns}
    (high : 0 < o.highRiskCount → 0 < p.highRiskCount)
    (total : 0 < o.totalCount → 0 < p.totalCount)
    (informed : (o.hasAbi || o.hasBytecode) = (p.hasAbi || p.hasBytecode))
    (blind : (p.hasAbi || p.hasBytecode) = false → p.totalCount = 0) :
    (ofSigns o).penalty ≤ (ofSigns p).penalty := by
  simp only [ofSigns, ← Bool.not_or, informed]
  cases hp : p.hasAbi || p.hasBytecode with
  | false =>
    -- Nothing can be seen of either owner: the first one has no signs either.
    have none := blind hp
    split_ifs <;> first | decide | omega
  | true => split_ifs <;> first | decide | (simp at * <;> omega)

/-- The penalty of danger as a chain of conditions on the two counts and the keywords. -/
theorem DangerVerdict.penalty_ofSigns (d : DangerSigns) : (ofSigns d).penalty =
    if (d.hasAbi || d.hasBytecode) = false then 12
    else if 2 ≤ d.count .high then 30
    else if 1 ≤ d.count .high then 18
    else if 3 ≤ d.count .medium then 12
    else if 1 ≤ d.count .medium ∨ d.keywords ≠ [] then 8
    else 0 := by
  simp only [ofSigns, ← Bool.not_or, Bool.not_eq_true', List.isEmpty_eq_false_iff, many]
  split_ifs <;> first | rfl | omega | simp_all

/-- With more signs of danger the penalty is the same or greater. -/
theorem DangerVerdict.penalty_mono {d e : DangerSigns}
    (informed : (d.hasAbi || d.hasBytecode) = (e.hasAbi || e.hasBytecode))
    (count : ∀ tier, d.count tier ≤ e.count tier) (keywords : d.keywords ⊆ e.keywords) :
    (ofSigns d).penalty ≤ (ofSigns e).penalty := by
  have high := count .high
  have medium := count .medium
  have few : 1 ≤ d.count .medium ∨ d.keywords ≠ [] → 1 ≤ e.count .medium ∨ e.keywords ≠ [] :=
    Or.imp (fun h => Nat.le_trans h medium)
      fun some none => some (List.subset_nil.mp (none ▸ keywords))
  -- Where both climb to different rungs, the counts say which one is higher.
  rw [penalty_ofSigns, penalty_ofSigns, informed]
  split_ifs <;> first | decide | omega | exact absurd (few ‹_›) ‹_›

theorem OwnerSigns.highRiskCount_mono {o p : OwnerSigns} (keywords : o.keywords ⊆ p.keywords)
    (selectors : o.selectors ⊆ p.selectors) (h : 0 < o.highRiskCount) : 0 < p.highRiskCount := by
  unfold highRiskCount at h ⊢
  rcases Nat.add_pos_iff_pos_or_pos.mp h with h | h
  · obtain ⟨hit, hmem⟩ := List.exists_mem_of_length_pos h
    exact Nat.add_pos_left (List.length_pos_of_mem (List.filter_subset _ keywords hmem)) _
  · obtain ⟨s, hmem⟩ := List.exists_mem_of_length_pos h
    exact Nat.add_pos_right _ (List.length_pos_of_mem (Signature.ofTier_mono selectors _ hmem))

theorem OwnerSigns.totalCount_mono {o p : OwnerSigns} (keywords : o.keywords ⊆ p.keywords)
    (selectors : o.selectors ⊆ p.selectors) (h : 0 < o.totalCount) : 0 < p.totalCount := by
  unfold totalCount at h ⊢
  rcases Nat.add_pos_iff_pos_or_pos.mp h with h | h
  · obtain ⟨hit, hmem⟩ := List.exists_mem_of_length_pos h
    exact Nat.add_pos_left (List.length_pos_of_mem (keywords hmem)) _
  · obtain ⟨s, hmem⟩ := List.exists_mem_of_length_pos h
    exact Nat.add_pos_right _ (List.length_pos_of_mem (selectors hmem))

/-- More signatures in the code have at least as many markers of a tier. -/
theorem DangerSigns.count_mono {d e : DangerSigns} (h : d.inCode ⊆ e.inCode) (tier : Tier) :
    d.count tier ≤ e.count tier :=
  length_eraseDups_le_of_subset (List.map_subset _ (Signature.ofTier_mono h tier))

/-! ### The four verdicts on a snapshot -/

namespace Snapshot

/-- Snapshots with `LessEvident s t` are blind together. -/
theorem informed_eq {s t : Snapshot} (h : s.LessEvident t) :
    (s.hasAbi || s.hasBytecode) = (t.hasAbi || t.hasBytecode) := by
  rw [← h.hasAbi]
  cases ha : s.hasAbi with
  | true => rfl
  | false =>
    rw [Bool.false_or, Bool.false_or, hasBytecode, hasBytecode]
    have code := h.bytecode
    cases hs : s.bytecode with
    | none =>
      cases ht : t.bytecode with
      | none => rfl
      | some b =>
        have := h.informed hs (ht ▸ Option.some_ne_none b)
        exact absurd (ha.symm.trans this) (by decide)
    | some a =>
      cases ht : t.bytecode with
      | none => exact (by rwa [hs, ht] at code : False).elim
      | some b => rfl

/-- If `s.hasAbi` does not hold, `s.functionNames` is empty. -/
theorem functionNames_of_hasAbi {s : Snapshot} (h : s.hasAbi = false) : s.functionNames = [] := by
  unfold hasAbi at h
  unfold functionNames
  cases ha : s.abi with
  | none => rfl
  | some abi =>
    rw [ha, Option.any_some, Bool.not_eq_false', List.isEmpty_iff] at h
    rw [h]
    rfl

/-- A blind snapshot has no sign of an owner. -/
theorem ownerSigns_of_blind {s : Snapshot} (h : (s.hasAbi || s.hasBytecode) = false) :
    (OwnerSigns.ofSnapshot s).totalCount = 0 := by
  obtain ⟨abi, code⟩ := Bool.or_eq_false_iff.mp h
  have none : s.bytecode = none := by
    simpa [hasBytecode] using code
  simp [OwnerSigns.totalCount, OwnerSigns.ofSnapshot, functionNames_of_hasAbi abi, none,
    Keyword.hits, Signature.detect]

theorem any_isVerified_eq {s t : Snapshot} (h : s.LessEvident t) :
    s.explorer.any Explorer.isVerified = t.explorer.any Explorer.isVerified ∧
      s.explorer.isNone = t.explorer.isNone := by
  have explorer := h.explorer
  cases hs : s.explorer <;> cases ht : t.explorer <;> rw [hs, ht] at explorer
  case none.none => exact ⟨rfl, rfl⟩
  case none.some => exact explorer.elim
  case some.none => exact explorer.elim
  case some.some => exact ⟨explorer.1, rfl⟩

theorem proxySigns_mono {s t : Snapshot} (h : s.LessEvident t) :
    (s.explorer.any Explorer.proxy → t.explorer.any Explorer.proxy) ∧
      ((s.explorer.bind Explorer.admin?).isSome → (t.explorer.bind Explorer.admin?).isSome) := by
  have explorer := h.explorer
  cases hs : s.explorer <;> cases ht : t.explorer <;> rw [hs, ht] at explorer
  case none.none => exact ⟨id, id⟩
  case none.some => exact explorer.elim
  case some.none => exact explorer.elim
  case some.some => exact explorer.2

theorem implementationSlot_mono {s t : Snapshot} (h : s.LessEvident t)
    (slot : s.bytecode.any (·.contains Signature.implementationSlot)) :
    t.bytecode.any (·.contains Signature.implementationSlot) := by
  obtain ⟨a, ha, found⟩ := (Option.any_eq_true _ _).mp slot
  have code := h.bytecode
  rw [ha] at code
  cases ht : t.bytecode with
  | none =>
    rw [ht] at code
    exact code.elim
  | some b =>
    rw [ht] at code
    exact Bytecode.contains_mono code found

/-- **With more evidence the penalty of every verdict is the same or greater.** -/
theorem verdictPenalty_mono {s t : Snapshot} (h : s.LessEvident t) (i : Indicator) :
    s.verdictPenalty i ≤ t.verdictPenalty i := by
  have found := Signature.detect_mono h.bytecode
  have informed := informed_eq h
  cases i with
  | verifiedSource =>
    -- This verdict rests on nothing in which the two snapshots may differ.
    obtain ⟨verified, absent⟩ := any_isVerified_eq h
    have same : SourceVerdict.ofSnapshot s = SourceVerdict.ofSnapshot t := by
      simp only [SourceVerdict.ofSnapshot, verified, absent, h.hasAbi]
    rw [verdictPenalty, verdictPenalty, same]
    exact UInt8.le_refl _
  | proxy =>
    obtain ⟨flag, admin⟩ := proxySigns_mono h
    exact ProxyVerdict.penalty_mono flag (found _) (implementationSlot_mono h) admin
  | ownerPrivileges =>
    have keywords := Keyword.hits_mono h.functionNames .anywhere Keyword.ownerWords
    exact OwnerVerdict.penalty_mono (OwnerSigns.highRiskCount_mono keywords (found _))
      (OwnerSigns.totalCount_mono keywords (found _)) informed ownerSigns_of_blind
  | dangerousFunctions =>
    have inCode : (DangerSigns.ofSnapshot s).inCode ⊆ (DangerSigns.ofSnapshot t).inCode :=
      List.append_subset.mpr ⟨fun _ hs => List.mem_append_left _ (found _ hs),
        fun _ hs => List.mem_append_right _ (found _ hs)⟩
    exact DangerVerdict.penalty_mono informed (DangerSigns.count_mono inCode)
      (Keyword.hits_mono h.functionNames .atStart Keyword.dangerWords)
  | liquidity => exact UInt8.le_refl _
  | holderDistribution => exact UInt8.le_refl _

end Snapshot

/-! ### Assessments compared by their risk -/

/-- The labels by their gravity. -/
def RiskLabel.severity : RiskLabel → Nat
  | low => 0
  | medium => 1
  | high => 2

/-- A smaller score has a label of the same severity or a greater one. -/
theorem RiskLabel.severity_ofScore_antitone {a b : UInt8} (h : a ≤ b) :
    (ofScore b).severity ≤ (ofScore a).severity := by
  have le : a.toNat ≤ b.toNat := h
  simp only [ofScore, lowBound_le_iff, mediumBound_le_iff]
  split_ifs <;> simp only [severity] <;> omega

/-- An assessment `b` that finds as much against a contract as `a` does, or more: in each finding
that counts, in the score and in the label. -/
structure Assessment.RiskLe (a b : Assessment) : Prop where
  /-- No penalty that counts gets smaller. -/
  penalty_le : ∀ i, i.isScoring = true → ∃ f g, a.findings.get? i = some f ∧
    b.findings.get? i = some g ∧ f.penalty ≤ g.penalty
  /-- The score does not get larger. -/
  score_le : b.score ≤ a.score
  /-- The label does not get better. -/
  severity_le : a.label.severity ≤ b.label.severity

/-- Assessments that cannot be told apart by what counts. -/
structure Assessment.SameRisk (a b : Assessment) : Prop where
  /-- The findings that count agree in status and penalty. -/
  finding_eq : ∀ i, i.isScoring = true → ∃ f g, a.findings.get? i = some f ∧
    b.findings.get? i = some g ∧ f.status = g.status ∧ f.penalty = g.penalty
  /-- The scores agree. -/
  score_eq : a.score = b.score
  /-- The labels agree. -/
  label_eq : a.label = b.label

/-- The penalty determines the status. -/
theorem Graded.status_eq {i : Indicator} {v w : Status} {p : UInt8} (hv : Graded i v p)
    (hw : Graded i w p) : v = w := by
  have pass : v = .pass ↔ w = .pass := hv.pass_iff.trans hw.pass_iff.symm
  have fail : v = .fail ↔ w = .fail := hv.fail_iff.trans hw.fail_iff.symm
  cases v <;> cases w <;> simp_all

namespace Snapshot

theorem exists_finding_analyze (s : Snapshot) {i : Indicator} (hi : i.isScoring = true) :
    ∃ f, s.analyze.findings.get? i = some f ∧ f.penalty = s.verdictPenalty i ∧
      Graded i f.status f.penalty := by
  obtain ⟨f, hf, -, made⟩ := s.exists_findingOn hi
  exact ⟨f, (s.get?_analyze i).trans hf, made⟩

/-- `LessEvident s t` implies `RiskLe` of the assessments. -/
theorem riskLe_analyze {s t : Snapshot} (h : s.LessEvident t) : s.analyze.RiskLe t.analyze := by
  have score : t.analyze.score ≤ s.analyze.score := by
    have total : s.analyze.findings.totalPenalty ≤ t.analyze.findings.totalPenalty := by
      rw [totalPenalty_analyze, totalPenalty_analyze]
      have le (i : Indicator) : (s.verdictPenalty i).toNat ≤ (t.verdictPenalty i).toNat :=
        verdictPenalty_mono h i
      exact Nat.add_le_add (le _) (Nat.add_le_add (le _) (Nat.add_le_add (le _)
        (Nat.add_le_add (le _) (Nat.le_refl _))))
    rw [UInt8.le_iff_toNat_le, s.toNat_score_analyze.2, t.toNat_score_analyze.2]
    omega
  refine ⟨fun i hi => ?_, score, RiskLabel.severity_ofScore_antitone score⟩
  obtain ⟨f, hf, penaltyF, -⟩ := s.exists_finding_analyze hi
  obtain ⟨g, hg, penaltyG, -⟩ := t.exists_finding_analyze hi
  exact ⟨f, g, hf, hg, penaltyF ▸ penaltyG ▸ verdictPenalty_mono h i⟩

/-- `LessEvident` in both directions implies `SameRisk` of the assessments. -/
theorem sameRisk_analyze {s t : Snapshot} (h : s.LessEvident t) (h' : t.LessEvident s) :
    s.analyze.SameRisk t.analyze := by
  have score : s.analyze.score = t.analyze.score :=
    UInt8.le_antisymm (riskLe_analyze h').score_le (riskLe_analyze h).score_le
  refine ⟨fun i hi => ?_, score, congrArg RiskLabel.ofScore score⟩
  have penalty : s.verdictPenalty i = t.verdictPenalty i :=
    UInt8.le_antisymm (verdictPenalty_mono h i) (verdictPenalty_mono h' i)
  obtain ⟨f, hf, penaltyF, gradedF⟩ := s.exists_finding_analyze hi
  obtain ⟨g, hg, penaltyG, gradedG⟩ := t.exists_finding_analyze hi
  have same : f.penalty = g.penalty := penaltyF.trans (penalty.trans penaltyG.symm)
  exact ⟨f, g, hf, hg, gradedF.status_eq (same ▸ gradedG), same⟩

theorem functionNames_mono {abi abi' : Abi} (h : abi ⊆ abi') :
    Abi.functionNames abi ⊆ Abi.functionNames abi' :=
  List.map_subset _ (List.filterMap_subset _ h)

/-- An interface with more entries, in any order and any number, is more evidence. -/
theorem lessEvident_of_subset (s : Snapshot) {abi abi' : Abi}
    (nonempty : abi.isEmpty = abi'.isEmpty)
    (h : abi ⊆ abi') : LessEvident { s with abi := some abi } { s with abi := some abi' } where
  bytecode := by
    cases s.bytecode with
    | none => trivial
    | some a => exact List.infix_rfl
  informed absent present := absurd absent present
  hasAbi := congrArg not nonempty
  functionNames := functionNames_mono h
  explorer := by
    cases s.explorer with
    | none => trivial
    | some e => exact ⟨rfl, id, id⟩

/-- **More evidence is never less risk**, and of an interface only the set of its entries matters.
-/
theorem analyze_mono :
    (∀ s t : Snapshot, s.LessEvident t → s.analyze.RiskLe t.analyze) ∧
      ∀ (s : Snapshot) (abi abi' : Abi), (∀ e, e ∈ abi ↔ e ∈ abi') →
        Assessment.SameRisk (analyze { s with abi := some abi })
          (analyze { s with abi := some abi' }) := by
  -- Two interfaces with the same entries are each as good evidence as the other.
  refine ⟨fun s t => riskLe_analyze, fun s abi abi' same => ?_⟩
  have nonempty : abi.isEmpty = abi'.isEmpty := by
    rw [Bool.eq_iff_iff, List.isEmpty_iff, List.isEmpty_iff, List.eq_nil_iff_forall_not_mem,
      List.eq_nil_iff_forall_not_mem]
    exact forall_congr' fun e => not_congr (same e)
  exact sameRisk_analyze (s.lessEvident_of_subset nonempty fun e => (same e).mp)
    (s.lessEvident_of_subset nonempty.symm fun e => (same e).mpr)

/-- Code that turns up beside an interface, which grows as well, and an interface whose entries are
exchanged while one of them is repeated. -/
theorem analyze_mono_codeFound :
    LessEvident (ofParts none (some [.ofFunction "pause"]) none)
        (ofParts (some "0x40c10f19ff") (some [.ofFunction "mint", .ofFunction "pause"]) none) ∧
      (analyze (ofParts none (some [.ofFunction "pause"]) none)).RiskLe
        (analyze (ofParts (some "0x40c10f19ff")
          (some [.ofFunction "mint", .ofFunction "pause"]) none)) ∧
      (analyze (ofParts none (some [.ofFunction "pause", .ofFunction "mint"]) none)).SameRisk
        (analyze (ofParts none
          (some [.ofFunction "mint", .ofFunction "pause", .ofFunction "mint"]) none)) := by
  have grows : LessEvident (ofParts none (some [.ofFunction "pause"]) none)
      (ofParts (some "0x40c10f19ff") (some [.ofFunction "mint", .ofFunction "pause"]) none) :=
    { bytecode := trivial
      informed := fun _ _ => rfl
      hasAbi := rfl
      functionNames := functionNames_mono fun _ he => List.mem_cons_of_mem _ he
      explorer := trivial }
  refine ⟨grows, analyze_mono.1 _ _ grows, analyze_mono.2 {} _ _ fun e => ?_⟩
  simp only [List.mem_cons, List.not_mem_nil, or_false]
  tauto

end Snapshot

end EvmRisk
