import EvmRisk.Proofs.Scoring.Account
import EvmRisk.Proofs.Lists

/-!
# The rungs of the ladders

Which verdict a ladder of rules reaches, said by the signs alone: of the verdicts that `Reaches`
tells apart, `ProxyVerdict.ofSigns_eq_iff`, `OwnerVerdict.ofSigns_eq_iff` and
`DangerVerdict.ofSigns_eq_iff` find the one that the signs allow. The ladders of owners and of
danger ask at opposite ends whether there was anything to read: the one of danger first, the one of
owners last, so that there it matters that nothing was found. What is found puts a lower bound on
what a verdict costs (`OwnerVerdict.eight_le_penalty`, `ProxyVerdict.five_le_penalty`), and
different grave markers in the code are counted one by one (`DangerSigns.length_le_count`).
-/

namespace EvmRisk

/-! ### Proxies -/

/-- If `isProxy` holds, the verdict costs `5` or more. -/
theorem ProxyVerdict.five_le_penalty {p : ProxySigns} (h : p.isProxy = true) :
    5 ≤ (ofSigns p).penalty := by
  simp only [ofSigns, h, Bool.not_true, Bool.false_eq_true, if_false]
  split_ifs <;> decide

/-- A signature in `selectors` makes a proxy. -/
theorem ProxySigns.isProxy_of_mem {p : ProxySigns} {s : Signature} (h : s ∈ p.selectors) :
    p.isProxy = true := by
  have nonempty : p.selectors.isEmpty = false :=
    List.isEmpty_eq_false_iff.mpr (List.ne_nil_of_mem h)
  rw [isProxy, nonempty, Bool.not_false, Bool.or_true, Bool.true_or]

/-- The condition on the signs for each verdict on a proxy. -/
def ProxySigns.Reaches (p : ProxySigns) : ProxyVerdict → Prop
  | .notProxy => ¬ p.isProxy = true
  | .upgradeableWithAdmin => p.isProxy = true ∧ p.isUpgradeable = true ∧ p.admin.isSome = true
  | .upgradeable => p.isProxy = true ∧ p.isUpgradeable = true ∧ ¬ p.admin.isSome = true
  | .passiveWithAdmin => p.isProxy = true ∧ ¬ p.isUpgradeable = true ∧ p.admin.isSome = true
  | .passive => p.isProxy = true ∧ ¬ p.isUpgradeable = true ∧ ¬ p.admin.isSome = true

/-- **The ladder of proxies reaches the verdict that the signs allow**: `ofSigns p = v` iff
`p.Reaches v`. -/
theorem ProxyVerdict.ofSigns_eq_iff {p : ProxySigns} {v : ProxyVerdict} :
    ofSigns p = v ↔ p.Reaches v := by
  rw [ofSigns]
  cases v <;> simp only [ProxySigns.Reaches] <;>
    cases p.isProxy <;> cases p.isUpgradeable <;> cases p.admin.isSome <;> decide

/-! ### Owners -/

theorem OwnerSigns.highRiskCount_le_totalCount (o : OwnerSigns) : o.highRiskCount ≤ o.totalCount :=
  Nat.add_le_add (List.length_filter_le _ _) (List.length_filter_le _ _)

theorem OwnerSigns.totalCount_pos_of_mem {o : OwnerSigns} {s : Signature} (h : s ∈ o.selectors) :
    0 < o.totalCount := Nat.add_pos_right _ (List.length_pos_of_mem h)

/-- If there is a sign, the verdict costs `8` or more. -/
theorem OwnerVerdict.eight_le_penalty {o : OwnerSigns} (h : 0 < o.totalCount) :
    8 ≤ (ofSigns o).penalty := by
  unfold ofSigns
  split_ifs <;> decide

/-- The condition on the signs for each verdict on an owner. -/
def OwnerSigns.Reaches (o : OwnerSigns) : OwnerVerdict → Prop
  | .highRisk => 0 < o.highRiskCount
  | .mediumRisk => o.highRiskCount = 0 ∧ 0 < o.totalCount
  | .inconclusive => o.totalCount = 0 ∧ o.hasAbi = false ∧ o.hasBytecode = false
  | .clean => o.totalCount = 0 ∧ (o.hasAbi = true ∨ o.hasBytecode = true)

/-- `o.Reaches` holds of one verdict only. -/
theorem OwnerSigns.Reaches.unique {o : OwnerSigns} {v w : OwnerVerdict} (hv : o.Reaches v)
    (hw : o.Reaches w) : v = w := by
  -- A grave sign is a sign.
  have grave := o.highRiskCount_le_totalCount
  cases v <;> cases w <;> first | rfl | (simp only [Reaches] at hv hw; grind)

/-- **The ladder of owners reaches the verdict that the signs allow**: `ofSigns o = v` iff
`o.Reaches v`. -/
theorem OwnerVerdict.ofSigns_eq_iff {o : OwnerSigns} {v : OwnerVerdict} :
    ofSigns o = v ↔ o.Reaches v := by
  have grave := o.highRiskCount_le_totalCount
  have reached : o.Reaches (ofSigns o) := by
    unfold ofSigns
    split_ifs with high total blind
    · exact high
    · exact ⟨by omega, total⟩
    · exact ⟨by omega, by simpa using blind⟩
    · rw [← Bool.not_or, Bool.not_eq_true', Bool.not_eq_false, Bool.or_eq_true] at blind
      exact ⟨by omega, blind⟩
  exact ⟨fun h => h ▸ reached, reached.unique⟩

/-! ### Danger -/

/-- There is code, or an interface with an entry. -/
def DangerSigns.Informed (d : DangerSigns) : Prop := d.hasAbi = true ∨ d.hasBytecode = true

/-- Different markers of a tier in the code count one by one. -/
theorem DangerSigns.length_le_count {d : DangerSigns} {tier : Tier} {markers : List Marker}
    (distinct : markers.Nodup)
    (found : ∀ m ∈ markers, ∃ s ∈ d.inCode, s.tier = tier ∧ s.marker = m) :
    markers.length ≤ d.count tier := by
  refine (List.subperm_of_subset distinct fun m hm => List.mem_eraseDups.mpr ?_).length_le
  obtain ⟨s, hs, tiered, rfl⟩ := found m hm
  exact List.mem_map_of_mem (List.mem_filter.mpr ⟨hs, by simpa using tiered⟩)

/-- The condition on the signs for each verdict on danger. -/
def DangerSigns.Reaches (d : DangerSigns) : DangerVerdict → Prop
  | .inconclusive => d.hasAbi = false ∧ d.hasBytecode = false
  | .multipleHigh => d.Informed ∧ 2 ≤ d.count .high
  | .singleHigh => d.Informed ∧ d.count .high = 1
  | .manyMedium => d.Informed ∧ d.count .high = 0 ∧ 3 ≤ d.count .medium
  | .someMedium => d.Informed ∧ d.count .high = 0 ∧ 1 ≤ d.count .medium ∧ d.count .medium ≤ 2
  | .keywordOnly => d.Informed ∧ d.count .high = 0 ∧ d.count .medium = 0 ∧ d.keywords ≠ []
  | .clean => d.Informed ∧ d.count .high = 0 ∧ d.count .medium = 0 ∧ d.keywords = []

theorem DangerSigns.Reaches.unique {d : DangerSigns} {v w : DangerVerdict} (hv : d.Reaches v)
    (hw : d.Reaches w) : v = w := by
  cases v <;> cases w <;> first | rfl | (simp only [Reaches, Informed] at hv hw; grind)

/-- **The ladder of danger reaches the verdict that the signs allow**: `ofSigns d = v` iff
`d.Reaches v`. -/
theorem DangerVerdict.ofSigns_eq_iff {d : DangerSigns} {v : DangerVerdict} :
    ofSigns d = v ↔ d.Reaches v := by
  have reached : d.Reaches (ofSigns d) := by
    unfold ofSigns
    split_ifs with blind two one many some names
    · simpa [DangerSigns.Reaches] using blind
    all_goals
      have informed : d.Informed := by
        rwa [← Bool.not_or, Bool.not_eq_true', Bool.not_eq_false, Bool.or_eq_true] at blind
    · exact ⟨informed, two⟩
    · exact ⟨informed, one⟩
    · exact ⟨informed, by omega, many⟩
    · exact ⟨informed, by omega, some, by unfold DangerVerdict.many at many; omega⟩
    · exact ⟨informed, by omega, by omega, by simpa using names⟩
    · exact ⟨informed, by omega, by omega, by simpa using names⟩
  exact ⟨fun h => h ▸ reached, reached.unique⟩

/-! ### The label -/

/-- The label is `low` iff the verdicts cost `20` or less. -/
theorem Snapshot.label_analyze_eq_low_iff (s : Snapshot) :
    s.analyze.label = .low ↔ s.analyze.findings.totalPenalty ≤ 20 := by
  obtain ⟨few, score⟩ := s.toNat_score_analyze
  have low : s.analyze.label = .low ↔ 80 ≤ s.analyze.score.toNat := RiskLabel.ofScore_eq_low_iff
  rw [low]
  omega

end EvmRisk
