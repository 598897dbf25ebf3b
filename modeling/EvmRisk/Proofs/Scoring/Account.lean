import EvmRisk.Assessment
import Mathlib.Tactic.ByContra
import Mathlib.Tactic.SplitIfs
import Mathlib.Algebra.GroupWithZero.Nat
import Mathlib.Data.List.Basic

/-!
# The account of an assessment

`Snapshot.analyze` adds up exactly. Each verdict takes off what it says (`Snapshot.verdictPenalty`),
since no verdict asks for more than its indicator allows (`Graded.le_maxPenalty`), and the sum stays
below one hundred (`totalPenalty_analyze`), so neither the cap on a penalty nor the bounds on a
score ever cut anything off. `balanced_analyze` puts the account together and draws the consequences
for the label.

A status goes with its penalty: for all four kinds of verdict, `Graded` says that passing costs
nothing and failing thirty.
-/

namespace EvmRisk

/-! ### Status and penalty of a verdict -/

/-- A status and a penalty that a verdict on the indicator `i`, which counts for the score, can
have. -/
structure Graded (i : Indicator) (status : Status) (penalty : UInt8) : Prop where
  /-- The penalty is one that the indicator allows. -/
  le_maxPenalty : penalty ≤ i.maxPenalty
  /-- The status is `Status.pass` iff the penalty is `0`. -/
  pass_iff : status = .pass ↔ penalty = 0
  /-- The status is `Status.fail` iff the penalty is `30`. -/
  fail_iff : status = .fail ↔ penalty = 30
  /-- No penalty is between `0` and `5`. -/
  five_le : penalty ≠ 0 → 5 ≤ penalty

theorem SourceVerdict.graded (v : SourceVerdict) : Graded .verifiedSource v.status v.penalty := by
  cases v <;> constructor <;> simp only [status, penalty] <;> decide

theorem ProxyVerdict.graded (v : ProxyVerdict) : Graded .proxy v.status v.penalty := by
  cases v <;> constructor <;> decide

theorem OwnerVerdict.graded (v : OwnerVerdict) : Graded .ownerPrivileges v.status v.penalty := by
  cases v <;> constructor <;> decide

theorem DangerVerdict.graded (v : DangerVerdict) :
    Graded .dangerousFunctions v.status v.penalty := by
  cases v <;> constructor <;> decide

/-- `Finding.make` keeps a penalty that the indicator allows. -/
theorem Finding.penalty_make_of_le {i : Indicator} {penalty : UInt8} (h : penalty ≤ i.maxPenalty)
    (status : Status) (reason : String) (evidence : Json.Value) :
    (make i status reason penalty evidence).penalty = penalty := if_pos h

/-- No verdict on an owner costs more than `18`, though the indicator allows `20`. -/
theorem OwnerVerdict.penalty_le (v : OwnerVerdict) : v.penalty ≤ 18 := by cases v <;> decide

/-! ### Score and label -/

/-- The score of a penalty `n` is `100 - n`, cut off at `0`. -/
theorem toNat_scoreOfPenalty (n : Nat) : (scoreOfPenalty n).toNat = 100 - n := by
  have inside : max 0 (min fullScore (fullScore - n)) = ((100 - n : Nat) : Int) := by
    unfold fullScore
    omega
  have small : 100 - n < UInt8.size := Nat.lt_of_le_of_lt (Nat.sub_le _ _) (by decide)
  rw [scoreOfPenalty, inside, Int.toNat_natCast, UInt8.toNat_ofNat_of_lt' small]

namespace RiskLabel

theorem lowBound_le_iff {score : UInt8} : lowBound ≤ score ↔ 80 ≤ score.toNat := Iff.rfl

theorem mediumBound_le_iff {score : UInt8} : mediumBound ≤ score ↔ 50 ≤ score.toNat := Iff.rfl

theorem ofScore_eq_low_iff {score : UInt8} : ofScore score = .low ↔ 80 ≤ score.toNat := by
  simp only [ofScore, lowBound_le_iff, mediumBound_le_iff]
  split_ifs <;> simp <;> omega

theorem ofScore_eq_medium_iff {score : UInt8} :
    ofScore score = .medium ↔ 50 ≤ score.toNat ∧ score.toNat < 80 := by
  simp only [ofScore, lowBound_le_iff, mediumBound_le_iff]
  split_ifs <;> simp <;> omega

theorem ofScore_eq_high_iff {score : UInt8} : ofScore score = .high ↔ score.toNat < 50 := by
  simp only [ofScore, lowBound_le_iff, mediumBound_le_iff]
  split_ifs <;> simp <;> omega

end RiskLabel

/-! ### Findings about the market -/

/-- A finding about an indicator that informs and never counts. -/
structure Informs (i : Indicator) (f : Finding) : Prop where
  /-- `f` is about the indicator `i`. -/
  indicator_eq : f.indicator = i
  /-- `f` takes nothing off the score. -/
  penalty_eq : f.penalty = 0
  /-- Its status is `Status.pass` or `Status.warn`. -/
  not_fail : f.status ≠ .fail

theorem Market.informs_liquidityFinding (m : Option Market) :
    Informs .liquidity (liquidityFinding m) := by
  unfold liquidityFinding
  split
  · exact ⟨rfl, rfl, by decide⟩
  · dsimp only
    split_ifs <;> exact ⟨rfl, rfl, by simp [Finding.make]⟩

theorem Market.informs_holdersFinding (m : Option Market) :
    Informs .holderDistribution (holdersFinding m) := by
  unfold holdersFinding
  dsimp only
  split_ifs
  · exact ⟨rfl, rfl, by simp [Finding.make]⟩
  · split <;> exact ⟨rfl, rfl, by simp [Finding.make]⟩

/-! ### Where findings stand -/

theorem Indicator.nodup_all : all.Nodup := by decide

namespace Findings

/-- An entry of `fs` is an indicator with the finding under it. -/
theorem exists_of_mem_entries {fs : Findings} {e : Indicator × Finding} (h : e ∈ fs.entries) :
    fs.get? e.1 = some e.2 := by
  obtain ⟨i, -, found⟩ := List.mem_filterMap.mp h
  obtain ⟨f, hf, rfl⟩ := Option.map_eq_some_iff.mp found
  exact hf

/-- `fs.indicators` are the indicators with a finding, in their order. -/
theorem indicators_eq_filter (fs : Findings) :
    fs.indicators = Indicator.all.filter fun i => (fs.get? i).isSome := by
  unfold indicators entries
  induction Indicator.all with
  | nil => rfl
  | cons i is ih => cases h : fs.get? i <;> simp [h, ih]

theorem nodup_indicators (fs : Findings) : fs.indicators.Nodup := by
  rw [indicators_eq_filter]
  exact Indicator.nodup_all.filter _

/-- `fs.toList` has the findings in the order of the indicators. -/
theorem toList_eq_filterMap (fs : Findings) : fs.toList = Indicator.all.filterMap fs.get? := by
  rw [toList, entries, List.map_filterMap]
  congr 1
  ext i : 1
  rw [Option.map_map]
  exact congrFun Option.map_id _

/-- Every finding stands under its own indicator. -/
def Filed (fs : Findings) : Prop := ∀ i f, fs.get? i = some f → f.indicator = i

/-- If `fs.Filed`, the findings are about the indicators under which they stand. -/
theorem Filed.map_indicator {fs : Findings} (h : fs.Filed) :
    fs.toList.map Finding.indicator = fs.indicators := by
  rw [toList, List.map_map, indicators]
  exact List.map_congr_left fun e he => h _ _ (exists_of_mem_entries he)

/-- If `fs.Filed`, `fs.totalPenalty` is the sum over the indicators of `Indicator.scoring`. -/
theorem Filed.totalPenalty_eq {fs : Findings} (h : fs.Filed) : fs.totalPenalty =
    (Indicator.scoring.filterMap fun i => (fs.get? i).map fun f => f.penalty.toNat).sum := by
  have scoring : Indicator.scoring = Indicator.all.filter Indicator.isScoring := by decide
  rw [totalPenalty, ← List.sum_eq_foldr, toList_eq_filterMap, scoring]
  induction Indicator.all with
  | nil => rfl
  | cons i is ih =>
    simp only [List.filterMap_cons, List.filter_cons]
    cases found : fs.get? i with
    | none => cases hi : i.isScoring <;> simpa [found, hi] using ih
    | some f =>
      have about : f.indicator = i := h i f found
      cases hi : i.isScoring <;> simpa [found, hi, about] using ih

/-- If `fs.Filed`, at most one finding is about an indicator `i`. -/
theorem Filed.countP_le_one {fs : Findings} (h : fs.Filed) (i : Indicator) (p : Finding → Bool) :
    fs.toList.countP (fun f => f.indicator = i && p f) ≤ 1 := by
  calc fs.toList.countP (fun f => f.indicator = i && p f)
      ≤ fs.toList.countP ((· == i) ∘ Finding.indicator) :=
        List.countP_mono_left fun f _ hf => by
          have about := (Bool.and_eq_true_iff.mp hf).1
          simpa using about
    _ = fs.indicators.count i := by rw [← List.countP_map, h.map_indicator, List.count]
    _ ≤ 1 := List.nodup_iff_count.mp fs.nodup_indicators i

end Findings

/-! ### What an analysis holds -/

namespace Snapshot

/-- The penalty of the verdict on an indicator; indicators that only inform have none. -/
def verdictPenalty (s : Snapshot) : Indicator → UInt8
  | .verifiedSource => (SourceVerdict.ofSnapshot s).penalty
  | .proxy => (ProxyVerdict.ofSigns (.ofSnapshot s)).penalty
  | .ownerPrivileges => (OwnerVerdict.ofSigns (.ofSnapshot s)).penalty
  | .dangerousFunctions => (DangerVerdict.ofSigns (.ofSnapshot s)).penalty
  | .liquidity => 0
  | .holderDistribution => 0

/-- The finding of an analysis about an indicator. -/
def findingOn (s : Snapshot) : Indicator → Option Finding
  | .verifiedSource => some (SourceVerdict.finding s)
  | .proxy => some (ProxyVerdict.finding s)
  | .ownerPrivileges => some (OwnerVerdict.finding s)
  | .dangerousFunctions => some (DangerVerdict.finding s)
  | .liquidity => s.market.map fun m => Market.liquidityFinding (some m)
  | .holderDistribution => s.market.map fun m => Market.holdersFinding (some m)

/-- `s.analyze` has `s.findingOn i` under the indicator `i`. -/
theorem get?_analyze (s : Snapshot) (i : Indicator) :
    s.analyze.findings.get? i = s.findingOn i := by
  have scoring (i : Indicator) : (Findings.ofList s.scoringFindings).get? i =
      if i.isScoring then s.findingOn i else none := by cases i <;> rfl
  unfold analyze marketFindings
  cases hm : s.market with
  | none =>
    show (Findings.ofList (s.scoringFindings ++ [])).get? i = _
    rw [List.append_nil, scoring]
    cases i <;> simp [Indicator.isScoring, Indicator.scoring, findingOn, hm]
  | some m =>
    -- The two findings about the market come last and replace none of the others.
    show (((Findings.ofList s.scoringFindings).insert (Market.liquidityFinding (some m))).insert
      (Market.holdersFinding (some m))).get? i = _
    rw [Findings.get?_insert, Findings.get?_insert, scoring,
      (Market.informs_liquidityFinding _).indicator_eq,
      (Market.informs_holdersFinding _).indicator_eq]
    cases i <;> simp [Indicator.isScoring, Indicator.scoring, findingOn, hm]

/-- If `i` counts for the score, there is a finding on it with the penalty of its verdict and a
status that goes with this penalty. -/
theorem exists_findingOn (s : Snapshot) {i : Indicator} (hi : i.isScoring = true) :
    ∃ f, s.findingOn i = some f ∧ f.indicator = i ∧ f.penalty = s.verdictPenalty i ∧
      Graded i f.status f.penalty := by
  have made {v : Status} {p : UInt8} (h : Graded i v p) (reason : String) (e : Json.Value) :
      (Finding.make i v reason p e).penalty = p ∧
        Graded i (Finding.make i v reason p e).status (Finding.make i v reason p e).penalty := by
    rw [Finding.penalty_make_of_le h.le_maxPenalty]
    exact ⟨rfl, h⟩
  cases i with
  | verifiedSource => exact ⟨_, rfl, rfl, made (SourceVerdict.graded _) _ _⟩
  | proxy => exact ⟨_, rfl, rfl, made (ProxyVerdict.graded _) _ _⟩
  | ownerPrivileges => exact ⟨_, rfl, rfl, made (OwnerVerdict.graded _) _ _⟩
  | dangerousFunctions => exact ⟨_, rfl, rfl, made (DangerVerdict.graded _) _ _⟩
  | liquidity => exact absurd hi (by decide)
  | holderDistribution => exact absurd hi (by decide)

/-- If `i` does not count for the score, a finding on it only informs. -/
theorem informs_of_findingOn {s : Snapshot} {i : Indicator} {f : Finding}
    (hi : i.isScoring = false) (h : s.findingOn i = some f) : Informs i f := by
  cases i with
  | liquidity =>
    obtain ⟨m, -, rfl⟩ := Option.map_eq_some_iff.mp h
    exact Market.informs_liquidityFinding _
  | holderDistribution =>
    obtain ⟨m, -, rfl⟩ := Option.map_eq_some_iff.mp h
    exact Market.informs_holdersFinding _
  | _ => exact absurd hi (by decide)

/-- The finding of `s.analyze` under an indicator that counts is about this indicator and has the
penalty of its verdict and a status that goes with it. -/
theorem graded_of_get?_analyze {s : Snapshot} {i : Indicator} {f : Finding}
    (hi : i.isScoring = true) (h : s.analyze.findings.get? i = some f) :
    f.indicator = i ∧ f.penalty = s.verdictPenalty i ∧ Graded i f.status f.penalty := by
  rw [get?_analyze] at h
  obtain ⟨g, hg, made⟩ := s.exists_findingOn hi
  obtain rfl := Option.some.inj (hg.symm.trans h)
  exact made

theorem informs_of_get?_analyze {s : Snapshot} {i : Indicator} {f : Finding}
    (hi : i.isScoring = false) (h : s.analyze.findings.get? i = some f) : Informs i f := by
  rw [get?_analyze] at h
  exact informs_of_findingOn hi h

/-- In `s.analyze` every finding stands under its own indicator. -/
theorem filed_analyze (s : Snapshot) : s.analyze.findings.Filed := by
  intro i f h
  cases hi : i.isScoring with
  | true => exact (graded_of_get?_analyze hi h).1
  | false => exact (informs_of_get?_analyze hi h).indicator_eq

/-- `s.analyze` has findings on the four indicators that count, and on the two others iff there is a
market. -/
theorem indicators_analyze (s : Snapshot) : s.analyze.findings.indicators =
    Indicator.scoring ++
      if s.market.isSome then [.liquidity, .holderDistribution] else [] := by
  simp only [Findings.indicators, Findings.entries, get?_analyze, Indicator.all,
    List.filterMap_cons]
  cases h : s.market <;> simp [findingOn, h, Indicator.scoring]

/-- **The total penalty of `s.analyze` is the sum of the penalties of the four verdicts.** -/
theorem totalPenalty_analyze (s : Snapshot) : s.analyze.findings.totalPenalty =
    (Indicator.scoring.map fun i => (s.verdictPenalty i).toNat).sum := by
  have cost : ∀ i ∈ Indicator.scoring,
      ((s.analyze.findings.get? i).map fun f => f.penalty.toNat) =
        some (s.verdictPenalty i).toNat := by
    intro i hi
    have counts : i.isScoring = true := List.elem_eq_true_of_mem hi
    obtain ⟨f, found, -, penalty, -⟩ := s.exists_findingOn counts
    rw [get?_analyze, found, Option.map_some, penalty]
  rw [s.filed_analyze.totalPenalty_eq, List.filterMap_eq_map_iff_forall_eq_some.mpr cost]

/-- Snapshots with the same penalties of verdicts have the same score and the same label. -/
theorem score_congr {s t : Snapshot} (h : ∀ i, s.verdictPenalty i = t.verdictPenalty i) :
    s.analyze.score = t.analyze.score ∧ s.analyze.label = t.analyze.label := by
  have total : s.analyze.findings.totalPenalty = t.analyze.findings.totalPenalty := by
    rw [totalPenalty_analyze, totalPenalty_analyze]
    simp only [h]
  have score : s.analyze.score = t.analyze.score := by
    show scoreOfPenalty s.analyze.findings.totalPenalty = scoreOfPenalty _
    rw [total]
    rfl
  refine ⟨score, ?_⟩
  show RiskLabel.ofScore s.analyze.score = RiskLabel.ofScore t.analyze.score
  rw [score]

/-- The four verdicts cost at most `30`, `15`, `18` and `30`. -/
theorem toNat_verdictPenalty_le (s : Snapshot) :
    (s.verdictPenalty .verifiedSource).toNat ≤ 30 ∧ (s.verdictPenalty .proxy).toNat ≤ 15 ∧
      (s.verdictPenalty .ownerPrivileges).toNat ≤ 18 ∧
      (s.verdictPenalty .dangerousFunctions).toNat ≤ 30 :=
  ⟨(SourceVerdict.graded _).le_maxPenalty, (ProxyVerdict.graded _).le_maxPenalty,
    OwnerVerdict.penalty_le _, (DangerVerdict.graded _).le_maxPenalty⟩

/-- The total penalty is at most `93`, so the score is `100` less it. -/
theorem toNat_score_analyze (s : Snapshot) :
    s.analyze.findings.totalPenalty ≤ 93 ∧
      s.analyze.score.toNat = 100 - s.analyze.findings.totalPenalty := by
  have few : s.analyze.findings.totalPenalty ≤ 93 := by
    -- 30 + 15 + 18 + 30, since no verdict on an owner makes use of the last two points.
    obtain ⟨source, proxy, owner, danger⟩ := s.toNat_verdictPenalty_le
    rw [totalPenalty_analyze]
    simp only [Indicator.scoring, List.map_cons, List.map_nil, List.sum_cons, List.sum_nil]
    omega
  refine ⟨few, ?_⟩
  show (scoreOfPenalty s.analyze.findings.totalPenalty).toNat = _
  exact toNat_scoreOfPenalty _

/-- The penalties of two verdicts are no more than the total penalty. -/
theorem verdictPenalty_add_le (s : Snapshot) {i j : Indicator} (h : i ≠ j) :
    (s.verdictPenalty i).toNat + (s.verdictPenalty j).toNat ≤ s.analyze.findings.totalPenalty := by
  rw [totalPenalty_analyze]
  simp only [Indicator.scoring, List.map_cons, List.map_nil, List.sum_cons, List.sum_nil]
  have none₁ : (s.verdictPenalty .liquidity).toNat = 0 := rfl
  have none₂ : (s.verdictPenalty .holderDistribution).toNat = 0 := rfl
  cases i <;> cases j <;> first | exact absurd rfl h | omega

theorem verdictPenalty_le (s : Snapshot) (i : Indicator) :
    (s.verdictPenalty i).toNat ≤ s.analyze.findings.totalPenalty := by
  obtain ⟨j, hj⟩ : ∃ j, i ≠ j := by
    by_cases h : i = .liquidity
    · exact ⟨.proxy, by rw [h]; decide⟩
    · exact ⟨.liquidity, h⟩
  exact Nat.le_trans (Nat.le_add_right _ _) (s.verdictPenalty_add_le hj)

/-- A finding of `s.analyze` that fails is on an indicator that counts, and costs `30`. -/
theorem verdictPenalty_of_fail {s : Snapshot} {i : Indicator} {f : Finding}
    (h : s.analyze.findings.get? i = some f) (fails : f.status = .fail) :
    s.verdictPenalty i = 30 := by
  cases hi : i.isScoring with
  | false => exact absurd fails (informs_of_get?_analyze hi h).not_fail
  | true =>
    obtain ⟨-, penalty, graded⟩ := graded_of_get?_analyze hi h
    rw [← penalty]
    exact graded.fail_iff.mp fails

end Snapshot

/-! ### The account -/

/-- An assessment that is the exact account of the verdicts on a snapshot. -/
structure Assessment.Balanced (s : Snapshot) (a : Assessment) : Prop where
  /-- There is a finding on each indicator that counts, and on the others just when the market says
  something. -/
  indicators_eq : a.findings.indicators =
    Indicator.scoring ++ if s.market.isSome then [.liquidity, .holderDistribution] else []
  /-- Every finding stands under its own indicator. -/
  indicator_eq : ∀ i f, a.findings.get? i = some f → f.indicator = i
  /-- Every penalty is one that the indicator allows. -/
  penalty_le : ∀ i f, a.findings.get? i = some f → f.penalty ≤ i.maxPenalty
  /-- Every penalty is the one of the verdict, which the bound does not cut down. -/
  penalty_eq : ∀ i f, a.findings.get? i = some f → f.penalty = s.verdictPenalty i
  /-- If `i` counts for the score, the status is `Status.pass` iff the penalty is `0`. -/
  pass_iff : ∀ i f, i.isScoring = true → a.findings.get? i = some f →
    (f.status = .pass ↔ f.penalty = 0)
  /-- If `i` counts for the score, `Status.fail` has the penalty `30`. -/
  penalty_of_fail : ∀ i f, i.isScoring = true → a.findings.get? i = some f →
    f.status = .fail → f.penalty = 30
  /-- The score is `100` less the penalties of the four verdicts. -/
  score_eq : (a.score.toNat : Int) =
    100 - ((s.verdictPenalty .verifiedSource).toNat + (s.verdictPenalty .proxy).toNat +
      (s.verdictPenalty .ownerPrivileges).toNat + (s.verdictPenalty .dangerousFunctions).toNat)
  /-- The score is between `7` and `100`. -/
  score_mem : 7 ≤ a.score.toNat ∧ a.score.toNat ≤ 100
  /-- The label is `low` iff the score is `80` or more. -/
  label_low_iff : a.label = .low ↔ 80 ≤ a.score.toNat
  /-- The label is `medium` iff the score is `50` or more and below `80`. -/
  label_medium_iff : a.label = .medium ↔ 50 ≤ a.score.toNat ∧ a.score.toNat < 80
  /-- The label is `high` iff the score is below `50`. -/
  label_high_iff : a.label = .high ↔ a.score.toNat < 50
  /-- With a finding that fails, the label is not `low`. -/
  not_low_of_fail : ∀ i f, a.findings.get? i = some f → f.status = .fail → a.label ≠ .low
  /-- With two findings that fail, the label is `high`. -/
  high_of_fails : ∀ i j f g, i ≠ j → a.findings.get? i = some f → a.findings.get? j = some g →
    f.status = .fail → g.status = .fail → a.label = .high
  /-- If the label is `low` with a penalty of `18`, all other findings that count are passed. -/
  pass_of_low : ∀ i f, i.isScoring = true → a.findings.get? i = some f → f.penalty = 18 →
    a.label = .low → ∀ j g, j.isScoring = true → j ≠ i → a.findings.get? j = some g →
    g.status = .pass

/-- **The assessment of every snapshot is the exact account of its verdicts.** -/
theorem Snapshot.balanced_analyze (s : Snapshot) : s.analyze.Balanced s := by
  obtain ⟨few, score⟩ := s.toNat_score_analyze
  have total := s.totalPenalty_analyze
  simp only [Indicator.scoring, List.map_cons, List.map_nil, List.sum_cons, List.sum_nil] at total
  have low : s.analyze.label = .low ↔ 80 ≤ s.analyze.score.toNat := RiskLabel.ofScore_eq_low_iff
  have high : s.analyze.label = .high ↔ s.analyze.score.toNat < 50 := RiskLabel.ofScore_eq_high_iff
  constructor
  case indicators_eq => exact s.indicators_analyze
  case indicator_eq => exact s.filed_analyze
  case penalty_le =>
    intro i f h
    cases hi : i.isScoring with
    | true => exact (graded_of_get?_analyze hi h).2.2.le_maxPenalty
    | false =>
      rw [(informs_of_get?_analyze hi h).penalty_eq]
      exact UInt8.le_iff_toNat_le.mpr (Nat.zero_le _)
  case penalty_eq =>
    intro i f h
    cases hi : i.isScoring with
    | true => exact (graded_of_get?_analyze hi h).2.1
    | false =>
      rw [(informs_of_get?_analyze hi h).penalty_eq]
      cases i <;> first | rfl | exact absurd hi (by decide)
  case pass_iff => exact fun i f hi h => (graded_of_get?_analyze hi h).2.2.pass_iff
  case penalty_of_fail => exact fun i f hi h => (graded_of_get?_analyze hi h).2.2.fail_iff.mp
  case score_eq => omega
  case score_mem => omega
  case label_low_iff => exact low
  case label_medium_iff => exact RiskLabel.ofScore_eq_medium_iff
  case label_high_iff => exact high
  case not_low_of_fail =>
    intro i f h fails
    -- Thirty points are gone, and low risk leaves twenty at most.
    have thirty := s.verdictPenalty_le i
    rw [Snapshot.verdictPenalty_of_fail h fails, show (30 : UInt8).toNat = 30 from rfl] at thirty
    rw [Ne, low]
    omega
  case high_of_fails =>
    intro i j f g hij hf hg failsF failsG
    -- Sixty points are gone, and medium risk leaves fifty at most.
    have sixty := s.verdictPenalty_add_le hij
    rw [Snapshot.verdictPenalty_of_fail hf failsF, Snapshot.verdictPenalty_of_fail hg failsG,
      show (30 : UInt8).toNat = 30 from rfl] at sixty
    rw [high]
    omega
  case pass_of_low =>
    intro i f hi hf eighteen isLow j g hj hij hg
    obtain ⟨-, penaltyF, -⟩ := graded_of_get?_analyze hi hf
    obtain ⟨-, penaltyG, graded⟩ := graded_of_get?_analyze hj hg
    rw [low] at isLow
    -- Eighteen of the twenty points that low risk leaves are gone, and five is the least penalty.
    have both := s.verdictPenalty_add_le hij.symm
    rw [← penaltyF, eighteen, ← penaltyG, show (18 : UInt8).toNat = 18 from rfl] at both
    rw [graded.pass_iff]
    by_contra costs
    have five : 5 ≤ g.penalty.toNat := graded.five_le costs
    omega

end EvmRisk
