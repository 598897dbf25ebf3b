import EvmRisk.Proofs.Scoring.Account

/-!
# The market informs and no more

What the market says about a token adds two findings to an assessment and leaves everything else as
it was (`Assessment.Informed`): the two come last, take nothing off the score, and stand in every
list and in the summary after what was there before. `Snapshot.informed_analyze` says so of every
snapshot and every market, whatever its numbers are.
-/

namespace EvmRisk

/-! ### The two findings -/

/-- The two findings about the market alone. -/
def Market.findings (m : Market) : List Finding :=
  [liquidityFinding (some m), holdersFinding (some m)]

/-- A finding that only informs has `Status.pass` or `Status.warn`. -/
theorem Informs.pass_or_warn {i : Indicator} {f : Finding} (h : Informs i f) :
    f.status = .pass ∨ f.status = .warn := by
  cases status : f.status with
  | pass => exact Or.inl rfl
  | warn => exact Or.inr rfl
  | fail => exact absurd status h.not_fail

/-- The line of a finding that only informs, with a word in the place of a penalty. -/
def Assessment.infoLine (f : Finding) : String :=
  "   " ++ f.status.emoji ++ " " ++ Text.padRight 20 f.indicator.profile.title ++ "  info  " ++
    f.reason

/-- The line of a finding that only informs is its `infoLine`. -/
theorem Assessment.line_of_informs {i : Indicator} {f : Finding} (h : Informs i f)
    (hi : i.isScoring = false) : line f = infoLine f := by
  have penalty : Text.padLeft 5 (penaltyText f) = " info" := by
    rw [penaltyText, h.indicator_eq, hi, if_neg Bool.false_ne_true]
    decide
  have column : " " ++ (" info" ++ ("  " ++ f.reason)) = "  info  " ++ f.reason := by
    rw [← String.append_assoc, ← String.append_assoc]
    rfl
  rw [line, penalty, infoLine]
  simp only [String.append_assoc, column]

/-! ### Assessments with more findings -/

namespace Findings

/-- The entries under indicators that count come in front of the two others. -/
theorem entries_eq_append (fs : Findings) :
    fs.entries = (Indicator.scoring.filterMap fun i => (fs.get? i).map (i, ·)) ++
      [Indicator.liquidity, .holderDistribution].filterMap fun i => (fs.get? i).map (i, ·) := by
  rw [← List.filterMap_append]
  rfl

end Findings

/-- The assessment `informed` is `plain` with the two findings about the market `m` added. -/
structure Assessment.Informed (m : Market) (plain informed : Assessment) : Prop where
  /-- Without a market there are the findings that count and no others. -/
  indicators_eq : plain.findings.indicators = Indicator.scoring
  /-- With it there are two more, after those that were there before, and each of these is the
  same down to its evidence. -/
  entries_eq : informed.findings.entries = plain.findings.entries ++
    [(.liquidity, Market.liquidityFinding (some m)),
      (.holderDistribution, Market.holdersFinding (some m))]
  /-- The two are about the pool and about the holdings, and both have the penalty `0`. -/
  informs : Informs .liquidity (Market.liquidityFinding (some m)) ∧
    Informs .holderDistribution (Market.holdersFinding (some m))
  /-- Each of them has `Status.pass` or `Status.warn`. -/
  pass_or_warn : ∀ f ∈ m.findings, f.status = .pass ∨ f.status = .warn
  score_eq : informed.score = plain.score
  label_eq : informed.label = plain.label
  /-- `concerns` goes on with the reasons of those with `Status.warn`. -/
  concerns_eq : informed.concerns =
    plain.concerns ++ (m.findings.filter fun f => f.status = .warn).map Finding.reason
  /-- `merits` goes on with the good messages of those with `Status.pass`. -/
  merits_eq : informed.merits = plain.merits ++
    (m.findings.filter fun f => f.status = .pass).map fun f => f.indicator.profile.goodMessage
  /-- `summary` goes on with a line for each. -/
  summary_eq : informed.summary = plain.summary ++
    "\n" ++ infoLine (Market.liquidityFinding (some m)) ++
    "\n" ++ infoLine (Market.holdersFinding (some m))

namespace Snapshot

theorem entries_analyze (s : Snapshot) : s.analyze.findings.entries =
    (Indicator.scoring.filterMap fun i => (s.findingOn i).map (i, ·)) ++
      [Indicator.liquidity, .holderDistribution].filterMap fun i => (s.findingOn i).map (i, ·) := by
  rw [Findings.entries_eq_append]
  simp only [get?_analyze]

variable {s : Snapshot}

/-- A market adds two entries behind those that were there. -/
theorem entries_withMarket (h : s.market = none) (m : Market) :
    { s with market := some m }.analyze.findings.entries = s.analyze.findings.entries ++
      [(.liquidity, Market.liquidityFinding (some m)),
        (.holderDistribution, Market.holdersFinding (some m))] := by
  -- The findings that count do not read the market.
  have scoring : (Indicator.scoring.filterMap fun i =>
      ({ s with market := some m }.findingOn i).map (i, ·)) =
        Indicator.scoring.filterMap fun i => (s.findingOn i).map (i, ·) := rfl
  have without : ([Indicator.liquidity, .holderDistribution].filterMap fun i =>
      (s.findingOn i).map (i, ·)) = [] := by
    simp [findingOn, h]
  rw [entries_analyze, scoring, entries_analyze, without, List.append_nil]
  rfl

/-- A market adds two findings behind those that were there. -/
theorem toList_withMarket (h : s.market = none) (m : Market) :
    { s with market := some m }.analyze.findings.toList =
      s.analyze.findings.toList ++ m.findings := by
  unfold Findings.toList
  rw [entries_withMarket h, List.map_append]
  rfl

/-- Score and label do not depend on the market. -/
theorem score_withMarket (s : Snapshot) (market : Option Market) :
    { s with market }.analyze.score = s.analyze.score ∧
      { s with market }.analyze.label = s.analyze.label := by
  refine score_congr fun i => ?_
  cases i <;> rfl

/-- **A market adds its two findings to an assessment and changes nothing else in it**, whatever the
market says. -/
theorem informed_analyze (h : s.market = none) (m : Market) :
    Assessment.Informed m s.analyze { s with market := some m }.analyze := by
  have liquidity := Market.informs_liquidityFinding (some m)
  have holders := Market.informs_holdersFinding (some m)
  have informing : ∀ f ∈ m.findings, f.status = .pass ∨ f.status = .warn :=
    List.forall_mem_cons.mpr ⟨liquidity.pass_or_warn,
      List.forall_mem_singleton.mpr holders.pass_or_warn⟩
  have listed := toList_withMarket h m
  obtain ⟨score, label⟩ := s.score_withMarket (some m)
  constructor
  case indicators_eq =>
    rw [indicators_analyze, h]
    exact List.append_nil _
  case entries_eq => exact entries_withMarket h m
  case informs => exact ⟨liquidity, holders⟩
  case pass_or_warn => exact informing
  case score_eq => exact score
  case label_eq => exact label
  case concerns_eq =>
    have warning : m.findings.filter (fun f => !f.isPass) =
        m.findings.filter fun f => f.status = .warn := by
      refine List.filter_congr fun f hf => ?_
      rcases informing f hf with pass | warn
      · simp [Finding.isPass, pass]
      · simp [Finding.isPass, warn]
    rw [Assessment.concerns, listed, List.filter_append, List.map_append, warning]
    rfl
  case merits_eq =>
    rw [Assessment.merits, listed, List.filter_append, List.map_append]
    rfl
  case summary_eq =>
    have heading : { s with market := some m }.analyze.heading = s.analyze.heading := by
      rw [Assessment.heading, score, label, Assessment.heading]
    have lines : m.findings.map Assessment.line =
        [Assessment.infoLine (Market.liquidityFinding (some m)),
          Assessment.infoLine (Market.holdersFinding (some m))] := by
      rw [Market.findings, List.map_cons, List.map_cons, List.map_nil,
        Assessment.line_of_informs liquidity rfl, Assessment.line_of_informs holders rfl]
    rw [Assessment.summary, heading, listed, List.map_append, lines, ← List.cons_append,
      String.intercalate_append_of_ne_nil (by simp) (by simp), String.intercalate_cons_cons,
      String.intercalate_singleton, Assessment.summary]
    simp only [String.append_assoc]

/-- A market whose pool is no number and whose largest holders have more than everything. -/
theorem informed_analyze_notANumber :
    let s : Snapshot := .ofParts (some "0x40c10f19ff") (some [.ofFunction "setFee"]) none
    let m : Market := ⟨some (0.0 / 0.0), some 3, some (1.0 / 0.0)⟩
    s.market = none ∧ Assessment.Informed m s.analyze { s with market := some m }.analyze :=
  ⟨rfl, informed_analyze rfl _⟩

end Snapshot

end EvmRisk
