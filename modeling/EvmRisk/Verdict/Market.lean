import EvmRisk.Decimal
import EvmRisk.Finding
import EvmRisk.Snapshot

/-!
# What does the market say?

Two findings that inform and never count: how deep the pool of a token is, and how its holdings are
spread. What the market does not say is inconclusive.
-/

namespace EvmRisk.Market

/-- Below this many dollars a pool is shallow. -/
def shallowUsd : Float := 1000

/-- Above this many dollars a pool is deep. -/
def deepUsd : Float := 100000

/-- Below this number holders are few. -/
def fewHolders : Nat := 50

/-- Above this share, in per cent, the ten largest holders have too much. -/
def largeShare : Float := 50

/-- A sum of dollars, without cents. -/
def dollars (x : Float) : String := "$" ++ String.ofList (Decimal.fixed 0 x)

/-- What is found out about the pool. -/
def liquidityFinding (m : Option Market) : Finding :=
  match m.bind liquidityUsd with
  | none =>
    .make .liquidity .warn "Liquidity inconclusive: no pool data available" 0
      (.object [("liquidityUsd", .null)])
  | some usd =>
    let evidence : Json.Value :=
      .object [
        ("highThresholdUsd", .ofFloat deepUsd),
        ("liquidityUsd", .ofFloat usd),
        ("lowThresholdUsd", .ofFloat shallowUsd)]
    if usd < shallowUsd then
      .make .liquidity .warn ("Very low liquidity: " ++ dollars usd) 0 evidence
    else if deepUsd < usd then
      .make .liquidity .pass ("Deep liquidity: " ++ dollars usd) 0 evidence
    else .make .liquidity .warn ("Moderate liquidity: " ++ dollars usd) 0 evidence

/-- What is found out about the holdings. -/
def holdersFinding (m : Option Market) : Finding :=
  let holders := m.bind holderCount
  let share := m.bind top10HolderPercent
  let evidence : Json.Value :=
    .object [("holderCount", countValue holders), ("top10HolderPercent", floatValue share)]
  if holders.isNone && share.isNone then
    .make .holderDistribution .warn "Holder distribution inconclusive: no holder data" 0 evidence
  else
    match share.filter (fun p => largeShare < p), holders.filter (fun n => n < fewHolders) with
    | some p, _ =>
      .make .holderDistribution .warn
        ("Top 10 holders own " ++ String.ofList (Decimal.fixed 1 p) ++ "% of supply") 0 evidence
    | none, some n =>
      .make .holderDistribution .warn ("Only " ++ Nat.repr n ++ " holders") 0 evidence
    | none, none =>
      .make .holderDistribution .pass "Holdings are spread across many wallets" 0 evidence

end EvmRisk.Market
