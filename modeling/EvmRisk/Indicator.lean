import EvmRisk.Json.Record

/-!
# Indicators

The dimensions in which a contract is judged. Four of them count for the score, each up to a
maximal penalty; the other two tell about the market and only inform. Each has a fixed description
(`Indicator.profile`), and `Indicator.all` is the order in which they are reported.
-/

namespace EvmRisk

/-- A dimension of risk. -/
inductive Indicator where
  /-- Whether anybody can read the source. -/
  | verifiedSource
  /-- Whether the code can be replaced. -/
  | proxy
  /-- What the owner can do to the holders. -/
  | ownerPrivileges
  /-- What calls can do to the value. -/
  | dangerousFunctions
  /-- How deep the pool is. -/
  | liquidity
  /-- How the holdings are spread. -/
  | holderDistribution
  deriving DecidableEq, Repr

/-- What is always said about an indicator. -/
structure IndicatorProfile where
  title : String
  category : String
  explanation : String
  goodMessage : String
  /-- The most that it can take off the score. -/
  maxPenalty : UInt8

namespace Indicator

/-- All indicators in their order. -/
def all : List Indicator :=
  [verifiedSource, proxy, ownerPrivileges, dangerousFunctions, liquidity, holderDistribution]

/-- The indicators that count for the score. -/
def scoring : List Indicator := [verifiedSource, proxy, ownerPrivileges, dangerousFunctions]

/-- Whether an indicator counts for the score. -/
def isScoring (i : Indicator) : Bool := scoring.contains i

/-- The name of an indicator in documents. -/
def key : Indicator → String
  | verifiedSource => "verifiedSource"
  | proxy => "proxy"
  | ownerPrivileges => "ownerPrivileges"
  | dangerousFunctions => "dangerousFunctions"
  | liquidity => "liquidity"
  | holderDistribution => "holderDistribution"

/-- The description of an indicator. -/
def profile : Indicator → IndicatorProfile
  | verifiedSource =>
    { title := "Verified source"
      category := "Transparency"
      explanation := "Verified source code lets anyone audit what the contract actually does."
      goodMessage := "Source code is verified"
      maxPenalty := 30 }
  | proxy =>
    { title := "Proxy / upgradeability"
      category := "Upgradeability"
      explanation := "Upgradeable proxies let an admin replace the logic after deployment."
      goodMessage := "Not an upgradeable proxy"
      maxPenalty := 15 }
  | ownerPrivileges =>
    { title := "Owner privileges"
      category := "Centralization"
      explanation :=
        "Owner-only switches such as fees, limits, pausing or blacklists can restrict holders."
      goodMessage := "No privileged owner controls detected"
      maxPenalty := 20 }
  | dangerousFunctions =>
    { title := "Dangerous functions"
      category := "Code risk"
      explanation :=
        "Minting, withdrawals, self-destruct and delegatecall can move or inflate value."
      goodMessage := "No dangerous functions detected"
      maxPenalty := 30 }
  | liquidity =>
    { title := "Liquidity"
      category := "Market"
      explanation :=
        "Thin liquidity makes exits expensive and pools easy to drain. Informational only."
      goodMessage := "Liquidity is deep"
      maxPenalty := 0 }
  | holderDistribution =>
    { title := "Holder distribution"
      category := "Market"
      explanation :=
        "Concentrated holdings let a few wallets move the price. Informational only."
      goodMessage := "Holdings are well distributed"
      maxPenalty := 0 }

/-- The most that an indicator can take off the score. -/
def maxPenalty (i : Indicator) : UInt8 := i.profile.maxPenalty

/-- The indicator with a name. -/
def ofKey? (name : String) : Option Indicator := all.find? fun i => i.key == name

/-- The indicator that a document names. -/
def ofNode? (n : Json.Node) : Option Indicator := n.toTag?.bind ofKey?

/-- The description of an indicator as a value. -/
def profileValue (i : Indicator) : Json.Value :=
  .object [
    ("key", .string i.key),
    ("title", .string i.profile.title),
    ("category", .string i.profile.category),
    ("explanation", .string i.profile.explanation),
    ("goodMessage", .string i.profile.goodMessage),
    ("maxPenalty", .ofNat i.maxPenalty.toNat)]

/-- Every indicator is listed. -/
theorem mem_all (i : Indicator) : i ∈ all := by cases i <;> decide

/-- **An indicator is found by its name.** -/
theorem ofKey?_key (i : Indicator) : ofKey? i.key = some i := by cases i <;> rfl

end Indicator

end EvmRisk
