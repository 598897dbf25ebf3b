import EvmRisk.Proofs.Scoring.Danger
import EvmRisk.Proofs.Scoring.Keywords
import EvmRisk.Proofs.Scoring.Owner
import Mathlib.Data.List.Nodup

/-!
# What the evidence tells

The evidence of the findings about danger and about owners holds everything that was found,
whichever rule decided the verdict (`Snapshot.disclosed_evidence`). It has one item for each
signature of a table whose marker the code shows, in the order of the table, and the item has the
marker, the name, the tier and the description of the signature (`Signature.Recorded`). It has one
item for each place at which a word stands in the name of a function, with the name, the word and
what the word says (`KeywordHit.Recorded`).

The counts of the evidence are counts over these items (`Json.Value.countTier`), and the names in a
reason are the names in these items (`Json.Value.namesOfTier`). The verdict counts different
markers, and the evidence lists signatures; both agree because no two signatures of the tables have
the same marker (`Signature.nodup_markers`).
-/

namespace EvmRisk

open Signature (dangerousSelectors dangerousOpcodes ownerSelectors ofTier)

/-! ### Members of items -/

namespace Json.Value

/-- The text that an object has under `name`. -/
def text? (name : String) (v : Json.Value) : Option String :=
  match v.member? name with
  | some (.string s) => some s
  | _ => none

/-- The object `v` has `true` under `name`. -/
def isSet (name : String) (v : Json.Value) : Bool :=
  match v.member? name with
  | some (.bool b) => b
  | _ => false

/-- How many items have the text `tier` under `"tier"`. -/
def countTier (tier : String) (items : List Json.Value) : Nat :=
  items.countP fun item => item.text? "tier" = some tier

/-- The texts under `"name"` of the items that have the text `tier` under `"tier"`. -/
def namesOfTier (tier : String) (items : List Json.Value) : List String :=
  (items.filter fun item => item.text? "tier" = some tier).filterMap (text? "name")

end Json.Value

/-! ### Items for signatures -/

namespace Signature

/-- `item` records `e`: it has the digits of the marker behind `0x`, the name, the tier and the
description. -/
structure Recorded (e : Signature) (item : Json.Value) : Prop where
  marker : item.member? "marker" = some (.string (String.ofList ('0' :: 'x' :: e.marker.hex)))
  /-- The digits of the marker are read back as its bytes. -/
  bytes : Text.Hex.toBytes? e.marker.hex = some e.marker.bytes
  name : item.member? "name" = some (.string e.name)
  tier : item.member? "tier" =
    some (.string (match e.tier with | .high => "High" | .medium => "Medium"))
  description : item.member? "description" = some (.string e.description)

theorem recorded_evidence (e : Signature) : e.Recorded e.evidence where
  marker := rfl
  bytes := Text.Hex.toBytes?_ofBytes e.marker.bytes
  name := rfl
  tier := by
    obtain ⟨_, _, tier, _⟩ := e
    cases tier <;> rfl
  description := rfl

/-- `e.evidence` has the text of a tier just when `e` is of that tier. -/
theorem text?_tier_evidence_iff {e : Signature} {tier : Tier} :
    e.evidence.text? "tier" = some tier.text ↔ e.tier = tier := by
  obtain ⟨_, _, own, _⟩ := e
  have same : own.text = tier.text ↔ own = tier := by cases own <;> cases tier <;> decide
  exact Option.some_inj.trans same

theorem countTier_map_evidence (found : List Signature) (tier : Tier) :
    Json.Value.countTier tier.text (found.map evidence) = (ofTier tier found).length := by
  rw [Json.Value.countTier, List.countP_map, ofTier, ← List.countP_eq_length_filter]
  refine List.countP_congr fun e _ => ?_
  rw [Function.comp_apply, decide_eq_true_iff, decide_eq_true_iff, text?_tier_evidence_iff]

theorem namesOfTier_map_evidence (found : List Signature) (tier : Tier) :
    Json.Value.namesOfTier tier.text (found.map evidence) = (ofTier tier found).map name := by
  have kept : (found.map evidence).filter (fun item => item.text? "tier" = some tier.text) =
      (ofTier tier found).map evidence := by
    rw [List.filter_map, ofTier]
    refine congrArg (List.map evidence) (List.filter_congr fun e _ => ?_)
    rw [Function.comp_apply, decide_eq_decide, text?_tier_evidence_iff]
  have named : Json.Value.text? "name" ∘ evidence = some ∘ name := rfl
  rw [Json.Value.namesOfTier, kept, List.filterMap_map, named, List.filterMap_eq_map]

end Signature

/-- Different markers have different digits. -/
theorem Marker.hex_injective : Function.Injective Marker.hex := by
  intro m n same
  have bytes : m.bytes = n.bytes := by
    have read : Text.Hex.toBytes? m.hex = Text.Hex.toBytes? n.hex := congrArg _ same
    rw [Marker.hex, Marker.hex, Text.Hex.toBytes?_ofBytes, Text.Hex.toBytes?_ofBytes] at read
    exact Option.some.inj read
  cases m <;> cases n <;> simp_all [Marker.bytes]

/-- Items for different markers have different texts under `"marker"`. -/
theorem Signature.nodup_marker_evidence {found : List Signature}
    (distinct : (found.map Signature.marker).Nodup) :
    ((found.map evidence).map (Json.Value.member? "marker")).Nodup := by
  have spelled : (found.map evidence).map (Json.Value.member? "marker") =
      (found.map Signature.marker).map fun m =>
        some (.string (String.ofList ('0' :: 'x' :: m.hex))) := by
    rw [List.map_map, List.map_map]
    rfl
  rw [spelled]
  refine distinct.map fun m n same => Marker.hex_injective ?_
  have digits : '0' :: 'x' :: m.hex = '0' :: 'x' :: n.hex :=
    String.ofList_injective (Json.Value.string.inj (Option.some.inj same))
  exact (List.cons.inj (List.cons.inj digits).2).2

namespace Snapshot

/-- `items` record the signatures of `table` whose markers the code shows, one item for each of
them, in the order of the table. -/
def Itemizes (s : Snapshot) (table : List Signature) (items : List Json.Value) : Prop :=
  List.Forall₂ Signature.Recorded (table.filter fun e => s.Shows e.marker) items

theorem itemizes_detect (s : Snapshot) (table : List Signature) :
    s.Itemizes table ((Signature.detect s.bytecode table).map Signature.evidence) := by
  rw [Itemizes, detect_eq_filter, List.forall₂_map_right_iff, List.forall₂_same]
  exact fun e _ => e.recorded_evidence

end Snapshot

/-! ### Items for words in names -/

/-- `item` records a word in a name: it has both, and what the word says about a contract. -/
structure KeywordHit.Recorded (hit : KeywordHit) (item : Json.Value) : Prop where
  function : item.member? "function" = some (.string hit.function)
  keyword : item.member? "keyword" = some (.string hit.keyword)
  description : item.member? "description" = some (.string (Keyword.description hit.keyword))

/-- The item for a word of owners has a flag as well, which is set for `"blacklist"` only. -/
structure KeywordHit.Flagged (hit : KeywordHit) (item : Json.Value) : Prop
    extends hit.Recorded item where
  highRisk : item.member? "highRisk" = some (.bool (hit.keyword = "blacklist"))

theorem DangerSigns.recorded_hitEvidence (hit : KeywordHit) : hit.Recorded (hitEvidence hit) :=
  ⟨rfl, rfl, rfl⟩

theorem OwnerSigns.isGrave_eq (hit : KeywordHit) :
    isGrave hit = decide (hit.keyword = "blacklist") := by
  rw [Bool.eq_iff_iff, decide_eq_true_iff]
  simp [isGrave, Keyword.graveOwnerWords]

theorem OwnerSigns.flagged_hitEvidence (hit : KeywordHit) : hit.Flagged (hitEvidence hit) where
  function := rfl
  keyword := rfl
  description := rfl
  highRisk := by
    rw [← isGrave_eq]
    rfl

/-- `items` tell, in the way of `tells`, every word of `words` in the name of a function: one item
for each place in the names and each place in the words at which the word stands in the name, in the
order of these places. -/
def Snapshot.Catches (s : Snapshot) (tells : KeywordHit → Json.Value → Prop) (place : Place)
    (words : List String) (items : List Json.Value) : Prop :=
  ∃ places hits, Keyword.Enumerates place words s.functionNames places hits ∧
    List.Forall₂ tells hits items

theorem Snapshot.catches_hits (s : Snapshot) {tells : KeywordHit → Json.Value → Prop}
    {evidence : KeywordHit → Json.Value} (told : ∀ hit, tells hit (evidence hit)) (place : Place)
    (words : List String) :
    s.Catches tells place words ((Keyword.hits place words s.functionNames).map evidence) := by
  refine ⟨_, _, Keyword.enumerates_hits place words s.functionNames, ?_⟩
  rw [List.forall₂_map_right_iff, List.forall₂_same]
  exact fun hit _ => told hit

/-! ### Danger -/

open Json.Value (countTier namesOfTier)

/-- The evidence about danger has three lists of items, for the functions in the code, for the
instructions in it and for the words in names; its counts and the reason agree with the lists. -/
structure Snapshot.DangerDisclosed (s : Snapshot) (selectors opcodes hits : List Json.Value) :
    Prop where
  gives_selectors : (DangerVerdict.finding s).Gives "selectors" (.array selectors)
  gives_opcodes : (DangerVerdict.finding s).Gives "opcodes" (.array opcodes)
  gives_abiMatches : (DangerVerdict.finding s).Gives "abiMatches" (.array hits)
  itemizes_selectors : s.Itemizes dangerousSelectors selectors
  itemizes_opcodes : s.Itemizes dangerousOpcodes opcodes
  /-- No marker is listed twice. -/
  nodup : ((selectors ++ opcodes).map (Json.Value.member? "marker")).Nodup
  /-- A dangerous word counts at the start of a name. -/
  catches : s.Catches KeywordHit.Recorded .atStart Keyword.dangerWords hits
  /-- `"rule"` is the verdict. -/
  gives_rule : (DangerVerdict.finding s).Gives "rule"
    (.string (DangerVerdict.ofSigns (.ofSnapshot s)).text)
  /-- `"highCount"` is the number of items of the tier `"High"`. -/
  gives_highCount : (DangerVerdict.finding s).Gives "highCount"
    (.int (countTier "High" (selectors ++ opcodes)))
  /-- `"mediumCount"` is the number of items of the tier `"Medium"`. -/
  gives_mediumCount : (DangerVerdict.finding s).Gives "mediumCount"
    (.int (countTier "Medium" (selectors ++ opcodes)))
  /-- Every item has a name. -/
  named : ∀ tier : Tier, (namesOfTier tier.text (selectors ++ opcodes)).length =
    countTier tier.text (selectors ++ opcodes)
  /-- The reason of `singleHigh` names the only item of the tier `"High"`. -/
  singleHigh : DangerVerdict.ofSigns (.ofSnapshot s) = .singleHigh →
    ∃ name, namesOfTier "High" (selectors ++ opcodes) = [name] ∧
      countTier "High" (selectors ++ opcodes) = 1 ∧
      (DangerVerdict.finding s).reason = "High-risk capability: " ++ name
  /-- The reason of `multipleHigh` names all items of the tier `"High"`, which are two or more. -/
  multipleHigh : DangerVerdict.ofSigns (.ofSnapshot s) = .multipleHigh →
    2 ≤ countTier "High" (selectors ++ opcodes) ∧
      (DangerVerdict.finding s).reason = "Multiple high-risk capabilities: " ++
        String.intercalate ", " (namesOfTier "High" (selectors ++ opcodes))
  /-- The reason of `manyMedium` names all items of the tier `"Medium"`. -/
  manyMedium : DangerVerdict.ofSigns (.ofSnapshot s) = .manyMedium →
    (DangerVerdict.finding s).reason = "Several sensitive functions: " ++
      String.intercalate ", " (namesOfTier "Medium" (selectors ++ opcodes))
  /-- The reason of `someMedium` names all items of the tier `"Medium"`, too. -/
  someMedium : DangerVerdict.ofSigns (.ofSnapshot s) = .someMedium →
    (DangerVerdict.finding s).reason = "Sensitive functions: " ++
      String.intercalate ", " (namesOfTier "Medium" (selectors ++ opcodes))

namespace DangerSigns

/-- The items for what was found in the code. -/
def codeItems (d : DangerSigns) : List Json.Value :=
  d.selectors.map Signature.evidence ++ d.opcodes.map Signature.evidence

theorem codeItems_eq_map (d : DangerSigns) : d.codeItems = d.inCode.map Signature.evidence :=
  List.map_append.symm

/-- The items of a tier are as many as the different markers of that tier. -/
theorem countTier_codeItems (s : Snapshot) (tier : Tier) :
    countTier tier.text (ofSnapshot s).codeItems = (ofSnapshot s).count tier := by
  rw [codeItems_eq_map, Signature.countTier_map_evidence, count_eq_length]

/-- The names of the items of a tier are the ones that a reason gives. -/
theorem namesOfTier_codeItems (d : DangerSigns) (tier : Tier) :
    namesOfTier tier.text d.codeItems = (ofTier tier d.inCode).map Signature.name := by
  rw [codeItems_eq_map, Signature.namesOfTier_map_evidence]

theorem nodup_marker_codeItems (s : Snapshot) :
    ((ofSnapshot s).codeItems.map (Json.Value.member? "marker")).Nodup := by
  have sublist : (ofSnapshot s).inCode.Sublist (dangerousSelectors ++ dangerousOpcodes) := by
    rw [inCode_ofSnapshot]
    exact List.filter_sublist
  rw [codeItems_eq_map]
  exact Signature.nodup_marker_evidence
    (Signature.nodup_markers_of_sublist (sublist.trans Signature.dangers_sublist_all))

end DangerSigns

/-- `DangerVerdict.finding s` discloses its signs, whatever the verdict is. -/
theorem Snapshot.dangerDisclosed (s : Snapshot) : s.DangerDisclosed
    ((DangerSigns.ofSnapshot s).selectors.map Signature.evidence)
    ((DangerSigns.ofSnapshot s).opcodes.map Signature.evidence)
    ((DangerSigns.ofSnapshot s).keywords.map DangerSigns.hitEvidence) := by
  have count (tier : Tier) :
      countTier tier.text (DangerSigns.ofSnapshot s).codeItems =
        (DangerSigns.ofSnapshot s).count tier :=
    DangerSigns.countTier_codeItems s tier
  have names (tier : Tier) : (DangerSigns.ofSnapshot s).names tier =
      String.intercalate ", " (namesOfTier tier.text (DangerSigns.ofSnapshot s).codeItems) := by
    rw [DangerSigns.namesOfTier_codeItems, DangerSigns.names]
  have named (tier : Tier) : (namesOfTier tier.text (DangerSigns.ofSnapshot s).codeItems).length =
      countTier tier.text (DangerSigns.ofSnapshot s).codeItems := by
    rw [DangerSigns.namesOfTier_codeItems, List.length_map, count, DangerSigns.count_eq_length]
  have reason {v : DangerVerdict} {start : String} (tier : Tier)
      (told : v.reason (.ofSnapshot s) = start ++ (DangerSigns.ofSnapshot s).names tier)
      (verdict : DangerVerdict.ofSigns (.ofSnapshot s) = v) :
      (DangerVerdict.finding s).reason = start ++
        String.intercalate ", " (namesOfTier tier.text (DangerSigns.ofSnapshot s).codeItems) := by
    rw [DangerVerdict.reason_finding verdict, told, names]
  constructor
  case gives_selectors => rfl
  case gives_opcodes => rfl
  case gives_abiMatches => rfl
  case itemizes_selectors => exact s.itemizes_detect dangerousSelectors
  case itemizes_opcodes => exact s.itemizes_detect dangerousOpcodes
  case nodup => exact DangerSigns.nodup_marker_codeItems s
  case catches => exact s.catches_hits DangerSigns.recorded_hitEvidence .atStart Keyword.dangerWords
  case gives_rule => rfl
  case gives_highCount =>
    show _ = some (Json.Value.int (countTier Tier.high.text (DangerSigns.ofSnapshot s).codeItems))
    rw [count]
    rfl
  case gives_mediumCount =>
    show _ = some (Json.Value.int (countTier Tier.medium.text (DangerSigns.ofSnapshot s).codeItems))
    rw [count]
    rfl
  case named => exact named
  case singleHigh =>
    intro verdict
    have one : (DangerSigns.ofSnapshot s).count .high = 1 :=
      (DangerVerdict.ofSigns_eq_iff.mp verdict).2
    rw [← count] at one
    obtain ⟨name, only⟩ := List.length_eq_one_iff.mp ((named .high).trans one)
    refine ⟨name, only, one, (reason .high rfl verdict).trans ?_⟩
    rw [only]
    rfl
  case multipleHigh =>
    intro verdict
    have two : 2 ≤ (DangerSigns.ofSnapshot s).count .high :=
      (DangerVerdict.ofSigns_eq_iff.mp verdict).2
    rw [← count] at two
    exact ⟨two, reason .high rfl verdict⟩
  case manyMedium => exact reason .medium rfl
  case someMedium => exact reason .medium rfl

/-! ### Owners -/

/-- The evidence about an owner has two lists of items, for the controls in the code and for the
words in names; its count, the reason and the verdict agree with the lists. -/
structure Snapshot.OwnerDisclosed (s : Snapshot) (selectors hits : List Json.Value) : Prop where
  gives_selectors : (OwnerVerdict.finding s).Gives "selectors" (.array selectors)
  gives_abiMatches : (OwnerVerdict.finding s).Gives "abiMatches" (.array hits)
  itemizes_selectors : s.Itemizes ownerSelectors selectors
  /-- No marker is listed twice. -/
  nodup : (selectors.map (Json.Value.member? "marker")).Nodup
  /-- A word of owners counts anywhere in a name. -/
  catches : s.Catches KeywordHit.Flagged .anywhere Keyword.ownerWords hits
  /-- `"highRiskCount"` is the number of words that are flagged and of controls of the tier
  `"High"`. The reason of `highRisk` gives this number, and it is positive just for that verdict. -/
  highRiskCount : ∃ n, n = hits.countP (Json.Value.isSet "highRisk") + countTier "High" selectors ∧
    (OwnerVerdict.finding s).Gives "highRiskCount" (.int n) ∧
    (OwnerVerdict.ofSigns (.ofSnapshot s) = .highRisk →
      (OwnerVerdict.finding s).reason = "Owner can blacklist addresses (" ++ Nat.repr n ++
        " high-risk control" ++ (if n = 1 then "" else "s") ++ " detected)") ∧
    (0 < n ↔ OwnerVerdict.ofSigns (.ofSnapshot s) = .highRisk)

namespace OwnerSigns

/-- The items that are flagged are as many as the grave hits. -/
theorem countP_isSet_highRisk (hits : List KeywordHit) :
    (hits.map hitEvidence).countP (Json.Value.isSet "highRisk") = (hits.filter isGrave).length := by
  have flag : Json.Value.isSet "highRisk" ∘ hitEvidence = isGrave := rfl
  rw [List.countP_map, flag, List.countP_eq_length_filter]

theorem nodup_marker_selectors (s : Snapshot) :
    (((ofSnapshot s).selectors.map Signature.evidence).map
      (Json.Value.member? "marker")).Nodup := by
  have sublist : (ofSnapshot s).selectors.Sublist ownerSelectors := by
    rw [ofSnapshot, Snapshot.detect_eq_filter]
    exact List.filter_sublist
  exact Signature.nodup_marker_evidence
    (Signature.nodup_markers_of_sublist (sublist.trans Signature.ownerSelectors_sublist_all))

end OwnerSigns

/-- `OwnerVerdict.finding s` discloses its signs, whatever the verdict is. -/
theorem Snapshot.ownerDisclosed (s : Snapshot) : s.OwnerDisclosed
    ((OwnerSigns.ofSnapshot s).selectors.map Signature.evidence)
    ((OwnerSigns.ofSnapshot s).keywords.map OwnerSigns.hitEvidence) := by
  constructor
  case gives_selectors => rfl
  case gives_abiMatches => rfl
  case itemizes_selectors => exact s.itemizes_detect ownerSelectors
  case nodup => exact OwnerSigns.nodup_marker_selectors s
  case catches => exact s.catches_hits OwnerSigns.flagged_hitEvidence .anywhere Keyword.ownerWords
  case highRiskCount =>
    refine ⟨(OwnerSigns.ofSnapshot s).highRiskCount, ?_, rfl, OwnerVerdict.reason_finding, ?_⟩
    · have controls := Signature.countTier_map_evidence (OwnerSigns.ofSnapshot s).selectors .high
      rw [OwnerSigns.highRiskCount, OwnerSigns.countP_isSet_highRisk, ← controls]
      rfl
    · show (OwnerSigns.ofSnapshot s).Reaches .highRisk ↔ _
      exact OwnerVerdict.ofSigns_eq_iff.symm

/-- **The evidence holds everything that was found**, item by item and in the order in which it is
looked for, and the counts and the reasons agree with the items, whichever rule decided. -/
theorem Snapshot.disclosed_evidence (s : Snapshot) :
    (∃ selectors opcodes hits, s.DangerDisclosed selectors opcodes hits) ∧
      ∃ selectors hits, s.OwnerDisclosed selectors hits :=
  ⟨⟨_, _, _, s.dangerDisclosed⟩, _, _, s.ownerDisclosed⟩

/-- Code that mints, burns, keeps a blacklist and can end itself, with two names that tell of two
of these. -/
theorem Snapshot.disclosed_evidence_mint :
    let s : Snapshot :=
      { bytecode := some ⟨"6340c10f196342966c6863f9f92be4ff"⟩
        abi := some [.ofFunction "Mint", .ofFunction "addBlacklist"] }
    let item (description marker name tier : String) : Json.Value :=
      .object [("description", .string description), ("marker", .string marker),
        ("name", .string name), ("tier", .string tier)]
    let mint := item "Privileged minting to arbitrary addresses" "0x40c10f19"
      "mint(address,uint256)" "High"
    let burn := item "Tokens can be burned" "0x42966c68" "burn(uint256)" "Medium"
    let selfdestruct := item "Contract can self-destruct and forward its balance" "0xff"
      "SELFDESTRUCT" "High"
    let blacklist := item "Owner can blacklist addresses" "0xf9f92be4" "blacklist(address)" "High"
    ((DangerVerdict.finding s).Gives "selectors" (.array [mint, burn]) ∧
      (DangerVerdict.finding s).Gives "opcodes" (.array [selfdestruct]) ∧
      (DangerVerdict.finding s).Gives "abiMatches" (.array [.object [
        ("description", .string "Tokens can be minted"), ("function", .string "mint"),
        ("keyword", .string "mint")]]) ∧
      (DangerVerdict.finding s).Gives "highCount" (.int 2) ∧
      (DangerVerdict.finding s).Gives "mediumCount" (.int 1) ∧
      (DangerVerdict.finding s).reason =
        "Multiple high-risk capabilities: mint(address,uint256), SELFDESTRUCT") ∧
    (OwnerVerdict.finding s).Gives "selectors" (.array [blacklist]) ∧
      (OwnerVerdict.finding s).Gives "abiMatches" (.array [.object [
        ("description", .string "Owner can blacklist addresses"),
        ("function", .string "addblacklist"), ("highRisk", .bool true),
        ("keyword", .string "blacklist")]]) ∧
      (OwnerVerdict.finding s).Gives "highRiskCount" (.int 2) ∧
      (OwnerVerdict.finding s).reason =
        "Owner can blacklist addresses (2 high-risk controls detected)" := by
  intro s item mint burn selfdestruct blacklist
  obtain ⟨⟨selectors, opcodes, hits, danger⟩, controls, words, owner⟩ := s.disclosed_evidence
  have dangerous : (DangerVerdict.finding s).Gives "selectors" (.array [mint, burn]) := rfl
  have ending : (DangerVerdict.finding s).Gives "opcodes" (.array [selfdestruct]) := rfl
  have controlling : (OwnerVerdict.finding s).Gives "selectors" (.array [blacklist]) := rfl
  have named : (OwnerVerdict.finding s).Gives "abiMatches" (.array [.object [
      ("description", .string "Owner can blacklist addresses"),
      ("function", .string "addblacklist"), ("highRisk", .bool true),
      ("keyword", .string "blacklist")]]) := rfl
  -- Each finding gives one list only, so the counts are over these items.
  have only {f : Finding} {name : String} {listed items : List Json.Value}
      (gives : f.Gives name (.array listed)) (same : f.Gives name (.array items)) :
      listed = items := Json.Value.array.inj (Option.some.inj (gives.symm.trans same))
  obtain rfl := only danger.gives_selectors dangerous
  obtain rfl := only danger.gives_opcodes ending
  obtain rfl := only owner.gives_selectors controlling
  obtain rfl := only owner.gives_abiMatches named
  obtain ⟨n, counted, gives, reason, -⟩ := owner.highRiskCount
  obtain rfl : n = 2 := counted
  exact ⟨⟨dangerous, ending, rfl, danger.gives_highCount, danger.gives_mediumCount,
    (danger.multipleHigh rfl).2⟩, controlling, named, gives, reason rfl⟩

end EvmRisk
