import EvmRisk.Text.Basic

/-!
# Keywords in names

Words that give a function away by its name. A word counts anywhere in a name or at its start only,
as the `Place` says, and every word that a name has counts by itself. `Keyword.hits` lists the
pairs of a name and a word of it, name after name (`mem_hits_iff`).
-/

namespace EvmRisk

/-- Where a word must stand in a name. -/
inductive Place where
  | anywhere
  | atStart
  deriving DecidableEq, Repr

/-- Whether a word stands in a name at such a place. -/
def Place.finds : Place → (word name : String) → Bool
  | .anywhere, word, name => Text.occursIn word.toList name.toList
  | .atStart, word, name => Text.startsWith word.toList name.toList

/-- A name and a word that was found in it. -/
structure KeywordHit where
  function : String
  keyword : String
  deriving DecidableEq, Repr

namespace Keyword

/-- The words of a list in each of the names. -/
def hits (place : Place) (words names : List String) : List KeywordHit :=
  names.flatMap fun name =>
    (words.filter fun word => place.finds word name).map fun word => ⟨name, word⟩

/-- The words for what owners can do. -/
def ownerWords : List String :=
  ["settax", "setfee", "setmax", "setlimit", "pause", "unpause", "blacklist", "whitelist"]

/-- The words of owners that are grave. -/
def graveOwnerWords : List String := ["blacklist"]

/-- The words for what is dangerous. -/
def dangerWords : List String :=
  ["mint", "burn", "withdraw", "emergencywithdraw", "rug", "swapandliquify", "delegatecall"]

/-- What a word says about a contract. -/
def description (word : String) : String :=
  match word with
  | "settax" => "Owner can change transfer taxes"
  | "setfee" => "Owner can change fees"
  | "setmax" => "Owner can change maximum amounts"
  | "setlimit" => "Owner can change trading limits"
  | "pause" => "Owner can pause transfers"
  | "unpause" => "Owner can pause transfers"
  | "blacklist" => "Owner can blacklist addresses"
  | "whitelist" => "Owner controls a whitelist"
  | "mint" => "Tokens can be minted"
  | "burn" => "Tokens can be burned"
  | "withdraw" => "Funds can be withdrawn"
  | "emergencywithdraw" => "Funds can be pulled out in an emergency path"
  | "rug" => "Function name suggests a rug pull"
  | "swapandliquify" => "Automatic swap-and-liquify logic"
  | "delegatecall" => "Explicit delegatecall entry point"
  | _ => "Matches a risky function name"

/-- **A pair is a hit just when the word is in the list, the name too, and the one in the
other.** -/
theorem mem_hits_iff {place : Place} {words names : List String} {hit : KeywordHit} :
    hit ∈ hits place words names ↔
      hit.function ∈ names ∧ hit.keyword ∈ words ∧ place.finds hit.keyword hit.function = true := by
  constructor
  · intro h
    obtain ⟨name, hname, h⟩ := List.mem_flatMap.mp h
    obtain ⟨word, hword, rfl⟩ := List.mem_map.mp h
    exact ⟨hname, List.mem_filter.mp hword⟩
  · rintro ⟨hname, hword, h⟩
    exact List.mem_flatMap.mpr
      ⟨_, hname, List.mem_map.mpr ⟨_, List.mem_filter.mpr ⟨hword, h⟩, rfl⟩⟩

end Keyword

end EvmRisk
