import EvmRisk.Proofs.Scoring.Owner
import Mathlib.Data.List.Induction
import Mathlib.Data.List.Nodup

/-!
# The names in the reason about an owner

Every sign of an owner has a name, that of the function in the interface or that of the control in
the code, and names come again: a function whose name has two words in it is two signs. The reason
lists each name once, at the place of its first sign (`OwnerSigns.FirstNames`), and this settles the
list (`OwnerSigns.FirstNames.unique`).

The list is made by going through the signs and adding each name that is not there yet
(`OwnerSigns.detectedNames_eq_foldl`). After every sign it holds the first names of the signs so far
(`OwnerSigns.FirstNames.noted`), so that it does after all of them.
-/

namespace EvmRisk

namespace OwnerSigns

/-- The name of each sign, those from the interface first. -/
def signNames (o : OwnerSigns) : List String :=
  o.keywords.map KeywordHit.function ++ o.selectors.map Signature.name

/-- The names with one more behind them, unless it is one of them. -/
def note (names : List String) (name : String) : List String :=
  if name ∈ names then names else names ++ [name]

/-- `names` are the members of `all`, each of them once, in the order in which they first come. -/
structure FirstNames (all names : List String) : Prop where
  nodup : names.Nodup
  mem_iff : ∀ name, name ∈ names ↔ name ∈ all
  /-- Of two names the one that is there first comes first. -/
  ordered : names.Pairwise fun a b => all.idxOf a < all.idxOf b

namespace FirstNames

variable {all names : List String}

theorem nil : FirstNames [] [] := ⟨.nil, fun _ => Iff.rfl, .nil⟩

/-- A longer list has its names at the same first places. -/
theorem ordered_append (h : FirstNames all names) (more : List String) :
    names.Pairwise fun a b => (all ++ more).idxOf a < (all ++ more).idxOf b := by
  refine h.ordered.imp_of_mem fun {a b} ha hb first => ?_
  rw [List.idxOf_append_of_mem ((h.mem_iff a).mp ha),
    List.idxOf_append_of_mem ((h.mem_iff b).mp hb)]
  exact first

/-- A name that is in the list already is not listed again. -/
theorem known {name : String} (h : FirstNames all names) (mem : name ∈ names) :
    FirstNames (all ++ [name]) names := by
  refine ⟨h.nodup, fun other => ?_, h.ordered_append [name]⟩
  rw [List.mem_append, List.mem_singleton, ← h.mem_iff]
  exact ⟨Or.inl, fun listed => listed.elim id fun same => same ▸ mem⟩

/-- A new name is listed behind the others. -/
theorem new {name : String} (h : FirstNames all names) (missing : name ∉ names) :
    FirstNames (all ++ [name]) (names ++ [name]) := by
  have unseen : name ∉ all := mt (h.mem_iff name).mpr missing
  have place : (all ++ [name]).idxOf name = all.length := by
    rw [List.idxOf_append_of_notMem unseen, List.idxOf_cons_self, Nat.add_zero]
  constructor
  case nodup =>
    rw [← List.concat_eq_append]
    exact List.Nodup.concat missing h.nodup
  case mem_iff =>
    intro other
    rw [List.mem_append, List.mem_append, h.mem_iff]
  case ordered =>
    refine List.pairwise_append.mpr
      ⟨h.ordered_append [name], List.pairwise_singleton _ _, fun a ha b hb => ?_⟩
    have before : a ∈ all := (h.mem_iff a).mp ha
    rw [List.mem_singleton.mp hb, place, List.idxOf_append_of_mem before]
    exact List.idxOf_lt_length_of_mem before

/-- **`note` keeps `FirstNames`**: one more name in the one list is noted in the other. -/
theorem noted (h : FirstNames all names) (name : String) :
    FirstNames (all ++ [name]) (note names name) := by
  rw [note]
  split
  case isTrue mem => exact h.known mem
  case isFalse missing => exact h.new missing

/-- Noting the names `more` one after the other keeps `FirstNames`. -/
theorem foldl (h : FirstNames all names) (more : List String) :
    FirstNames (all ++ more) (more.foldl note names) := by
  induction more generalizing all names with
  | nil =>
    rw [List.append_nil]
    exact h
  | cons name more ih =>
    have next := ih (h.noted name)
    rwa [List.append_assoc] at next

/-- Two lists of the first names of the same list are equal. -/
theorem unique {names' : List String} (h : FirstNames all names) (h' : FirstNames all names') :
    names = names' := by
  have same : names.Perm names' := (List.perm_ext_iff_of_nodup h.nodup h'.nodup).mpr fun name =>
    (h.mem_iff name).trans (h'.mem_iff name).symm
  refine same.eq_of_pairwise (fun a b _ _ first second => ?_) h.ordered h'.ordered
  exact absurd first (Nat.lt_asymm second)

end FirstNames

/-! ### The list of a reason -/

/-- `eraseDups` notes the last name after the others. -/
theorem eraseDups_concat (all : List String) (name : String) :
    (all ++ [name]).eraseDups = note all.eraseDups name := by
  rw [List.eraseDups_append, note]
  by_cases known : name ∈ all
  · simp [List.removeAll, known]
  · simp [List.removeAll, known, List.eraseDups_cons]

/-- `o.detectedNames` notes the names of the signs one after the other. -/
theorem detectedNames_eq_foldl (o : OwnerSigns) :
    o.detectedNames = o.signNames.foldl note [] := by
  rw [detectedNames, ← signNames]
  induction o.signNames using List.reverseRecOn with
  | nil => rfl
  | append_singleton all name ih => rw [eraseDups_concat, List.foldl_concat, ih]

theorem firstNames_detectedNames (o : OwnerSigns) : FirstNames o.signNames o.detectedNames := by
  rw [detectedNames_eq_foldl]
  exact FirstNames.nil.foldl o.signNames

variable {o : OwnerSigns}

theorem mem_signNames_iff {name : String} : name ∈ o.signNames ↔
    (∃ hit ∈ o.keywords, hit.function = name) ∨ ∃ e ∈ o.selectors, e.name = name := by
  rw [signNames, List.mem_append, List.mem_map, List.mem_map]

theorem length_signNames : o.signNames.length = o.totalCount := by
  rw [signNames, List.length_append, List.length_map, List.length_map, totalCount]

theorem detectedNames_ne_nil_iff : o.detectedNames ≠ [] ↔ 0 < o.totalCount := by
  refine ⟨fun some => ?_, detectedNames_ne_nil⟩
  obtain ⟨name, mem⟩ := List.exists_mem_of_ne_nil _ some
  rw [← length_signNames]
  exact List.length_pos_of_mem ((o.firstNames_detectedNames.mem_iff name).mp mem)

/-- **The reason lists the first names of the signs**, which are the names of all functions and
controls that were found. There is one at least where there is a sign, and a function has one place
in the list however many words its name has. -/
theorem eq_detectedNames_iff (o : OwnerSigns) :
    (∀ names, names = o.detectedNames ↔ FirstNames o.signNames names) ∧
    (∀ name, name ∈ o.detectedNames ↔
      (∃ hit ∈ o.keywords, hit.function = name) ∨ ∃ e ∈ o.selectors, e.name = name) ∧
    (o.detectedNames ≠ [] ↔ 0 < o.totalCount) ∧
    ∀ hit ∈ o.keywords, o.detectedNames.count hit.function = 1 := by
  have first : FirstNames o.signNames o.detectedNames := o.firstNames_detectedNames
  refine ⟨fun names => ?_, fun name => ?_, detectedNames_ne_nil_iff, fun hit mem => ?_⟩
  · exact ⟨fun same => same ▸ first, fun listed => listed.unique first⟩
  · rw [first.mem_iff, mem_signNames_iff]
  · have listed : hit.function ∈ o.detectedNames :=
      (first.mem_iff _).mpr (mem_signNames_iff.mpr (Or.inl ⟨hit, mem, rfl⟩))
    exact List.count_eq_one_of_mem first.nodup listed

/-- A function with two words in its name, and a control that is there twice. -/
theorem eq_detectedNames_iff_unpause :
    let pause := Signature.ofFunction 0x84 0x56 0xcb 0x59 .medium "pause()" "Owner can pause transfers"
    let o : OwnerSigns := {
      keywords := Keyword.hits .anywhere Keyword.ownerWords ["unpause", "mint", "setfee", "unpause"]
      selectors := [pause, pause]
      hasAbi := true
      hasBytecode := true }
    (⟨"unpause", "pause"⟩ : KeywordHit) ∈ o.keywords ∧
      (⟨"unpause", "unpause"⟩ : KeywordHit) ∈ o.keywords ∧
      o.detectedNames = ["unpause", "setfee", "pause()"] ∧
      o.detectedNames.count "unpause" = 1 := by
  intro pause o
  have pauses : (⟨"unpause", "pause"⟩ : KeywordHit) ∈ o.keywords := by decide
  obtain ⟨-, -, -, once⟩ := eq_detectedNames_iff o
  exact ⟨pauses, by decide, by decide, once _ pauses⟩

end OwnerSigns

end EvmRisk
