import EvmRisk.Proofs.Scoring.Signs

/-!
# What the owner may do

The ladder of owners, by what stands in the code and in the names of the functions
(`OwnerVerdict.weighs_iff_controlled`). A blacklist is found wherever there is one
(`OwnerSigns.highRiskCount_pos_iff`): every word of a name is looked for, so that another word in
the same name does not hide it, and names and code are looked at both, so that neither hides what
the other shows. Where the reason lists names, it lists all that were found and one at least
(`OwnerVerdict.exists_reason_of_mediumRisk`).
-/

namespace EvmRisk

open Signature (ownerSelectors ofTier)

namespace Snapshot

/-- A function has `blacklist` in its name, or the code has a control of the tier `high`. -/
def Blacklists (s : Snapshot) : Prop :=
  s.HasName ("blacklist".toList <:+: ·) ∨ ∃ e ∈ ownerSelectors, e.tier = .high ∧ s.Shows e.marker

/-- A function has a word of `Keyword.ownerWords` in its name, or the code has a control. -/
def Controlled (s : Snapshot) : Prop :=
  (∃ word ∈ Keyword.ownerWords, s.HasName (word.toList <:+: ·)) ∨
    ∃ e ∈ ownerSelectors, s.Shows e.marker

/-- `name` is that of a function with a word of `Keyword.ownerWords` in it, or of a control in the
code. -/
def NamesControl (s : Snapshot) (name : String) : Prop :=
  (name ∈ s.functionNames ∧ ∃ word ∈ Keyword.ownerWords, word.toList <:+: name.toList) ∨
    ∃ e ∈ ownerSelectors, s.Shows e.marker ∧ e.name = name

/-- `s.Blacklists` implies `s.Controlled`. -/
theorem Blacklists.controlled {s : Snapshot} (h : s.Blacklists) : s.Controlled := by
  have listed : "blacklist" ∈ Keyword.ownerWords := by decide
  rcases h with named | ⟨e, mem, -, shown⟩
  · exact Or.inl ⟨_, listed, named⟩
  · exact Or.inr ⟨e, mem, shown⟩

end Snapshot

namespace OwnerSigns

variable {s : Snapshot}

/-- The keywords of the signs are the pairs of a function name and a word of `Keyword.ownerWords`
that is an infix of it. -/
theorem mem_keywords_iff {hit : KeywordHit} : hit ∈ (ofSnapshot s).keywords ↔
    hit.function ∈ s.functionNames ∧ hit.keyword ∈ Keyword.ownerWords ∧
      hit.keyword.toList <:+: hit.function.toList := by
  rw [ofSnapshot, Keyword.mem_hits_iff, Place.finds_anywhere_iff]

theorem mem_selectors_iff {e : Signature} :
    e ∈ (ofSnapshot s).selectors ↔ e ∈ ownerSelectors ∧ s.Shows e.marker :=
  Snapshot.mem_detect_iff_shows

/-- No word of `Keyword.ownerWords` is empty. -/
theorem solid_of_ownerWord {word : String} (h : word ∈ Keyword.ownerWords) :
    ¬ word.toList <:+: [] := by
  have all : ∀ word ∈ Keyword.ownerWords, ¬ word.toList <:+: [] := by decide
  exact all word h

/-- **A grave sign is found just when there is one**: `highRiskCount` is positive iff
`s.Blacklists`. -/
theorem highRiskCount_pos_iff : 0 < (ofSnapshot s).highRiskCount ↔ s.Blacklists := by
  have listed : "blacklist" ∈ Keyword.ownerWords := by decide
  have grave (hit : KeywordHit) : isGrave hit = true ↔ hit.keyword = "blacklist" := by
    simp [isGrave, Keyword.graveOwnerWords]
  have names : 0 < ((ofSnapshot s).keywords.filter isGrave).length ↔
      s.HasName ("blacklist".toList <:+: ·) := by
    rw [Snapshot.hasName_iff_functionNames (solid_of_ownerWord listed),
      List.length_pos_iff_exists_mem]
    constructor
    · rintro ⟨hit, mem⟩
      obtain ⟨found, word⟩ := List.mem_filter.mp mem
      obtain ⟨named, -, inside⟩ := mem_keywords_iff.mp found
      rw [grave] at word
      exact ⟨_, named, word ▸ inside⟩
    · rintro ⟨name, named, inside⟩
      have found : (⟨name, "blacklist"⟩ : KeywordHit) ∈ (ofSnapshot s).keywords :=
        mem_keywords_iff.mpr ⟨named, listed, inside⟩
      exact ⟨_, List.mem_filter.mpr ⟨found, (grave _).mpr rfl⟩⟩
  have code : 0 < (ofTier .high (ofSnapshot s).selectors).length ↔
      ∃ e ∈ ownerSelectors, e.tier = .high ∧ s.Shows e.marker := by
    rw [List.length_pos_iff_exists_mem]
    refine exists_congr fun e => ?_
    rw [ofTier, List.mem_filter, mem_selectors_iff, decide_eq_true_iff, and_assoc,
      and_comm (a := s.Shows e.marker)]
  rw [highRiskCount, Nat.add_pos_iff_pos_or_pos, names, code, Snapshot.Blacklists]

/-- **A sign of any kind is found just when there is one**: `totalCount` is positive iff
`s.Controlled`. -/
theorem totalCount_pos_iff : 0 < (ofSnapshot s).totalCount ↔ s.Controlled := by
  have names : 0 < (ofSnapshot s).keywords.length ↔
      ∃ word ∈ Keyword.ownerWords, s.HasName (word.toList <:+: ·) := by
    rw [List.length_pos_iff, ofSnapshot, Snapshot.hits_ne_nil_iff]
    refine exists_congr fun word => and_congr_right fun listed => ?_
    rw [Snapshot.hasName_iff_functionNames (solid_of_ownerWord listed)]
    simp only [Place.finds_anywhere_iff]
  have code : 0 < (ofSnapshot s).selectors.length ↔
      ∃ e ∈ ownerSelectors, s.Shows e.marker := by
    rw [List.length_pos_iff_exists_mem]
    exact exists_congr fun e => mem_selectors_iff
  rw [totalCount, Nat.add_pos_iff_pos_or_pos, names, code, Snapshot.Controlled]

/-- `detectedNames` has the names that `s.NamesControl`, and no others. -/
theorem mem_detectedNames_iff {name : String} :
    name ∈ (ofSnapshot s).detectedNames ↔ s.NamesControl name := by
  rw [detectedNames, List.mem_eraseDups, List.mem_append, List.mem_map, List.mem_map,
    Snapshot.NamesControl]
  refine or_congr ⟨?_, ?_⟩ (exists_congr fun e => ?_)
  · rintro ⟨hit, mem, rfl⟩
    obtain ⟨named, listed, inside⟩ := mem_keywords_iff.mp mem
    exact ⟨named, _, listed, inside⟩
  · rintro ⟨named, word, listed, inside⟩
    exact ⟨⟨name, word⟩, mem_keywords_iff.mpr ⟨named, listed, inside⟩, rfl⟩
  · rw [mem_selectors_iff, and_assoc]

/-- If there is a sign, `detectedNames` is not empty. -/
theorem detectedNames_ne_nil {o : OwnerSigns} (h : 0 < o.totalCount) : o.detectedNames ≠ [] := by
  intro none
  have empty : o.keywords.map KeywordHit.function ++ o.selectors.map Signature.name = [] := by
    rw [List.eq_nil_iff_forall_not_mem] at none ⊢
    exact fun name mem => none name (List.mem_eraseDups.mpr mem)
  have length := congrArg List.length empty
  rw [List.length_append, List.length_map, List.length_map, List.length_nil] at length
  exact absurd h (by rw [totalCount, length]; decide)

end OwnerSigns

namespace OwnerVerdict

variable {s : Snapshot}

/-- The condition on `s` for each verdict on an owner. -/
def Fits (s : Snapshot) : OwnerVerdict → Prop
  | highRisk => s.Blacklists
  | mediumRisk => ¬ s.Blacklists ∧ s.Controlled
  | inconclusive => ¬ s.Blacklists ∧ ¬ s.Controlled ∧ s.Blind
  | clean => ¬ s.Blacklists ∧ ¬ s.Controlled ∧ ¬ s.Blind

/-- The verdict on a snapshot is `v` iff `Fits s v`. -/
theorem ofSigns_ofSnapshot_eq_iff {v : OwnerVerdict} : ofSigns (.ofSnapshot s) = v ↔ Fits s v := by
  have high : (OwnerSigns.ofSnapshot s).highRiskCount = 0 ↔ ¬ s.Blacklists := by
    rw [← OwnerSigns.highRiskCount_pos_iff, Nat.pos_iff_ne_zero, not_not]
  have total : (OwnerSigns.ofSnapshot s).totalCount = 0 ↔ ¬ s.Controlled := by
    rw [← OwnerSigns.totalCount_pos_iff, Nat.pos_iff_ne_zero, not_not]
  have blind : (OwnerSigns.ofSnapshot s).hasAbi = false ∧
      (OwnerSigns.ofSnapshot s).hasBytecode = false ↔ s.Blind := Snapshot.blind_iff.symm
  have informed : (OwnerSigns.ofSnapshot s).hasAbi = true ∨
      (OwnerSigns.ofSnapshot s).hasBytecode = true ↔ ¬ s.Blind := by
    rw [← blind, not_and_or, Bool.not_eq_false, Bool.not_eq_false]
  have weaker : ¬ s.Blacklists ∧ ¬ s.Controlled ↔ ¬ s.Controlled :=
    and_iff_right_of_imp (mt Snapshot.Blacklists.controlled)
  rw [ofSigns_eq_iff]
  cases v with
  | highRisk => exact OwnerSigns.highRiskCount_pos_iff
  | mediumRisk => rw [OwnerSigns.Reaches, Fits, high, OwnerSigns.totalCount_pos_iff]
  | inconclusive => rw [OwnerSigns.Reaches, Fits, total, blind, ← and_assoc, weaker]
  | clean => rw [OwnerSigns.Reaches, Fits, total, informed, ← and_assoc, weaker]

/-- The status and the penalty of `finding s` are those of the verdict, which no bound cuts down. -/
theorem weighs_finding_iff {status : Status} {penalty : UInt8} :
    (finding s).Weighs status penalty ↔
      (ofSigns (.ofSnapshot s)).status = status ∧ (ofSigns (.ofSnapshot s)).penalty = penalty :=
  Finding.weighs_make_iff (ofSigns (.ofSnapshot s)).graded.le_maxPenalty

/-- Status and penalty determine the verdict. -/
theorem graded_iff (v : OwnerVerdict) :
    (v.status = .warn ∧ v.penalty = 18 ↔ v = highRisk) ∧
      (v.status = .warn ∧ v.penalty = 8 ↔ v = mediumRisk) ∧
      (v.status = .warn ∧ v.penalty = 10 ↔ v = inconclusive) ∧
      (v.status = .pass ∧ v.penalty = 0 ↔ v = clean) := by
  cases v <;> decide

theorem reason_finding {v : OwnerVerdict} (h : ofSigns (.ofSnapshot s) = v) :
    (finding s).reason = v.reason (.ofSnapshot s) := by
  rw [← h]
  rfl

/-- The reason of `mediumRisk` lists the names that `s.NamesControl`, and there is at least one. -/
theorem exists_reason_of_mediumRisk (h : ofSigns (.ofSnapshot s) = mediumRisk) :
    ∃ names : List String, names ≠ [] ∧ (∀ name, name ∈ names ↔ s.NamesControl name) ∧
      (finding s).reason = "Owner-only controls detected: " ++ String.intercalate ", " names := by
  have some : 0 < (OwnerSigns.ofSnapshot s).totalCount := (ofSigns_eq_iff.mp h).2
  exact ⟨_, OwnerSigns.detectedNames_ne_nil some, fun _ => OwnerSigns.mem_detectedNames_iff,
    reason_finding h⟩

end OwnerVerdict

/-- The status and the penalty of `OwnerVerdict.finding s`, for each pair that it can have. -/
structure Snapshot.OwnerLadder (s : Snapshot) : Prop where
  /-- `Status.warn` and `18` for a blacklist. -/
  eighteen_iff : (OwnerVerdict.finding s).Weighs .warn 18 ↔ s.Blacklists
  /-- `Status.warn` and `8` for any other control. -/
  eight_iff : (OwnerVerdict.finding s).Weighs .warn 8 ↔ ¬ s.Blacklists ∧ s.Controlled
  /-- `Status.warn` and `10` for no control in a blind snapshot. -/
  ten_iff : (OwnerVerdict.finding s).Weighs .warn 10 ↔
    ¬ s.Blacklists ∧ ¬ s.Controlled ∧ s.Blind
  /-- `Status.pass` and `0` for no control in a snapshot that is not blind. -/
  pass_iff : (OwnerVerdict.finding s).Weighs .pass 0 ↔
    ¬ s.Blacklists ∧ ¬ s.Controlled ∧ ¬ s.Blind
  /-- A function whose name has `blacklist` in it, in any case of letters, always costs `18`. -/
  unmasked : ∀ abi e name, s.abi = some abi → e ∈ abi → e.kind = .function →
    e.name = some name → "blacklist".toList <:+: Text.lower name.toList →
    (OwnerVerdict.finding s).Weighs .warn 18
  /-- The reason of `mediumRisk` lists the names that `s.NamesControl`, and one at least. -/
  reason : OwnerVerdict.ofSigns (.ofSnapshot s) = .mediumRisk →
    ∃ names : List String, names ≠ [] ∧ (∀ name, name ∈ names ↔ s.NamesControl name) ∧
      (OwnerVerdict.finding s).reason =
        "Owner-only controls detected: " ++ String.intercalate ", " names

/-- **The ladder of owners**: each status and penalty of `finding s` in terms of `s.Blacklists`,
`s.Controlled` and `s.Blind`, wherever the controls are found. -/
theorem OwnerVerdict.weighs_iff_controlled (s : Snapshot) : s.OwnerLadder := by
  have fits {v : OwnerVerdict} : ofSigns (.ofSnapshot s) = v ↔ Fits s v := ofSigns_ofSnapshot_eq_iff
  obtain ⟨eighteen, eight, ten, pass⟩ := graded_iff (ofSigns (.ofSnapshot s))
  have grave : (finding s).Weighs .warn 18 ↔ s.Blacklists := by
    rw [weighs_finding_iff, eighteen, fits, Fits]
  constructor
  case eighteen_iff => exact grave
  case eight_iff => rw [weighs_finding_iff, eight, fits, Fits]
  case ten_iff => rw [weighs_finding_iff, ten, fits, Fits]
  case pass_iff => rw [weighs_finding_iff, pass, fits, Fits]
  case unmasked =>
    intro abi e name habi mem kind named inside
    exact grave.mpr (Or.inl ⟨abi, habi, e, mem, kind, name, named, inside⟩)
  case reason => exact exists_reason_of_mediumRisk

end EvmRisk
