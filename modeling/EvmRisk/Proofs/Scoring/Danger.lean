import EvmRisk.Proofs.Scoring.Signs

/-!
# What is dangerous

The ladder of danger, by what stands in the code and in the names of the functions
(`DangerVerdict.weighs_iff_shown`): the grave signatures that the code shows are counted first, then
the others, and names matter only where it shows neither. The ladder itself counts different markers
among the signs it is given. For the signs of a snapshot this is the same, because no marker stands
for two signatures of the tables (`DangerSigns.count_ofSnapshot`); for any other signs it means that
neither their order nor their repetitions nor the list they come in has an effect
(`DangerVerdict.ofSigns_congr`).
-/

namespace EvmRisk

open Signature (dangerousSelectors dangerousOpcodes ofTier)

/-- The grave ones among the dangerous signatures: some of the functions and all instructions. -/
def Signature.graveDangers : List Signature := ofTier .high dangerousSelectors ++ dangerousOpcodes

/-- The dangerous signatures that are not grave; all of them are functions. -/
def Signature.lesserDangers : List Signature := ofTier .medium dangerousSelectors

namespace DangerSigns

/-- The marker `m` of the tier `tier` was found in the code. -/
def Marks (d : DangerSigns) (tier : Tier) (m : Marker) : Prop :=
  ∃ e ∈ d.inCode, e.tier = tier ∧ e.marker = m

/-- Signs that cannot be told apart by their different markers. -/
structure Alike (d e : DangerSigns) : Prop where
  hasAbi : d.hasAbi = e.hasAbi
  hasBytecode : d.hasBytecode = e.hasBytecode
  marks : ∀ tier m, d.Marks tier m ↔ e.Marks tier m
  keywords : d.keywords = [] ↔ e.keywords = []

/-- Signs with the same members of `selectors ++ opcodes` are `Alike`: their order, their
repetitions and the list in which a signature stands make no difference. -/
theorem Alike.of_mem_iff {d e : DangerSigns} (hasAbi : d.hasAbi = e.hasAbi)
    (hasBytecode : d.hasBytecode = e.hasBytecode) (keywords : d.keywords = [] ↔ e.keywords = [])
    (h : ∀ x, x ∈ d.selectors ++ d.opcodes ↔ x ∈ e.selectors ++ e.opcodes) : d.Alike e :=
  ⟨hasAbi, hasBytecode, fun _ _ => exists_congr fun x => and_congr_left fun _ => h x, keywords⟩

/-- `d.count tier` depends on `d.Marks tier` only. -/
theorem count_congr {d e : DangerSigns} {tier : Tier} (h : ∀ m, d.Marks tier m ↔ e.Marks tier m) :
    d.count tier = e.count tier := by
  have mem (d : DangerSigns) (m : Marker) :
      m ∈ (ofTier tier d.inCode).map Signature.marker ↔ d.Marks tier m := by
    simp only [ofTier, List.mem_map, List.mem_filter, decide_eq_true_iff, and_assoc, Marks]
  refine length_eraseDups_congr fun m => ?_
  rw [mem d, mem e, h m]

/-! ### The signs of a snapshot -/

/-- The signatures in the code are `dangerousSelectors ++ dangerousOpcodes`, filtered by `s.Shows`.
-/
theorem inCode_ofSnapshot (s : Snapshot) : (ofSnapshot s).inCode =
    (dangerousSelectors ++ dangerousOpcodes).filter fun e => s.Shows e.marker := by
  rw [List.filter_append, ← Snapshot.detect_eq_filter, ← Snapshot.detect_eq_filter]
  rfl

/-- For the signs of a snapshot the different markers of a tier are as many as the signatures found,
since no two signatures of the tables have the same marker. -/
theorem count_eq_length (s : Snapshot) (tier : Tier) :
    (ofSnapshot s).count tier = (ofTier tier (ofSnapshot s).inCode).length := by
  have sublist : (ofTier tier (ofSnapshot s).inCode).Sublist
      (dangerousSelectors ++ dangerousOpcodes) := by
    rw [inCode_ofSnapshot]
    exact List.filter_sublist.trans List.filter_sublist
  have distinct : ((ofTier tier (ofSnapshot s).inCode).map Signature.marker).Nodup :=
    Signature.nodup_markers_of_sublist (sublist.trans Signature.dangers_sublist_all)
  rw [count, length_eraseDups_of_nodup distinct, List.length_map]

/-- **Different markers are counted as the signatures of the tables are.** The count of a tier is
`s.shown` of the signatures of that tier. -/
theorem count_ofSnapshot (s : Snapshot) (tier : Tier) : (ofSnapshot s).count tier =
    s.shown (ofTier tier (dangerousSelectors ++ dangerousOpcodes)) := by
  have found : ofTier tier (ofSnapshot s).inCode =
      (ofTier tier (dangerousSelectors ++ dangerousOpcodes)).filter fun e => s.Shows e.marker := by
    rw [inCode_ofSnapshot, ofTier, ofTier, List.filter_comm]
  rw [count_eq_length, found, Snapshot.shown, List.countP_eq_length_filter]

/-- The count of `Tier.high` is the number of `Signature.graveDangers` shown. -/
theorem count_high_ofSnapshot (s : Snapshot) :
    (ofSnapshot s).count .high = s.shown Signature.graveDangers := by
  have table : ofTier .high (dangerousSelectors ++ dangerousOpcodes) = Signature.graveDangers := by
    decide
  rw [count_ofSnapshot, table]

/-- The count of `Tier.medium` is the number of `Signature.lesserDangers` shown. -/
theorem count_medium_ofSnapshot (s : Snapshot) :
    (ofSnapshot s).count .medium = s.shown Signature.lesserDangers := by
  have table :
      ofTier .medium (dangerousSelectors ++ dangerousOpcodes) = Signature.lesserDangers := by decide
  rw [count_ofSnapshot, table]

end DangerSigns

namespace Snapshot

/-- Some function has a name that begins with a word of `Keyword.dangerWords`. -/
def NamesDanger (s : Snapshot) : Prop :=
  ∃ word ∈ Keyword.dangerWords, s.HasName (word.toList <+: ·)

/-- The signs have keywords iff the name of a function begins with a dangerous word. -/
theorem keywords_danger_ne_nil_iff (s : Snapshot) :
    (DangerSigns.ofSnapshot s).keywords ≠ [] ↔ s.NamesDanger := by
  have solid : ∀ word ∈ Keyword.dangerWords, ¬ word.toList <+: [] := by decide
  rw [NamesDanger]
  refine hits_ne_nil_iff.trans (exists_congr fun word => and_congr_right fun listed => ?_)
  rw [hasName_iff_functionNames (solid word listed)]
  simp only [Place.finds_atStart_iff]

/-- `DangerSigns.Informed` is that the snapshot is not blind. -/
theorem informed_danger_iff (s : Snapshot) :
    (DangerSigns.ofSnapshot s).Informed ↔ ¬ s.Blind := by
  rw [blind_iff, DangerSigns.Informed, DangerSigns.ofSnapshot]
  cases s.hasAbi <;> cases s.hasBytecode <;> simp

/-- The status and the penalty of `DangerVerdict.finding s`, for each pair that it can have. -/
structure DangerLadder (s : Snapshot) : Prop where
  /-- `Status.fail` and `30` for two or more grave signatures in the code. -/
  fail_iff : (DangerVerdict.finding s).Weighs .fail 30 ↔ 2 ≤ s.shown Signature.graveDangers
  /-- `Status.warn` and `18` for one of them. -/
  eighteen_iff : (DangerVerdict.finding s).Weighs .warn 18 ↔ s.shown Signature.graveDangers = 1
  /-- `Status.warn` and `12` for three or more signatures that are not grave, and for a blind
  snapshot. -/
  twelve_iff : (DangerVerdict.finding s).Weighs .warn 12 ↔
    s.Blind ∨ s.shown Signature.graveDangers = 0 ∧ 3 ≤ s.shown Signature.lesserDangers
  /-- `Status.warn` and `8` for one or two of these, and for a dangerous name where the code shows
  no dangerous signature. -/
  eight_iff : (DangerVerdict.finding s).Weighs .warn 8 ↔
    s.shown Signature.graveDangers = 0 ∧
      ((1 ≤ s.shown Signature.lesserDangers ∧ s.shown Signature.lesserDangers ≤ 2) ∨
        s.shown Signature.lesserDangers = 0 ∧ s.NamesDanger)
  /-- `Status.pass` and `0` if the snapshot is not blind and has neither a dangerous signature nor a
  dangerous name. -/
  pass_iff : (DangerVerdict.finding s).Weighs .pass 0 ↔
    ¬ s.Blind ∧ s.shown Signature.graveDangers = 0 ∧ s.shown Signature.lesserDangers = 0 ∧
      ¬ s.NamesDanger

end Snapshot

namespace DangerVerdict

/-- The status and the penalty of `finding s` are those of the verdict, which no bound cuts down. -/
theorem weighs_finding_iff {s : Snapshot} {status : Status} {penalty : UInt8} :
    (finding s).Weighs status penalty ↔
      (ofSigns (.ofSnapshot s)).status = status ∧ (ofSigns (.ofSnapshot s)).penalty = penalty :=
  Finding.weighs_make_iff (ofSigns (.ofSnapshot s)).graded.le_maxPenalty

theorem reason_finding {s : Snapshot} {v : DangerVerdict} (h : ofSigns (.ofSnapshot s) = v) :
    (finding s).reason = v.reason (.ofSnapshot s) := by
  rw [← h]
  rfl

/-- The condition on `s` for each verdict on danger. -/
def Fits (s : Snapshot) : DangerVerdict → Prop
  | inconclusive => s.Blind
  | multipleHigh => 2 ≤ s.shown Signature.graveDangers
  | singleHigh => s.shown Signature.graveDangers = 1
  | manyMedium => s.shown Signature.graveDangers = 0 ∧ 3 ≤ s.shown Signature.lesserDangers
  | someMedium => s.shown Signature.graveDangers = 0 ∧
      1 ≤ s.shown Signature.lesserDangers ∧ s.shown Signature.lesserDangers ≤ 2
  | keywordOnly => s.shown Signature.graveDangers = 0 ∧
      s.shown Signature.lesserDangers = 0 ∧ s.NamesDanger
  | clean => ¬ s.Blind ∧ s.shown Signature.graveDangers = 0 ∧
      s.shown Signature.lesserDangers = 0 ∧ ¬ s.NamesDanger

/-- The verdict on a snapshot is `v` iff `Fits s v`. -/
theorem ofSigns_ofSnapshot_eq_iff {s : Snapshot} {v : DangerVerdict} :
    ofSigns (.ofSnapshot s) = v ↔ Fits s v := by
  have informed : (DangerSigns.ofSnapshot s).Informed ↔ ¬ s.Blind := s.informed_danger_iff
  have names : (DangerSigns.ofSnapshot s).keywords ≠ [] ↔ s.NamesDanger :=
    s.keywords_danger_ne_nil_iff
  have noNames : (DangerSigns.ofSnapshot s).keywords = [] ↔ ¬ s.NamesDanger := by
    rw [← names, not_not]
  -- Where there is nothing to look at, nothing is shown and nothing is named.
  have blind (h : s.Blind) : s.shown Signature.graveDangers = 0 ∧
      s.shown Signature.lesserDangers = 0 ∧ ¬ s.NamesDanger :=
    ⟨Snapshot.shown_of_blind h _, Snapshot.shown_of_blind h _,
      fun ⟨_, _, named⟩ => Snapshot.not_hasName_of_blind h _ named⟩
  have needless {p : Prop} (h : s.Blind → ¬ p) : ¬ s.Blind ∧ p ↔ p :=
    ⟨And.right, fun hp => ⟨fun none => h none hp, hp⟩⟩
  rw [ofSigns_eq_iff]
  cases v with
  | inconclusive => exact Snapshot.blind_iff.symm
  | clean =>
    simp only [DangerSigns.Reaches, Fits, informed, noNames, DangerSigns.count_high_ofSnapshot,
      DangerSigns.count_medium_ofSnapshot]
  | _ =>
    simp only [DangerSigns.Reaches, Fits, informed, names, DangerSigns.count_high_ofSnapshot,
      DangerSigns.count_medium_ofSnapshot]
    refine needless fun none => ?_
    obtain ⟨noGrave, noLesser, unnamed⟩ := blind none
    simp [noGrave, noLesser, unnamed]

/-- Status and penalty determine the verdict, except that `inconclusive` and `manyMedium`, and
`someMedium` and `keywordOnly`, have the same. -/
theorem graded_iff (v : DangerVerdict) :
    (v.status = .fail ∧ v.penalty = 30 ↔ v = multipleHigh) ∧
      (v.status = .warn ∧ v.penalty = 18 ↔ v = singleHigh) ∧
      (v.status = .warn ∧ v.penalty = 12 ↔ v = inconclusive ∨ v = manyMedium) ∧
      (v.status = .warn ∧ v.penalty = 8 ↔ v = someMedium ∨ v = keywordOnly) ∧
      (v.status = .pass ∧ v.penalty = 0 ↔ v = clean) := by
  cases v <;> decide

/-- **The ladder of danger**: each status and penalty of `finding s` in terms of `s.shown` and
`s.NamesDanger`. -/
theorem dangerLadder (s : Snapshot) : s.DangerLadder := by
  have fits {v : DangerVerdict} : ofSigns (.ofSnapshot s) = v ↔ Fits s v :=
    ofSigns_ofSnapshot_eq_iff
  obtain ⟨fail, eighteen, twelve, eight, pass⟩ := graded_iff (ofSigns (.ofSnapshot s))
  constructor
  case fail_iff => rw [weighs_finding_iff, fail, fits, Fits]
  case eighteen_iff => rw [weighs_finding_iff, eighteen, fits, Fits]
  case twelve_iff => rw [weighs_finding_iff, twelve, fits, fits, Fits, Fits]
  case eight_iff => rw [weighs_finding_iff, eight, fits, fits, Fits, Fits, ← and_or_left]
  case pass_iff => rw [weighs_finding_iff, pass, fits, Fits]

/-- The verdict is the same for signs that are `Alike`. -/
theorem ofSigns_congr {d e : DangerSigns} (h : d.Alike e) : ofSigns d = ofSigns e := by
  have count (tier : Tier) : d.count tier = e.count tier :=
    DangerSigns.count_congr (h.marks tier)
  have keywords : d.keywords.isEmpty = e.keywords.isEmpty := by
    rw [Bool.eq_iff_iff, List.isEmpty_iff, List.isEmpty_iff, h.keywords]
  rw [ofSigns, h.hasAbi, h.hasBytecode, count, count, keywords, ofSigns]

/-- If the code shows a dangerous signature, the verdict depends on the bytecode only. -/
theorem ofSigns_eq_of_shown {s t : Snapshot} (code : s.bytecode = t.bytecode)
    (some : 0 < s.shown Signature.graveDangers + s.shown Signature.lesserDangers) :
    ofSigns (.ofSnapshot s) = ofSigns (.ofSnapshot t) := by
  have same (table : List Signature) : s.shown table = t.shown table :=
    Snapshot.shown_congr code table
  have fits : Fits s (ofSigns (.ofSnapshot s)) := ofSigns_ofSnapshot_eq_iff.mp rfl
  symm
  rw [ofSigns_ofSnapshot_eq_iff]
  -- Where something is shown, only the rungs on which it is counted are left.
  generalize ofSigns (.ofSnapshot s) = v at fits
  cases v with
  | inconclusive =>
    have none := Snapshot.shown_of_blind fits
    rw [none, none] at some
    exact absurd some (by decide)
  | keywordOnly => exact absurd some (by rw [fits.1, fits.2.1]; decide)
  | clean => exact absurd some (by rw [fits.2.1, fits.2.2.1]; decide)
  | _ => simpa only [Fits, same] using fits

/-- **Danger is graded by what the code shows**, and by the names of functions only where it shows
nothing; of the signs only the different markers count. -/
theorem weighs_iff_shown :
    (∀ s : Snapshot, s.DangerLadder) ∧
    (∀ s t : Snapshot, s.bytecode = t.bytecode →
      0 < s.shown Signature.graveDangers + s.shown Signature.lesserDangers →
      (finding s).status = (finding t).status ∧ (finding s).penalty = (finding t).penalty) ∧
    (∀ d e : DangerSigns, d.Alike e → ofSigns d = ofSigns e) ∧
    ∀ d e : DangerSigns, d.hasAbi = e.hasAbi → d.hasBytecode = e.hasBytecode →
      (d.keywords = [] ↔ e.keywords = []) →
      (∀ x, x ∈ d.selectors ++ d.opcodes ↔ x ∈ e.selectors ++ e.opcodes) →
      ofSigns d = ofSigns e := by
  refine ⟨dangerLadder, fun s t code some => ?_, fun d e => ofSigns_congr, ?_⟩
  · have verdict := ofSigns_eq_of_shown code some
    obtain ⟨status, penalty⟩ := weighs_finding_iff (s := s).mpr ⟨rfl, rfl⟩
    obtain ⟨status', penalty'⟩ := weighs_finding_iff (s := t).mpr ⟨rfl, rfl⟩
    rw [status, status', penalty, penalty', verdict]
    exact ⟨rfl, rfl⟩
  · intro d e abi code keywords same
    exact ofSigns_congr (.of_mem_iff abi code keywords same)

/-- Code with a grave signature and one that is not, beside which a dangerous name turns up; and a
grave signature that is found twice, or once, or among the instructions. -/
theorem weighs_iff_shown_mint :
    let s : Snapshot := { bytecode := some ⟨"6340c10f196342966c68"⟩ }
    let t : Snapshot := { s with abi := some [.ofFunction "burn"] }
    let mint : Signature := ⟨.selector 0x40 0xc1 0x0f 0x19, "mint(address,uint256)", .high,
      "Privileged minting to arbitrary addresses"⟩
    let twice : DangerSigns := ⟨[⟨"mint", "mint"⟩], [mint, mint], [], true, true⟩
    let once : DangerSigns := ⟨[⟨"mint", "mint"⟩], [mint], [], true, true⟩
    let moved : DangerSigns := ⟨[⟨"burn", "burn"⟩, ⟨"rugpull", "rug"⟩], [], [mint], true, true⟩
    ((finding s).Weighs .warn 18 ∧ (finding t).Weighs .warn 18) ∧
      ofSigns twice = ofSigns once ∧ ofSigns once = ofSigns moved ∧
      ofSigns moved = .singleHigh := by
  intro s t mint twice once moved
  obtain ⟨ladder, abi, alike, same⟩ := weighs_iff_shown
  have one : s.shown Signature.graveDangers = 1 := by decide
  have first : (finding s).Weighs .warn 18 := (ladder s).eighteen_iff.mpr one
  obtain ⟨status, penalty⟩ := abi s t rfl (by omega)
  have repeated (x : Signature) :
      x ∈ twice.selectors ++ twice.opcodes ↔ x ∈ once.selectors ++ once.opcodes := by
    simp [twice, once]
  have listed (x : Signature) :
      x ∈ once.selectors ++ once.opcodes ↔ x ∈ moved.selectors ++ moved.opcodes := by
    simp [once, moved]
  have keywords : once.keywords = [] ↔ moved.keywords = [] := by simp [once, moved]
  exact ⟨⟨first, status ▸ first.1, penalty ▸ first.2⟩, same twice once rfl rfl Iff.rfl repeated,
    alike once moved (.of_mem_iff rfl rfl keywords listed), by decide⟩

end DangerVerdict

end EvmRisk
