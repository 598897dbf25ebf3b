import EvmRisk.Proofs.Scoring.Danger
import EvmRisk.Proofs.Scoring.Owner
import EvmRisk.Proofs.Text.Lines

/-!
# The lines of a summary

A summary is laid out as a heading and a line for each finding (`Assessment.Framed`), and a reason
is the only part of a line that can break it (`Assessment.framed_iff`). Reasons are fixed words and
numbers, except that two verdicts copy names of functions from the interface into them
(`Snapshot.quotedOn`), and a name can hold any character. So a summary has just as many lines too
many as there are line breaks in the names that are copied (`Snapshot.lines_summary`), and with
them a contract can add lines of its own to it (`Snapshot.not_framed_mint`).
-/

namespace EvmRisk

open Text (breaks breaks_append breaks_intercalate breaks_eq_zero_iff lines)

/-! ### Headings and lines -/

namespace Assessment

/-- The heading has no line break. -/
theorem breaks_heading (a : Assessment) : breaks a.heading = 0 := by
  have emoji (l : RiskLabel) : breaks l.emoji = 0 := by cases l <;> decide
  have text (l : RiskLabel) : breaks l.text = 0 := by cases l <;> decide
  simp only [heading, breaks_append, emoji, text, Text.breaks_repr]
  decide

theorem breaks_penaltyText (f : Finding) : breaks (penaltyText f) = 0 := by
  unfold penaltyText
  split_ifs
  · rw [breaks_append, Text.breaks_repr]
    decide
  · decide

/-- The line of a finding has the line breaks of its reason. -/
theorem breaks_line (f : Finding) : breaks (line f) = breaks f.reason := by
  have emoji (v : Status) : breaks v.emoji = 0 := by cases v <;> decide
  have title (i : Indicator) : breaks i.profile.title = 0 := by cases i <;> decide
  have blanks : breaks "   " = 0 ∧ breaks " " = 0 ∧ breaks "  " = 0 := by decide
  simp only [line, breaks_append, Text.breaks_padRight, Text.breaks_padLeft, emoji, title,
    breaks_penaltyText, blanks, Nat.zero_add]

/-- The heading and the lines of the findings, of which a summary is made. -/
def layout (a : Assessment) : List String := a.heading :: a.findings.toList.map line

/-- The lines of the summary are the heading and the lines of the findings. -/
def Framed (a : Assessment) : Prop := lines a.summary = a.layout.map String.toList

/-- **Only a reason can break the lines of a summary**: `a.Framed` iff no reason has a line break.
-/
theorem framed_iff (a : Assessment) :
    a.Framed ↔ ∀ f ∈ a.findings.toList, '\n' ∉ f.reason.toList := by
  have heading : '\n' ∉ a.heading.toList := breaks_eq_zero_iff.mp a.breaks_heading
  have some : a.layout ≠ [] := List.cons_ne_nil _ _
  rw [Framed, summary, ← layout, Text.lines_intercalate_iff some, layout, List.forall_mem_cons,
    List.forall_mem_map]
  refine (and_iff_right heading).trans (forall₂_congr fun f _ => ?_)
  rw [← breaks_eq_zero_iff, breaks_line, breaks_eq_zero_iff]

/-- A summary has a line break in front of each finding, and those of the reasons. -/
theorem breaks_summary (a : Assessment) : breaks a.summary =
    a.findings.toList.length + (a.findings.toList.map fun f => breaks f.reason).sum := by
  have line : breaks ∘ line = fun f => breaks f.reason := funext breaks_line
  have one : breaks "\n" = 1 := by decide
  rw [summary, breaks_intercalate, List.map_cons, List.map_map, line, List.sum_cons,
    breaks_heading, List.length_cons, List.length_map, one]
  omega

end Assessment

/-! ### Reasons -/

theorem SourceVerdict.breaks_reason (v : SourceVerdict) : breaks v.reason = 0 := by
  unfold reason
  split <;> decide +kernel

theorem ProxyVerdict.breaks_reason (v : ProxyVerdict) : breaks v.reason = 0 := by
  cases v <;> decide +kernel

theorem Market.breaks_reason_liquidityFinding (m : Option Market) :
    breaks (liquidityFinding m).reason = 0 := by
  have amount (x : Float) : breaks (dollars x) = 0 := by
    rw [dollars, breaks_append, Text.breaks_fixed]
    decide +kernel
  unfold liquidityFinding
  split
  · decide +kernel
  · split_ifs
    all_goals
      simp only [Finding.make, breaks_append, amount]
      decide +kernel

theorem Market.breaks_reason_holdersFinding (m : Option Market) :
    breaks (holdersFinding m).reason = 0 := by
  unfold holdersFinding
  dsimp only
  split_ifs
  · simp only [Finding.make]
    decide +kernel
  · split
    all_goals
      simp only [Finding.make, breaks_append, Text.breaks_fixed, Text.breaks_repr]
      decide +kernel

/-- The reason about an owner has the line breaks of the names it lists, which is for `mediumRisk`
only. -/
theorem OwnerVerdict.breaks_reason (v : OwnerVerdict) (o : OwnerSigns) : breaks (v.reason o) =
    ((if v = .mediumRisk then o.detectedNames else []).map breaks).sum := by
  by_cases medium : v = .mediumRisk
  · have words : breaks "Owner-only controls detected: " = 0 := by decide +kernel
    have copied : mediumRisk.reason o =
        "Owner-only controls detected: " ++ String.intercalate ", " o.detectedNames := rfl
    rw [if_pos medium, medium, copied, breaks_append, words, Text.breaks_intercalate_comma,
      Nat.zero_add]
  · rw [if_neg medium, List.map_nil, List.sum_nil]
    unfold reason
    split
    · simp only [breaks_append, Text.breaks_repr]
      split_ifs <;> decide +kernel
    · exact absurd rfl medium
    · decide +kernel
    · decide +kernel

/-- The reason about danger has the line breaks of the names it lists, which is for `keywordOnly`
only, if those of the tables have none. -/
theorem DangerVerdict.breaks_reason (v : DangerVerdict) {d : DangerSigns}
    (names : ∀ tier, breaks (d.names tier) = 0) : breaks (v.reason d) =
      ((if v = .keywordOnly then d.riskyNames else []).map breaks).sum := by
  by_cases named : v = .keywordOnly
  · have words : breaks "Risky function names in ABI: " = 0 := by decide +kernel
    have copied : keywordOnly.reason d =
        "Risky function names in ABI: " ++ String.intercalate ", " d.riskyNames := rfl
    rw [if_pos named, named, copied, breaks_append, words, Text.breaks_intercalate_comma,
      Nat.zero_add]
  · rw [if_neg named, List.map_nil, List.sum_nil]
    unfold reason
    split
    case h_1 => decide +kernel
    case h_6 => exact absurd rfl named
    case h_7 => decide +kernel
    all_goals
      rw [breaks_append, names]
      decide +kernel

/-- The names in the tables have no line breaks. -/
theorem DangerSigns.breaks_names_ofSnapshot (s : Snapshot) (tier : Tier) :
    breaks ((ofSnapshot s).names tier) = 0 := by
  have table : ∀ e ∈ Signature.dangerousSelectors ++ Signature.dangerousOpcodes,
      breaks e.name = 0 := by decide +kernel
  rw [names, Text.breaks_intercalate_comma, List.map_map, inCode_ofSnapshot]
  refine List.sum_eq_zero_iff_forall_eq_nat.mpr (List.forall_mem_map.mpr fun e mem => ?_)
  exact table e (List.mem_of_mem_filter (List.mem_of_mem_filter mem))

namespace Snapshot

/-- The names that the reason of a finding copies. -/
def quotedOn (s : Snapshot) : Indicator → List String
  | .ownerPrivileges =>
    if OwnerVerdict.ofSigns (.ofSnapshot s) = .mediumRisk then
      (OwnerSigns.ofSnapshot s).detectedNames
    else []
  | .dangerousFunctions =>
    if DangerVerdict.ofSigns (.ofSnapshot s) = .keywordOnly then
      (DangerSigns.ofSnapshot s).riskyNames
    else []
  | _ => []

/-- The reason of the finding on `i` has the line breaks of `s.quotedOn i`. -/
theorem breaks_reason_of_findingOn {s : Snapshot} {i : Indicator} {f : Finding}
    (h : s.findingOn i = some f) : breaks f.reason = ((s.quotedOn i).map breaks).sum := by
  cases i with
  | verifiedSource =>
    obtain rfl := Option.some.inj h
    exact SourceVerdict.breaks_reason _
  | proxy =>
    obtain rfl := Option.some.inj h
    exact ProxyVerdict.breaks_reason _
  | ownerPrivileges =>
    obtain rfl := Option.some.inj h
    exact OwnerVerdict.breaks_reason _ _
  | dangerousFunctions =>
    obtain rfl := Option.some.inj h
    exact DangerVerdict.breaks_reason _ (DangerSigns.breaks_names_ofSnapshot s)
  | liquidity =>
    obtain ⟨m, -, rfl⟩ := Option.map_eq_some_iff.mp h
    exact Market.breaks_reason_liquidityFinding _
  | holderDistribution =>
    obtain ⟨m, -, rfl⟩ := Option.map_eq_some_iff.mp h
    exact Market.breaks_reason_holdersFinding _

theorem quotedOn_of_findingOn {s : Snapshot} {i : Indicator} (h : s.findingOn i = none) :
    s.quotedOn i = [] := by
  cases i with
  | liquidity => rfl
  | holderDistribution => rfl
  | _ => cases h

/-! ### Names in reasons -/

/-- The names that reasons copy. -/
def quoted (s : Snapshot) : List String := Indicator.all.flatMap s.quotedOn

/-- All reasons together have the line breaks of `s.quoted`. -/
theorem sum_breaks_reason (s : Snapshot) :
    (s.analyze.findings.toList.map fun f => breaks f.reason).sum = (s.quoted.map breaks).sum := by
  rw [Findings.toList_eq_filterMap, quoted]
  induction Indicator.all with
  | nil => rfl
  | cons i is ih =>
    rw [List.flatMap_cons, List.map_append, List.sum_append, ← ih]
    cases found : s.analyze.findings.get? i with
    | none =>
      have silent := quotedOn_of_findingOn ((s.get?_analyze i).symm.trans found)
      rw [List.filterMap_cons_none found, silent]
      exact (Nat.zero_add _).symm
    | some f =>
      have copied := breaks_reason_of_findingOn ((s.get?_analyze i).symm.trans found)
      rw [List.filterMap_cons_some found, List.map_cons, List.sum_cons, copied]

/-- The function `name` is copied into a reason: as a control of the owner, or as a danger where
only names tell of one. -/
def Quotes (s : Snapshot) (name : String) : Prop :=
  name ∈ s.functionNames ∧
    ((OwnerVerdict.ofSigns (.ofSnapshot s) = .mediumRisk ∧
        ∃ word ∈ Keyword.ownerWords, word.toList <:+: name.toList) ∨
      (DangerVerdict.ofSigns (.ofSnapshot s) = .keywordOnly ∧
        ∃ word ∈ Keyword.dangerWords, word.toList <+: name.toList))

/-- `riskyNames` are the function names that begin with a dangerous word. -/
theorem mem_riskyNames_iff {s : Snapshot} {name : String} :
    name ∈ (DangerSigns.ofSnapshot s).riskyNames ↔
      name ∈ s.functionNames ∧ ∃ word ∈ Keyword.dangerWords, word.toList <+: name.toList := by
  rw [DangerSigns.riskyNames, List.mem_mergeSort, List.mem_eraseDups, List.mem_map]
  constructor
  · rintro ⟨hit, mem, rfl⟩
    obtain ⟨known, listed, found⟩ := Keyword.mem_hits_iff.mp mem
    exact ⟨known, _, listed, Place.finds_atStart_iff.mp found⟩
  · rintro ⟨known, word, listed, found⟩
    exact ⟨⟨name, word⟩,
      Keyword.mem_hits_iff.mpr ⟨known, listed, Place.finds_atStart_iff.mpr found⟩, rfl⟩

/-- A name in `s.quoted` is one that `s.Quotes`, or that of a control in the code. -/
theorem mem_quoted_iff {s : Snapshot} {name : String} : name ∈ s.quoted ↔
    s.Quotes name ∨ (OwnerVerdict.ofSigns (.ofSnapshot s) = .mediumRisk ∧
      ∃ e ∈ Signature.ownerSelectors, s.Shows e.marker ∧ e.name = name) := by
  simp only [quoted, Indicator.all, List.flatMap_cons, List.flatMap_nil, List.mem_append, quotedOn,
    List.mem_ite_nil_right, List.not_mem_nil, false_or, or_false,
    OwnerSigns.mem_detectedNames_iff, mem_riskyNames_iff, NamesControl, Quotes]
  constructor
  · rintro (⟨medium, ⟨known, word⟩ | control⟩ | ⟨named, known, word⟩)
    · exact Or.inl ⟨known, Or.inl ⟨medium, word⟩⟩
    · exact Or.inr ⟨medium, control⟩
    · exact Or.inl ⟨known, Or.inr ⟨named, word⟩⟩
  · rintro (⟨known, ⟨medium, word⟩ | ⟨named, word⟩⟩ | ⟨medium, control⟩)
    · exact Or.inl ⟨medium, Or.inl ⟨known, word⟩⟩
    · exact Or.inr ⟨named, known, word⟩
    · exact Or.inl ⟨medium, Or.inr control⟩

/-- The names in `s.quoted` have no line break iff those that `s.Quotes` have none. -/
theorem forall_mem_quoted_iff {s : Snapshot} : (∀ name ∈ s.quoted, '\n' ∉ name.toList) ↔
    ∀ name, s.Quotes name → '\n' ∉ name.toList := by
  have table : ∀ e ∈ Signature.ownerSelectors, '\n' ∉ e.name.toList := by decide +kernel
  constructor
  · exact fun whole name copied => whole name (mem_quoted_iff.mpr (Or.inl copied))
  · intro whole name mem
    rcases mem_quoted_iff.mp mem with copied | ⟨-, e, listed, -, rfl⟩
    · exact whole name copied
    · exact table e listed

/-! ### Summaries of analyses -/

/-- The summary has a line for the heading, one for each finding, and one for each line break in
`s.quoted`. -/
theorem length_lines_summary (s : Snapshot) : (lines s.analyze.summary).length =
    1 + s.analyze.findings.toList.length + (s.quoted.map breaks).sum := by
  rw [Text.length_lines, Assessment.breaks_summary, sum_breaks_reason]
  omega

/-- The summary of `s` is framed iff no name that `s.Quotes` has a line break. -/
theorem framed_analyze_iff (s : Snapshot) :
    s.analyze.Framed ↔ ∀ name, s.Quotes name → '\n' ∉ name.toList := by
  have reasons : (∀ f ∈ s.analyze.findings.toList, breaks f.reason = 0) ↔
      ∀ name ∈ s.quoted, breaks name = 0 := by
    rw [← List.forall_mem_map (P := (· = 0)), ← List.sum_eq_zero_iff_forall_eq_nat,
      sum_breaks_reason, List.sum_eq_zero_iff_forall_eq_nat, List.forall_mem_map]
  simp only [breaks_eq_zero_iff] at reasons
  rw [Assessment.framed_iff, reasons, forall_mem_quoted_iff]

/-- If no name in the interface has a line break, no name that `s.Quotes` has one, because the
lowercase of a name brings none. -/
theorem not_mem_of_quotes {s : Snapshot}
    (whole : ∀ abi e name, s.abi = some abi → e ∈ abi → e.name = some name → '\n' ∉ name.toList)
    {name : String} (copied : s.Quotes name) : '\n' ∉ name.toList := by
  intro broken
  have some : s.HasName fun cs => '\n' ∈ cs :=
    (hasName_iff_functionNames (p := fun cs => '\n' ∈ cs) List.not_mem_nil).mpr
      ⟨name, copied.1, broken⟩
  obtain ⟨abi, interface, e, mem, -, raw, named, broken⟩ := some
  exact whole abi e raw interface mem named (Text.mem_lower_newline_iff.mp broken)

/-- **Only names of functions can break the lines of a summary.** It has a line for the heading, one
for each finding, and one for each line break in a name that a reason copies; where there is none
the lines are the heading and the findings, and so they are where no name in the interface has
one, whatever the explorer and the market say. -/
theorem lines_summary (s : Snapshot) :
    (lines s.analyze.summary).length =
      1 + s.analyze.findings.toList.length + (s.quoted.map breaks).sum ∧
    (s.analyze.Framed ↔ ∀ name, s.Quotes name → '\n' ∉ name.toList) ∧
    ((∀ abi e name, s.abi = some abi → e ∈ abi → e.name = some name → '\n' ∉ name.toList) →
      s.analyze.Framed) :=
  ⟨s.length_lines_summary, s.framed_analyze_iff,
    fun whole => s.framed_analyze_iff.mpr fun _ copied => not_mem_of_quotes whole copied⟩

/-- The name of a contract that goes on in a second line. -/
theorem lines_summary_twoLines :
    let s : Snapshot :=
      { abi := some [.ofFunction "mint"]
        explorer := some ⟨false, false, none, none, none, some "Mint\nSafe", none⟩ }
    (∀ abi e name, s.abi = some abi → e ∈ abi → e.name = some name → '\n' ∉ name.toList) ∧
      s.analyze.Framed := by
  intro s
  have whole : ∀ abi e name, s.abi = some abi → e ∈ abi → e.name = some name →
      '\n' ∉ name.toList := by
    intro abi e name interface mem named
    obtain rfl := Option.some.inj interface
    obtain rfl := List.mem_singleton.mp mem
    obtain rfl := Option.some.inj named
    decide
  exact ⟨whole, s.lines_summary.2.2 whole⟩

/-- A name of a function that goes on in a second line, which looks like that of a finding. -/
def twoLineName : String := "mint\n   ✅ dangerous functions     -0  no dangerous functions detected"

theorem lower_twoLineName : Text.lower twoLineName.toList = twoLineName.toList := by
  decide +kernel

/-- With such a name there is a line too many. -/
theorem not_framed_mint :
    let s : Snapshot := { abi := some [.ofFunction twoLineName] }
    ¬ s.analyze.Framed ∧
      (lines s.analyze.summary).length ≠ 1 + s.analyze.findings.toList.length := by
  intro s
  have copied : s.Quotes twoLineName := by
    have known : twoLineName ∈ s.functionNames := by
      have mem : twoLineName ∈ [AbiEntry.ofFunction twoLineName].filterMap
          AbiEntry.functionName? := List.mem_filterMap.mpr ⟨_, List.mem_singleton_self _, rfl⟩
      refine List.mem_map.mpr ⟨twoLineName, mem, ?_⟩
      rw [lower_twoLineName, String.ofList_toList]
    have named : DangerVerdict.ofSigns (.ofSnapshot s) = .keywordOnly := by decide +kernel
    have word : "mint".toList <+: twoLineName.toList := by decide
    exact ⟨known, Or.inr ⟨named, "mint", by decide, word⟩⟩
  have broken : '\n' ∈ twoLineName.toList := by decide
  have torn : ¬ s.analyze.Framed := by
    rw [framed_analyze_iff]
    exact fun whole => whole twoLineName copied broken
  refine ⟨torn, fun length => torn ?_⟩
  -- If there are as many lines as there should be, no name that is copied has a line break.
  rw [length_lines_summary] at length
  have whole : (s.quoted.map breaks).sum = 0 := by omega
  rw [framed_analyze_iff, ← forall_mem_quoted_iff]
  rw [List.sum_eq_zero_iff_forall_eq_nat, List.forall_mem_map] at whole
  exact fun name mem => breaks_eq_zero_iff.mp (whole name mem)

end Snapshot

end EvmRisk
