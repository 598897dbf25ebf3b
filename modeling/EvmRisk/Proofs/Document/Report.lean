import EvmRisk.Assessment
import EvmRisk.Proofs.Json.Records
import EvmRisk.Proofs.Scoring.Account

/-!
# Reading assessments

An assessment is read back from what is written for it and from its report on one line or on many,
as long as its evidence keeps its meaning (`Findings.PlainEvidence`): the readers find their fields
by name and pass over what the report adds. The evidence of every analysis without a market is of
this kind (`Snapshot.plainEvidence_analyze`), since all numbers in it are counts.
-/

namespace EvmRisk

open Json (Node Value)

/-! ### Names and counts -/

theorem Indicator.ofNode?_key (i : Indicator) : ofNode? (Value.string i.key).toNode = some i := by
  cases i <;> rfl

theorem Status.ofNode?_text (v : Status) : ofNode? (Value.string v.text).toNode = some v := by
  cases v <;> rfl

theorem RiskLabel.ofNode?_text (l : RiskLabel) : ofNode? (Value.string l.text).toNode = some l := by
  cases l <;> rfl

/-- A number below the bound is read back. -/
theorem toNatBelow?_ofNat {n bound : Nat} (h : n < bound) (small : bound ≤ 2 ^ 64) :
    Node.toNatBelow? bound (Value.ofNat n).toNode = some n := by
  have value := Json.Numeral.value?_ofInt n (by omega) (by omega)
  simp only [Value.ofNat, Value.toNode, Node.toNatBelow?, value]
  rw [if_pos (by omega), Int.toNat_natCast]

/-- **A byte is read back.** -/
theorem toNatBelow?_toNat (n : UInt8) :
    Node.toNatBelow? UInt8.size (Value.ofNat n.toNat).toNode = some n.toNat :=
  toNatBelow?_ofNat n.toNat_lt_size (by decide)

/-! ### Findings -/

/-- **A finding is read back**, if its evidence is plain. -/
theorem Finding.ofNode?_toValue {f : Finding} {levels : Nat} (h : f.evidence.Plain levels) :
    ofNode? (levels + 1) f.toValue.toNode = some f := by
  let members : List (String × Value) := [("key", .string f.indicator.key),
    ("status", .string f.status.text), ("reason", .string f.reason),
    ("penalty", .ofNat f.penalty.toNat), ("evidence", f.evidence)]
  have key : members.lookup "key" = some (.string f.indicator.key) := rfl
  have status : members.lookup "status" = some (.string f.status.text) := rfl
  have reason : members.lookup "reason" = some (.string f.reason) := rfl
  have penalty : members.lookup "penalty" = some (.ofNat f.penalty.toNat) := rfl
  have evidence : members.lookup "evidence" = some f.evidence := rfl
  have text : Node.toString? (Value.string f.reason).toNode = some f.reason := rfl
  rw [ofNode?, toValue, Value.fields?_object members (by simp [members])]
  simp only [key, status, reason, penalty, evidence, text, Node.required, Option.map_some,
    Option.bind_eq_bind, Option.bind_some, Indicator.ofNode?_key, Status.ofNode?_text,
    toNatBelow?_toNat, h.ofNode?_toNode, Nat.add_sub_cancel, UInt8.ofNat_toNat]

namespace Findings

/-- The evidence of every finding is plain, so that it keeps its meaning in a document. -/
def PlainEvidence (fs : Findings) (levels : Nat) : Prop :=
  ∀ i f, fs.get? i = some f → f.evidence.Plain levels

/-- Filing the entries under `is` copies them and leaves the others alone. -/
theorem get?_foldl_put (fs acc : Findings) (is : List Indicator) (j : Indicator) :
    ((is.filterMap fun i => (fs.get? i).map (i, ·)).foldl (fun fs e => fs.put e.1 e.2) acc).get? j =
      if j ∈ is then (fs.get? j).or (acc.get? j) else acc.get? j := by
  induction is generalizing acc with
  | nil => rfl
  | cons i is ih =>
    -- Under `i` there is nothing to copy, or it is copied first and perhaps copied again.
    cases hf : fs.get? i with
    | none =>
      rw [List.filterMap_cons, hf, Option.map_none, ih]
      by_cases same : j = i
      · simp [same, hf]
      · simp [same]
    | some f =>
      rw [List.filterMap_cons, hf, Option.map_some, List.foldl_cons, ih]
      by_cases same : j = i
      · simp [same, hf, put]
      · simp [same, put]

/-- **Findings are made up by their entries.** -/
theorem foldl_put_entries (fs : Findings) :
    fs.entries.foldl (fun fs e => fs.put e.1 e.2) empty = fs := by
  ext1
  funext j
  rw [entries, get?_foldl_put, if_pos j.mem_all]
  cases fs.get? j <;> rfl

/-- **Findings are read back**, if their evidence is plain. A finding may stand under an indicator
that is not its own. -/
theorem ofNode?_toValue {fs : Findings} {levels : Nat} (h : fs.PlainEvidence levels) :
    ofNode? (levels + 2) fs.toValue.toNode = some fs := by
  let named := fs.entries.map fun e => (e.1.key, e.2)
  have tree : fs.toValue.toNode = .ofNamed (named.map fun m => (m.1, m.2.toValue.toNode)) := by
    rw [toValue, Value.toNode_object, List.map_map, List.map_map]
    rfl
  have members : fs.toValue.toNode.toMembers? (Finding.ofNode? (levels + 1)) = some named := by
    rw [tree]
    refine Node.toMembers?_ofNamed (f := fun f : Finding => f.toValue.toNode) fun m hm => ?_
    obtain ⟨e, he, rfl⟩ := List.mem_map.mp hm
    exact Finding.ofNode?_toValue (h _ _ (exists_of_mem_entries he))
  have filed : named.mapM (fun m => (Indicator.ofKey? m.1).map (·, m.2)) = some fs.entries :=
    mapM_map_eq_some fun e _ => by rw [Indicator.ofKey?_key, Option.map_some]
  simp only [ofNode?, Nat.add_succ_sub_one, members, filed, Option.bind_eq_bind, Option.bind_some,
    foldl_put_entries]

end Findings

/-! ### Assessments -/

namespace Assessment

/-- An assessment is read from its members, with any other members behind them. -/
theorem ofNode?_members {a : Assessment} {levels : Nat} (h : a.findings.PlainEvidence levels)
    {others : List (String × Value)}
    (nodup : ((a.members ++ others).map Prod.fst).Nodup) :
    ofNode? (levels + 3) (Value.object (a.members ++ others)).toNode = some a := by
  have fields := Value.fields?_object _ nodup fieldNames fieldNames.length
  have findings : (a.members ++ others).lookup "findings" = some a.findings.toValue := rfl
  have score : (a.members ++ others).lookup "score" = some (.ofNat a.score.toNat) := rfl
  have label : (a.members ++ others).lookup "label" = some (.string a.label.text) := rfl
  simp only [ofNode?, fields, findings, score, label, Option.map_some, Node.required,
    Option.bind_eq_bind, Option.bind_some, Nat.add_succ_sub_one, Findings.ofNode?_toValue h,
    toNatBelow?_toNat, RiskLabel.ofNode?_text, UInt8.ofNat_toNat]

/-- `a` is read back from each of its three texts. -/
structure ReadBack (a : Assessment) : Prop where
  result : read? a.toValue.compact = some a
  report : read? a.report.compact = some a
  pretty : read? a.report.pretty = some a

/-- An assessment with plain evidence is read back from its texts. -/
theorem readBack_of_plain {a : Assessment} (h : a.findings.PlainEvidence 100) : a.ReadBack := by
  -- Three brackets are open around a piece of evidence.
  have deeper : a.findings.PlainEvidence 124 := fun i f hf => (h i f hf).mono (by decide)
  have result : ofNode? Json.depthBound a.toValue.toNode = some a := by
    rw [toValue, ← List.append_nil a.members]
    exact ofNode?_members deeper (by simp [members])
  have report : ofNode? Json.depthBound a.report.toNode = some a :=
    ofNode?_members deeper (by simp [members])
  refine ⟨?_, ?_, ?_⟩
  · rw [read?, Value.read?_compact, Option.bind_some, result]
  · rw [read?, Value.read?_compact, Option.bind_some, report]
  · rw [read?, Value.read?_pretty, Option.bind_some, report]

end Assessment

/-! ### The evidence of analyses -/

theorem plain_ofNat {n levels : Nat} (h : n < 2 ^ 64) : (Value.ofNat n).Plain levels :=
  .int (by omega) (by omega)

theorem plain_ofString? (s : Option String) {levels : Nat} : (Value.ofString? s).Plain levels := by
  cases s with
  | none => exact .null
  | some s => exact .string s

theorem plain_array_map {α : Type} {f : α → Value} {levels : Nat} {xs : List α}
    (h : ∀ x ∈ xs, (f x).Plain levels) : (Value.array (xs.map f)).Plain (levels + 1) := by
  refine .array fun v hv => ?_
  obtain ⟨x, hx, rfl⟩ := List.mem_map.mp hv
  exact h x hx

/-- The evidence of signatures is plain. -/
theorem Signature.plain_evidenceList (found : List Signature) :
    (evidenceList found).Plain 2 := by
  refine plain_array_map fun s _ => ?_
  refine .object (Value.arranged_of_names (by simp only [List.map]; decide)) ?_
  simp [Value.Plain.string]

/-- No more signatures are detected than the table has. -/
theorem Signature.length_detect_le (code : Option Bytecode) (table : List Signature) :
    (detect code table).length ≤ table.length := by
  cases code with
  | none => exact Nat.zero_le _
  | some code => exact List.length_filter_le _ _

/-- At most one hit for each name is grave, since only one word is. -/
theorem OwnerSigns.length_grave_le (place : Place) (names : List String) :
    ((Keyword.hits place Keyword.ownerWords names).filter isGrave).length ≤ names.length := by
  induction names with
  | nil => exact Nat.le_refl _
  | cons name names ih =>
    have one : (((Keyword.ownerWords.filter fun word => place.finds word name).map
        fun word => (⟨name, word⟩ : KeywordHit)).filter isGrave).length ≤ 1 := by
      rw [← List.countP_eq_length_filter, List.countP_map, List.countP_filter]
      have grave : Keyword.ownerWords.countP Keyword.graveOwnerWords.contains ≤ 1 := by decide
      refine (List.countP_mono_left fun word _ h => ?_).trans grave
      exact (Bool.and_eq_true_iff.mp h).1
    have both : Keyword.hits place Keyword.ownerWords (name :: names) =
        ((Keyword.ownerWords.filter fun word => place.finds word name).map
          fun word => (⟨name, word⟩ : KeywordHit)) ++
            Keyword.hits place Keyword.ownerWords names := List.flatMap_cons
    rw [both, List.filter_append, List.length_append, List.length_cons]
    omega

/-- The different markers of a tier are no more than the signatures in the code. -/
theorem DangerSigns.count_le (d : DangerSigns) (tier : Tier) : d.count tier ≤ d.inCode.length := by
  refine (length_eraseDups_le _).trans ?_
  rw [List.length_map]
  exact List.length_filter_le _ _

namespace Snapshot

/-- There are no more function names than entries. -/
theorem length_functionNames_le (s : Snapshot) :
    s.functionNames.length ≤ (s.abi.getD []).length := by
  rw [functionNames, Abi.functionNames, List.length_map]
  exact List.length_filterMap_le _ _

/-- The interface of `s` is a list that a machine of 64 bits can hold. -/
def Sized (s : Snapshot) : Prop := (s.abi.getD []).length < 2 ^ 63

theorem plain_sourceEvidence {s : Snapshot} (h : s.Sized) : (SourceVerdict.evidence s).Plain 1 := by
  have names := s.length_functionNames_le
  have bound : (s.abi.getD []).length < 2 ^ 63 := h
  have entries : ((s.abi.map fun abi => Value.ofNat abi.length).getD .null).Plain 0 := by
    cases hs : s.abi with
    | none => exact .null
    | some abi =>
      rw [hs, Option.getD_some] at bound
      exact plain_ofNat (by omega)
  have verified : ((s.explorer.map fun e => Value.bool e.isVerified).getD .null).Plain 0 := by
    cases s.explorer with
    | none => exact .null
    | some e => exact .bool _
  refine .object (Value.arranged_of_names (by simp only [List.map]; decide)) ?_
  simp only [List.forall_mem_cons, List.not_mem_nil, false_implies, implies_true, and_true]
  exact ⟨entries, plain_ofNat (by omega), plain_ofString? _, .bool _, verified⟩

theorem plain_proxyEvidence (p : ProxySigns) : p.evidence.Plain 3 := by
  refine .object (Value.arranged_of_names (by simp only [List.map]; decide)) ?_
  simp only [List.forall_mem_cons, List.not_mem_nil, false_implies, implies_true, and_true]
  exact ⟨.bool _, .bool _, plain_ofString? _, plain_ofString? _,
    Signature.plain_evidenceList _, plain_array_map fun _ _ => .string _, .bool _⟩

/-- The evidence about an owner is plain, if its counts fit into 64 bits. -/
theorem plain_ownerEvidence {s : Snapshot} (h : s.Sized) :
    (OwnerSigns.ofSnapshot s).evidence.Plain 3 := by
  have grave := OwnerSigns.length_grave_le .anywhere s.functionNames
  have names := s.length_functionNames_le
  have bound : (s.abi.getD []).length < 2 ^ 63 := h
  have selectors : (Signature.ofTier .high (OwnerSigns.ofSnapshot s).selectors).length ≤
      Signature.ownerSelectors.length :=
    (List.length_filter_le _ _).trans (Signature.length_detect_le _ _)
  have few : Signature.ownerSelectors.length ≤ 100 := by decide
  have count : (OwnerSigns.ofSnapshot s).highRiskCount < 2 ^ 64 := by
    have sum : (OwnerSigns.ofSnapshot s).highRiskCount ≤ s.functionNames.length + 100 :=
      Nat.add_le_add grave (selectors.trans few)
    omega
  refine .object (Value.arranged_of_names (by simp only [List.map]; decide)) ?_
  simp only [List.forall_mem_cons, List.not_mem_nil, false_implies, implies_true, and_true]
  refine ⟨.bool _, plain_array_map fun hit _ => ?_, .bool _, plain_ofNat count,
    Signature.plain_evidenceList _⟩
  refine .object (Value.arranged_of_names (by simp only [List.map]; decide)) ?_
  simp [Value.Plain.string, Value.Plain.bool]

/-- The evidence about danger is plain. -/
theorem plain_dangerEvidence (v : DangerVerdict) (s : Snapshot) :
    (v.evidence (DangerSigns.ofSnapshot s)).Plain 3 := by
  have count (tier : Tier) : (DangerSigns.ofSnapshot s).count tier < 2 ^ 64 := by
    have found : (DangerSigns.ofSnapshot s).inCode.length ≤
        Signature.dangerousSelectors.length + Signature.dangerousOpcodes.length := by
      rw [DangerSigns.inCode, List.length_append]
      exact Nat.add_le_add (Signature.length_detect_le _ _) (Signature.length_detect_le _ _)
    have few : Signature.dangerousSelectors.length + Signature.dangerousOpcodes.length ≤ 100 := by
      decide
    have := (DangerSigns.ofSnapshot s).count_le tier
    omega
  refine .object (Value.arranged_of_names (by simp only [List.map]; decide)) ?_
  simp only [List.forall_mem_cons, List.not_mem_nil, false_implies, implies_true, and_true]
  refine ⟨plain_array_map fun hit _ => ?_, plain_ofNat (count _), plain_ofNat (count _),
    Signature.plain_evidenceList _, .string _, Signature.plain_evidenceList _⟩
  refine .object (Value.arranged_of_names (by simp only [List.map]; decide)) ?_
  simp [Value.Plain.string]

/-- **The evidence of an analysis without a market is plain.** -/
theorem plainEvidence_analyze {s : Snapshot} (market : s.market = none) (h : s.Sized) :
    s.analyze.findings.PlainEvidence 100 := by
  intro i f hf
  rw [get?_analyze] at hf
  cases i with
  | verifiedSource =>
    obtain rfl := Option.some.inj hf
    exact (plain_sourceEvidence h).mono (by decide)
  | proxy =>
    obtain rfl := Option.some.inj hf
    exact (plain_proxyEvidence _).mono (by decide)
  | ownerPrivileges =>
    obtain rfl := Option.some.inj hf
    exact (plain_ownerEvidence h).mono (by decide)
  | dangerousFunctions =>
    obtain rfl := Option.some.inj hf
    exact (plain_dangerEvidence _ s).mono (by decide)
  | liquidity => exact absurd hf (by simp [findingOn, market])
  | holderDistribution => exact absurd hf (by simp [findingOn, market])

end Snapshot

namespace Assessment

/-- **The texts of an assessment lose nothing**, if its evidence is plain, which is so for every
analysis without a market. -/
theorem lossless_texts :
    (∀ a : Assessment, a.findings.PlainEvidence 100 → a.ReadBack) ∧
      ∀ s : Snapshot, s.market = none → s.Sized → s.analyze.ReadBack :=
  ⟨fun _ h => readBack_of_plain h,
    fun _ market h => readBack_of_plain (Snapshot.plainEvidence_analyze market h)⟩

/-- A finding that stands under an indicator not its own, with the largest penalty and number, and
the analysis of code alone. -/
theorem lossless_texts_misfiled :
    let evidence : Value := .array [.int (2 ^ 64 - 1), .object [("", .null), ("\x00", .array [])]]
    let f : Finding := ⟨.liquidity, .fail, "\"\n\\", 255, evidence⟩
    let a : Assessment := ⟨Findings.empty.put .proxy f, 7, .low⟩
    let s : Snapshot := .ofParts (some "0x3659cfe6ff") none none
    a.findings.PlainEvidence 100 ∧ a.ReadBack ∧ s.market = none ∧ s.Sized ∧ s.analyze.ReadBack := by
  intro evidence f a s
  have plain : evidence.Plain 100 := by
    refine .array (List.forall_mem_cons.mpr ⟨.int (by decide) (by decide), ?_⟩)
    refine List.forall_mem_singleton.mpr (.object (Value.arranged_of_names (by decide)) ?_)
    exact List.forall_mem_cons.mpr ⟨.null, List.forall_mem_singleton.mpr (.array (by simp))⟩
  have held : a.findings.PlainEvidence 100 := by
    intro i g hg
    cases i with
    | proxy =>
      obtain rfl := Option.some.inj hg
      exact plain
    | _ => exact absurd hg (by simp [a, Findings.put, Findings.empty])
  have sized : s.Sized := by
    show 0 < 2 ^ 63
    decide
  exact ⟨held, lossless_texts.1 a held, rfl, sized, lossless_texts.2 s rfl sized⟩

end Assessment

end EvmRisk
