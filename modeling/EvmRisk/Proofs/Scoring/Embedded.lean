import EvmRisk.Proofs.Scoring.Ladders
import EvmRisk.Proofs.Scoring.Monotone

/-!
# Instructions inside selectors

Code is searched for digits, so the byte of an instruction also counts where its two digits stand
inside a selector, even across the border of two bytes. Of all the selectors that are looked for,
four have a grave instruction inside (`Signature.filter_embeds`), and none of them belongs to the
table of dangerous functions: two are of owners and two of proxies. Code with one of the four is
therefore counted against twice, and never of low risk; code with `unpause()` and one of the others
fails (`Snapshot.analyze_of_embedding`).
-/

namespace EvmRisk

namespace Signature

/-- Gives the contract to another owner. -/
def transferOwnership : Marker := .selector 0xf2 0xfd 0xe3 0x8b

/-- Lets transfers go on. -/
def unpause : Marker := .selector 0x3f 0x4b 0xa8 0x3a

/-- Gives a proxy to another admin. -/
def changeAdmin : Marker := .selector 0x8f 0x28 0x39 0x70

/-- The selectors with a grave instruction inside. -/
def embedding : List Marker := [upgradeToAndCall, changeAdmin, transferOwnership, unpause]

/-- The instruction inside one of these selectors. It stands across two bytes in `unpause` and in
`changeAdmin`. -/
def instructionIn (k : Marker) : Marker := if k = unpause then .opcode 0xf4 else .opcode 0xf2

/-- The marker of some dangerous instruction stands in the digits of `k`. -/
def embeds (k : Marker) : Bool := dangerousOpcodes.any fun o => Text.occursIn o.marker.hex k.hex

/-- **Of all selectors in the tables, the four in `embedding` have a grave instruction inside.** -/
theorem filter_embeds :
    ((proxySelectors ++ ownerSelectors ++ dangerousSelectors).map marker).filter embeds =
      embedding := by decide

example : embedding.map (fun k => String.ofList k.hex) =
    ["4f1ef286", "8f283970", "f2fde38b", "3f4ba83a"] := by decide

/-- The selectors of `embedding` are in the tables of owners or of proxies. -/
theorem mem_tables_of_embedding {k : Marker} (h : k ∈ embedding) :
    (∃ s ∈ ownerSelectors, s.marker = k) ∨ ∃ s ∈ proxySelectors, s.marker = k := by
  revert k
  decide

theorem unpause_mem_ownerSelectors : ∃ s ∈ ownerSelectors, s.marker = unpause := by decide

/-- The digits of `instructionIn k` stand in those of `k`. -/
theorem instructionIn_infix {k : Marker} (h : k ∈ embedding) :
    (instructionIn k).hex <:+: k.hex := by
  have all : ∀ k ∈ embedding, Text.occursIn (instructionIn k).hex k.hex = true := by decide
  exact Text.occursIn_iff.mp (all k h)

theorem mem_dangerousOpcodes (k : Marker) :
    ∃ s ∈ dangerousOpcodes, s.tier = .high ∧ s.marker = instructionIn k := by
  unfold instructionIn
  split_ifs <;> decide

end Signature

namespace Snapshot

open Signature

variable {s : Snapshot} {code : Bytecode}

/-! ### What an embedding selector does to each verdict -/

theorem mem_detect (hs : s.bytecode = some code) {table : List Signature} {o : Signature}
    (ho : o ∈ table) (found : o.marker.hex <:+: code.hex.toList) : o ∈ detect s.bytecode table := by
  rw [hs]
  exact mem_detect_iff.mpr ⟨ho, found⟩

theorem hasBytecode_dangerSigns (hs : s.bytecode = some code) :
    (DangerSigns.ofSnapshot s).hasBytecode = true := by
  show s.bytecode.isSome = true
  rw [hs, Option.isSome_some]

/-- If the code has a selector `k` of `embedding`, `instructionIn k` is found in it. -/
theorem exists_instruction (hs : s.bytecode = some code) {k : Marker} (hk : k ∈ embedding)
    (found : k.hex <:+: code.hex.toList) :
    ∃ o ∈ (DangerSigns.ofSnapshot s).inCode, o.tier = .high ∧ o.marker = instructionIn k := by
  obtain ⟨o, table, grave, same⟩ := mem_dangerousOpcodes k
  -- The search does not care where bytes begin, so what is inside the selector is inside the code.
  have inside : o.marker.hex <:+: k.hex := same ▸ instructionIn_infix hk
  have listed : o ∈ (DangerSigns.ofSnapshot s).opcodes := mem_detect hs table (inside.trans found)
  exact ⟨o, List.mem_append_right _ listed, grave, same⟩

/-- Selectors of `embedding` with different instructions inside count one by one for `Tier.high`. -/
theorem le_count_high (hs : s.bytecode = some code) {ks : List Marker} (hks : ks ⊆ embedding)
    (found : ∀ k ∈ ks, k.hex <:+: code.hex.toList) (distinct : (ks.map instructionIn).Nodup) :
    ks.length ≤ (DangerSigns.ofSnapshot s).count .high := by
  rw [← List.length_map instructionIn]
  refine DangerSigns.length_le_count distinct fun m hm => ?_
  obtain ⟨k, hk, rfl⟩ := List.mem_map.mp hm
  exact exists_instruction hs (hks hk) (found k hk)

/-- A selector of `ownerSelectors` in the code costs `8` or more. -/
theorem eight_le_verdictPenalty_owner (hs : s.bytecode = some code) {k : Marker}
    (table : ∃ o ∈ ownerSelectors, o.marker = k) (found : k.hex <:+: code.hex.toList) :
    8 ≤ s.verdictPenalty .ownerPrivileges := by
  obtain ⟨o, ho, rfl⟩ := table
  have listed : o ∈ (OwnerSigns.ofSnapshot s).selectors := mem_detect hs ho found
  exact OwnerVerdict.eight_le_penalty (OwnerSigns.totalCount_pos_of_mem listed)

/-- A selector of `proxySelectors` in the code costs `5` or more. -/
theorem five_le_verdictPenalty_proxy (hs : s.bytecode = some code) {k : Marker}
    (table : ∃ o ∈ proxySelectors, o.marker = k) (found : k.hex <:+: code.hex.toList) :
    5 ≤ s.verdictPenalty .proxy := by
  obtain ⟨o, ho, rfl⟩ := table
  have listed : o ∈ (ProxySigns.ofSnapshot s).selectors := mem_detect hs ho found
  exact ProxyVerdict.five_le_penalty (ProxySigns.isProxy_of_mem listed)

/-- A selector of `embedding` makes the verdict on danger `singleHigh` or `multipleHigh`. -/
theorem danger_of_embedding (hs : s.bytecode = some code) {k : Marker} (hk : k ∈ embedding)
    (found : k.hex <:+: code.hex.toList) :
    DangerVerdict.ofSigns (.ofSnapshot s) = .singleHigh ∨
      DangerVerdict.ofSigns (.ofSnapshot s) = .multipleHigh := by
  have bytes := hasBytecode_dangerSigns hs
  have single : [k] ⊆ embedding := by simpa using hk
  have one : 1 ≤ (DangerSigns.ofSnapshot s).count .high :=
    le_count_high hs single (List.forall_mem_singleton.mpr found) (List.pairwise_singleton _ _)
  rcases Nat.lt_or_ge ((DangerSigns.ofSnapshot s).count .high) 2 with few | many
  · exact Or.inl (DangerVerdict.ofSigns_eq_iff.mpr ⟨Or.inr bytes, by omega⟩)
  · exact Or.inr (DangerVerdict.ofSigns_eq_iff.mpr ⟨Or.inr bytes, many⟩)

/-- Two selectors of `embedding` with different instructions inside make it `multipleHigh`. -/
theorem fail_of_embedding (hs : s.bytecode = some code) {k l : Marker} (hk : k ∈ embedding)
    (hl : l ∈ embedding) (foundK : k.hex <:+: code.hex.toList)
    (foundL : l.hex <:+: code.hex.toList) (distinct : instructionIn k ≠ instructionIn l) :
    DangerVerdict.ofSigns (.ofSnapshot s) = .multipleHigh := by
  refine DangerVerdict.ofSigns_eq_iff.mpr ⟨Or.inr (hasBytecode_dangerSigns hs), ?_⟩
  have both : [k, l] ⊆ embedding := List.cons_subset.mpr ⟨hk, by simpa using hl⟩
  refine le_count_high hs both (List.forall_mem_cons.mpr ⟨foundK, ?_⟩) ?_
  · exact List.forall_mem_singleton.mpr foundL
  · simpa using distinct

/-- A selector of `embedding` costs `5` or more besides, on another indicator than danger. -/
theorem exists_five_le_verdictPenalty (hs : s.bytecode = some code) {k : Marker}
    (hk : k ∈ embedding) (found : k.hex <:+: code.hex.toList) :
    ∃ i, i ≠ .dangerousFunctions ∧ 5 ≤ (s.verdictPenalty i).toNat := by
  rcases mem_tables_of_embedding hk with owner | proxy
  · have eight : 8 ≤ (s.verdictPenalty .ownerPrivileges).toNat :=
      eight_le_verdictPenalty_owner hs owner found
    exact ⟨.ownerPrivileges, by decide, by omega⟩
  · exact ⟨.proxy, by decide, five_le_verdictPenalty_proxy hs proxy found⟩

/-! ### What it does to the score -/

/-- **An instruction inside a selector is found wherever the selector stands in the code**, and what
the selector itself gives away costs something besides. With the selector of `unpause()`, which has
another instruction inside than the rest, the contract fails. -/
theorem analyze_of_embedding (hs : s.bytecode = some code) {k : Marker} (hk : k ∈ embedding)
    (found : k.hex <:+: code.hex.toList) :
    ((DangerVerdict.ofSigns (.ofSnapshot s) = .singleHigh ∨
        DangerVerdict.ofSigns (.ofSnapshot s) = .multipleHigh) ∧
      s.analyze.score.toNat ≤ 77 ∧ s.analyze.label ≠ .low) ∧
    (k ≠ unpause → unpause.hex <:+: code.hex.toList →
      DangerVerdict.ofSigns (.ofSnapshot s) = .multipleHigh ∧
      (∃ f, s.analyze.findings.get? .dangerousFunctions = some f ∧ f.status = .fail ∧
        f.penalty = 30) ∧
      s.analyze.score.toNat ≤ 62) := by
  have score := s.toNat_score_analyze.2
  refine ⟨?_, fun other foundUnpause => ?_⟩
  · have verdict := danger_of_embedding hs hk found
    have eighteen : 18 ≤ (s.verdictPenalty .dangerousFunctions).toNat := by
      rcases verdict with h | h <;> rw [verdictPenalty, h] <;> decide
    -- 18 + 5 points are gone at least.
    obtain ⟨i, hi, five⟩ := exists_five_le_verdictPenalty hs hk found
    have both := s.verdictPenalty_add_le hi
    exact ⟨verdict, by omega, fun low => by have := s.label_analyze_eq_low_iff.mp low; omega⟩
  · have listed : unpause ∈ embedding := by decide
    have distinct : instructionIn k ≠ instructionIn unpause := by
      rw [instructionIn, instructionIn, if_neg other, if_pos rfl]
      decide
    have verdict := fail_of_embedding hs hk listed found foundUnpause distinct
    have thirty : s.verdictPenalty .dangerousFunctions = 30 := by rw [verdictPenalty, verdict]; rfl
    have eight : 8 ≤ (s.verdictPenalty .ownerPrivileges).toNat :=
      eight_le_verdictPenalty_owner hs unpause_mem_ownerSelectors foundUnpause
    -- 30 + 8 points are gone at least, since `unpause()` is a control of the owner.
    have both :=
      s.verdictPenalty_add_le (i := .ownerPrivileges) (j := .dangerousFunctions) (by decide)
    rw [thirty, show (30 : UInt8).toNat = 30 from rfl] at both
    obtain ⟨f, hf, penalty, graded⟩ := s.exists_finding_analyze (i := .dangerousFunctions) rfl
    rw [thirty] at penalty
    exact ⟨verdict, ⟨f, hf, graded.fail_iff.mpr penalty, penalty⟩, by omega⟩

/-- Code with the selector of `unpause()` and, half a byte further on than bytes begin, that of
`changeAdmin(address)`. -/
theorem analyze_of_embedding_unpause :
    let code : Bytecode := ⟨"603f4ba83a18f28397005b"⟩
    let s : Snapshot := { bytecode := some code, abi := some [.ofFunction "transfer"] }
    (s.bytecode = some code ∧ changeAdmin ∈ embedding ∧ changeAdmin.hex <:+: code.hex.toList ∧
        changeAdmin ≠ unpause ∧ unpause.hex <:+: code.hex.toList) ∧
      DangerVerdict.ofSigns (.ofSnapshot s) = .multipleHigh ∧
      (∃ f, s.analyze.findings.get? .dangerousFunctions = some f ∧ f.status = .fail ∧
        f.penalty = 30) ∧
      s.analyze.score.toNat ≤ 62 ∧ s.analyze.label ≠ .low := by
  intro code s
  have listed : changeAdmin ∈ embedding := by decide
  have other : changeAdmin ≠ unpause := by decide
  have found : changeAdmin.hex <:+: code.hex.toList := Text.occursIn_iff.mp (by decide)
  have foundUnpause : unpause.hex <:+: code.hex.toList := Text.occursIn_iff.mp (by decide)
  obtain ⟨⟨-, -, label⟩, fails⟩ := analyze_of_embedding (s := s) rfl listed found
  obtain ⟨verdict, finding, score⟩ := fails other foundUnpause
  exact ⟨⟨rfl, listed, found, other, foundUnpause⟩, verdict, finding, score, label⟩

end Snapshot

end EvmRisk
