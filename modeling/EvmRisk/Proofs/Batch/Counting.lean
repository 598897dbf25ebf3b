import EvmRisk.CommandLine
import EvmRisk.Proofs.Json.Values
import EvmRisk.Proofs.Scoring.Account
import Mathlib.Data.List.Nodup

/-!
# Counting is exact

What a tally holds is compared with what came of the snapshots, taken as a whole: the assessments
among it, all their findings together, and the failures. A tally is `Tally.Exact` if its five counts
are the numbers, and the sum, of these. Counting one more result keeps it exact (`Exact.count`), so
it is exact after every batch (`exact_foldl`), and since exact tallies of the same results are equal
(`Exact.eq`), the order of the results does not matter.

The statistics show the counts under the names of labels and indicators, those that are not zero and
no others (`mem_named_iff`). `Tally.faithful_stats` draws all this together.
-/

namespace EvmRisk

/-! ### Names -/

theorem RiskLabel.mem_all (l : RiskLabel) : l ∈ all := by cases l <;> decide

theorem RiskLabel.nodup_all : all.Nodup := by decide

/-- Labels have different texts. -/
theorem RiskLabel.text_injective : Function.Injective RiskLabel.text := by
  intro l m h
  cases l <;> cases m <;> first | rfl | exact absurd h (by decide)

/-- Indicators have different keys. -/
theorem Indicator.key_injective : Function.Injective Indicator.key := by
  intro i j h
  have found := congrArg ofKey? h
  rw [ofKey?_key, ofKey?_key] at found
  exact Option.some.inj found

namespace Batch

/-! ### What is to be counted -/

/-- The results of assessing snapshots, one after the other. -/
abbrev Results := List (Except Fault Assessment)

/-- The assessments among what came of snapshots. -/
def assessed (results : Results) : List Assessment :=
  results.filterMap Except.toOption

/-- How many of the snapshots could not be read. -/
def failures (results : Results) : Nat :=
  results.countP fun r => r.toOption.isNone

/-- The sum of the scores. -/
def scoreTotal (results : Results) : Nat :=
  ((assessed results).map fun a => a.score.toNat).sum

/-- How many assessments have a label. -/
def labelled (results : Results) (l : RiskLabel) : Nat :=
  (assessed results).countP fun a => a.label = l

/-- How many findings of all the assessments are about an indicator and not passed, wherever they
stand. -/
def flags (results : Results) (i : Indicator) : Nat :=
  ((assessed results).flatMap fun a => a.findings.toList).countP fun f =>
    f.indicator = i && !f.isPass

theorem assessed_append (results results' : Results) :
    assessed (results ++ results') = assessed results ++ assessed results' :=
  List.filterMap_append

theorem assessed_perm {results results' : Results} (h : results.Perm results') :
    (assessed results).Perm (assessed results') := h.filterMap _

/-- Every assessment has one of the three labels. -/
theorem sum_labelled (results : Results) :
    (RiskLabel.all.map (labelled results)).sum = (assessed results).length := by
  unfold labelled
  induction assessed results with
  | nil => rfl
  | cons a as ih =>
    simp only [RiskLabel.all, List.map_cons, List.map_nil, List.sum_cons, List.sum_nil,
      List.countP_cons, List.length_cons] at ih ⊢
    cases a.label <;> simp <;> omega

namespace Tally

/-! ### One result after the other -/

/-- A tally of exactly these results. -/
structure Exact (t : Tally) (results : Results) : Prop where
  analyzed : t.analyzed = (assessed results).length
  failed : t.failed = failures results
  scoreSum : t.scoreSum = scoreTotal results
  labels : ∀ l, t.labels l = labelled results l
  flagged : ∀ i, t.flagged i = flags results i

theorem exact_empty : Exact empty [] := ⟨rfl, rfl, rfl, fun _ => rfl, fun _ => rfl⟩

/-- **Counting one more result keeps a tally exact.** -/
theorem Exact.count {t : Tally} {results : Results} (h : Exact t results)
    (r : Except Fault Assessment) : Exact (CommandLine.count t r) (results ++ [r]) := by
  cases r with
  | ok a =>
    have one : assessed (results ++ [.ok a]) = assessed results ++ [a] :=
      assessed_append results [.ok a]
    constructor
    case analyzed => simp [CommandLine.count, record, h.analyzed, one]
    case failed => simp [CommandLine.count, record, h.failed, failures, Except.toOption]
    case scoreSum => simp [CommandLine.count, record, h.scoreSum, scoreTotal, one]
    case labels =>
      intro l
      simp [CommandLine.count, record, h.labels, labelled, one, List.countP_cons]
    case flagged =>
      intro i
      simp [CommandLine.count, record, h.flagged, flags, flagsOf, one]
  | error fault =>
    have none : assessed (results ++ [.error fault]) = assessed results := by
      rw [assessed_append]
      exact List.append_nil _
    constructor
    case analyzed => rw [none]; exact h.analyzed
    case failed => simp [CommandLine.count, recordFailure, h.failed, failures, Except.toOption]
    case scoreSum => rw [scoreTotal, none]; exact h.scoreSum
    case labels => intro l; rw [labelled, none]; exact h.labels l
    case flagged => intro i; rw [flags, none]; exact h.flagged i

/-- **Counting the results `more` keeps a tally exact**: it is exact for all results so far. -/
theorem Exact.foldl {t : Tally} {results : Results} (h : Exact t results)
    (more : Results) :
    Exact (more.foldl CommandLine.count t) (results ++ more) := by
  induction more generalizing t results with
  | nil =>
    rw [List.append_nil]
    exact h
  | cons r more ih =>
    -- The first of the further results joins those that were counted before.
    have next := ih (h.count r)
    rwa [List.append_assoc] at next

/-- A tally that starts empty is exact for the results counted. -/
theorem exact_foldl (results : Results) :
    Exact (results.foldl CommandLine.count empty) results := exact_empty.foldl results

/-- Two exact tallies of the same results are equal. -/
theorem Exact.eq {t u : Tally} {results : Results} (ht : Exact t results)
    (hu : Exact u results) : t = u := by
  obtain ⟨analyzed, failed, scoreSum, labels, flagged⟩ := t
  obtain ⟨analyzed', failed', scoreSum', labels', flagged'⟩ := u
  rw [Tally.mk.injEq]
  exact ⟨ht.analyzed.trans hu.analyzed.symm, ht.failed.trans hu.failed.symm,
    ht.scoreSum.trans hu.scoreSum.symm, funext fun l => (ht.labels l).trans (hu.labels l).symm,
    funext fun i => (ht.flagged i).trans (hu.flagged i).symm⟩

/-- A tally of results is exact for them in any other order. -/
theorem Exact.perm {t : Tally} {results results' : Results}
    (h : Exact t results) (p : results.Perm results') : Exact t results' where
  analyzed := h.analyzed.trans (assessed_perm p).length_eq
  failed := h.failed.trans (p.countP_eq _)
  scoreSum := h.scoreSum.trans ((assessed_perm p).map _).sum_nat
  labels l := (h.labels l).trans ((assessed_perm p).countP_eq _)
  flagged i := (h.flagged i).trans (((assessed_perm p).flatMap_right _).countP_eq _)

/-- If every finding stands under its own indicator, each assessment counts at most once for `i`. -/
theorem flags_le_length {results : Results}
    (h : ∀ a ∈ assessed results, a.findings.Filed) (i : Indicator) :
    flags results i ≤ (assessed results).length := by
  unfold flags
  revert h
  induction assessed results with
  | nil => exact fun _ => Nat.le_refl _
  | cons a as ih =>
    intro h
    obtain ⟨first, others⟩ := List.forall_mem_cons.mp h
    rw [List.flatMap_cons, List.countP_append, List.length_cons, Nat.add_comm]
    exact Nat.add_le_add (ih others) (first.countP_le_one i _)

/-! ### Counts under names -/

section Named

variable {α : Type} {names : α → String} {all : List α} {count : α → Nat}

/-- `named` has the counts that are not zero under their names, in some order. -/
theorem perm_named (inj : Function.Injective names) (distinct : all.Nodup) (count : α → Nat) :
    (named names all count).Perm
      ((all.filter fun x => 0 < count x).map fun x => (names x, count x)) := by
  refine Json.Value.perm_arrange ?_
  rw [List.map_map]
  exact List.Nodup.map inj (distinct.filter _)

/-- **The counts that are not zero stand under their names, and nothing else does.** -/
theorem mem_named_iff (inj : Function.Injective names) (distinct : all.Nodup) {name : String}
    {n : Nat} : (name, n) ∈ named names all count ↔
      ∃ x ∈ all, names x = name ∧ count x = n ∧ 0 < n := by
  rw [(perm_named inj distinct count).mem_iff, List.mem_map]
  constructor
  · rintro ⟨x, hx, same⟩
    obtain ⟨listed, positive⟩ := List.mem_filter.mp hx
    obtain ⟨rfl, rfl⟩ := Prod.mk.inj same
    exact ⟨x, listed, rfl, rfl, of_decide_eq_true positive⟩
  · rintro ⟨x, listed, rfl, rfl, positive⟩
    exact ⟨x, List.mem_filter.mpr ⟨listed, decide_eq_true positive⟩, rfl⟩

/-- The names in `named` are in their order. -/
theorem arranged_named : Json.Value.Arranged (named names all count) :=
  (Json.Value.arrange_spec _).1

/-- Looking up a name gives its count, which is `0` for a name that is not there. -/
theorem getD_lookup_named (inj : Function.Injective names) (distinct : all.Nodup) {x : α}
    (hx : x ∈ all) : ((named names all count).lookup (names x)).getD 0 = count x := by
  cases found : (named names all count).lookup (names x) with
  | some n =>
    obtain ⟨before, after, split, -⟩ := List.lookup_eq_some_iff.mp found
    have listed : (names x, n) ∈ named names all count := by simp [split]
    obtain ⟨y, -, same, rfl, -⟩ := (mem_named_iff inj distinct).mp listed
    rw [Option.getD_some, inj same]
  | none =>
    -- A count that is not zero would have an entry to be found.
    by_contra positive
    have listed : (names x, count x) ∈ named names all count :=
      (mem_named_iff inj distinct).mpr ⟨x, hx, rfl, rfl, Nat.pos_of_ne_zero (Ne.symm positive)⟩
    simpa using List.lookup_eq_none_iff.mp found _ listed

theorem sum_map_filter_pos (xs : List α) (count : α → Nat) :
    ((xs.filter fun x => 0 < count x).map count).sum = (xs.map count).sum := by
  induction xs with
  | nil => rfl
  | cons x xs ih =>
    by_cases positive : 0 < count x
    · simp [positive, ih]
    · simp [ih, Nat.eq_zero_of_not_pos positive]

/-- The counts in `named` add up to all counts. -/
theorem sum_named (inj : Function.Injective names) (distinct : all.Nodup) :
    ((named names all count).map Prod.snd).sum = (all.map count).sum := by
  rw [((perm_named inj distinct count).map Prod.snd).sum_nat, List.map_map]
  exact sum_map_filter_pos all count

end Named

end Tally

/-! ### Statistics -/

/-- Statistics of exactly these results. -/
structure Stats.Faithful (s : Stats) (results : Results) : Prop where
  analyzed : s.analyzed = (assessed results).length
  failed : s.failed = failures results
  countOf : ∀ l, s.countOf l = labelled results l
  /-- There is an entry for each label that was given, and no other one. -/
  mem_byLabel : ∀ name n, (name, n) ∈ s.byLabel ↔
    ∃ l : RiskLabel, l.text = name ∧ labelled results l = n ∧ 0 < n
  arranged_byLabel : Json.Value.Arranged s.byLabel
  /-- Every assessment is counted under one label. -/
  sum_byLabel : (s.byLabel.map Prod.snd).sum = s.analyzed
  /-- There is an entry for each indicator that was not passed, and no other one. -/
  mem_flagged : ∀ name n, (name, n) ∈ s.flagged ↔
    ∃ i : Indicator, i.key = name ∧ flags results i = n ∧ 0 < n
  arranged_flagged : Json.Value.Arranged s.flagged
  averageScore : s.averageScore = if assessed results = [] then 0
    else Float.ofNat (scoreTotal results) / Float.ofNat (assessed results).length

namespace Tally

/-- The statistics of an exact tally are faithful. -/
theorem Exact.faithful {t : Tally} {results : Results} (h : Exact t results)
    (periodStart periodEnd : Option Time.Instant) :
    (t.stats periodStart periodEnd).Faithful results := by
  have labels : t.labels = labelled results := funext h.labels
  have flagged : t.flagged = flags results := funext h.flagged
  constructor
  case analyzed => exact h.analyzed
  case failed => exact h.failed
  case countOf =>
    intro l
    rw [← h.labels]
    exact getD_lookup_named RiskLabel.text_injective RiskLabel.nodup_all l.mem_all
  case mem_byLabel =>
    intro name n
    rw [stats, labels, mem_named_iff RiskLabel.text_injective RiskLabel.nodup_all]
    exact exists_congr fun l => and_iff_right l.mem_all
  case arranged_byLabel => exact arranged_named
  case sum_byLabel =>
    rw [stats, labels, sum_named RiskLabel.text_injective RiskLabel.nodup_all, sum_labelled,
      h.analyzed]
  case mem_flagged =>
    intro name n
    rw [stats, flagged, mem_named_iff Indicator.key_injective Indicator.nodup_all]
    exact exists_congr fun i => and_iff_right i.mem_all
  case arranged_flagged => exact arranged_named
  case averageScore =>
    rw [stats, averageScore, h.analyzed, h.scoreSum]
    simp only [List.length_eq_zero_iff]

/-- **Every result is counted once**, after each part of a batch and in any order: the tally is
exact, and the statistics show it. If all the assessments are analyses, no indicator is counted more
often than there are assessments. -/
theorem faithful_stats (results : Results)
    (periodStart periodEnd : Option Time.Instant) :
    let tally := fun results : Results => results.foldl CommandLine.count empty
    let statsOf := fun results => (tally results).stats periodStart periodEnd
    (∀ before, before <+: results →
      (tally before).Exact before ∧ (statsOf before).Faithful before) ∧
    (∀ results', results.Perm results' → statsOf results' = statsOf results) ∧
    ((∀ a ∈ assessed results, ∃ s : Snapshot, s.analyze = a) →
      ∀ c ∈ (statsOf results).flagged, c.2 ≤ (statsOf results).analyzed) := by
  intro tally statsOf
  have whole : (tally results).Exact results := exact_foldl results
  refine ⟨fun before _ => ?_, fun results' p => ?_, fun analyses c hc => ?_⟩
  · have part : (tally before).Exact before := exact_foldl before
    exact ⟨part, part.faithful _ _⟩
  · have same : tally results' = tally results := (exact_foldl results').eq (whole.perm p)
    rw [show statsOf results' = (tally results').stats periodStart periodEnd from rfl, same]
  · have filed : ∀ a ∈ assessed results, a.findings.Filed := by
      intro a ha
      obtain ⟨s, rfl⟩ := analyses a ha
      exact s.filed_analyze
    have faithful : (statsOf results).Faithful results := whole.faithful _ _
    -- An entry is there for some indicator, and shows how often that was not passed.
    obtain ⟨i, -, same, -⟩ := (faithful.mem_flagged c.1 c.2).mp hc
    rw [← same, faithful.analyzed]
    exact flags_le_length filed i

/-- Two contracts, both of which may be dangerous, and a file that cannot be read. -/
theorem faithful_stats_two :
    let results : Results :=
      [.ok ({} : Snapshot).analyze, .error (.unreadable "b.json"),
        .ok ({ abi := some [.ofFunction "mint"] } : Snapshot).analyze]
    let statsOf := fun results : Results =>
      (results.foldl CommandLine.count empty).stats none none
    (results.take 2 <+: results ∧ results.Perm results.reverse ∧
        ∀ a ∈ assessed results, ∃ s : Snapshot, s.analyze = a) ∧
      (statsOf (results.take 2)).Faithful (results.take 2) ∧
      statsOf results.reverse = statsOf results ∧
      (∀ c ∈ (statsOf results).flagged, c.2 ≤ (statsOf results).analyzed) ∧
      (statsOf results).analyzed = 2 ∧ (statsOf results).failed = 1 ∧
      ("dangerousFunctions", 2) ∈ (statsOf results).flagged := by
  intro results statsOf
  have start : results.take 2 <+: results := List.take_prefix _ _
  have reversed : results.Perm results.reverse := (List.reverse_perm results).symm
  have analyses : ∀ a ∈ assessed results, ∃ s : Snapshot, s.analyze = a :=
    List.forall_mem_cons.mpr ⟨⟨_, rfl⟩, List.forall_mem_singleton.mpr ⟨_, rfl⟩⟩
  obtain ⟨parts, order, bound⟩ := faithful_stats results none none
  have faithful := (parts results (List.prefix_refl _)).2
  have flagged : flags results .dangerousFunctions = 2 := by decide
  exact ⟨⟨start, reversed, analyses⟩, (parts _ start).2, order _ reversed, bound analyses, rfl, rfl,
    (faithful.mem_flagged _ _).mpr ⟨.dangerousFunctions, rfl, flagged, by decide⟩⟩

end Tally

end Batch

end EvmRisk
