import EvmRisk.Decimal
import EvmRisk.Proofs.Text.Hexadecimal
import EvmRisk.Text.Basic
import EvmRisk.Text.Lowercase
import Mathlib.Algebra.GroupWithZero.Nat
import Mathlib.Tactic.SplitIfs

/-!
# Lines

A text has one line more than it has line breaks (`length_lines`). Texts that are put one below the
other are the lines of what comes out just when there is no line break in any of them
(`lines_intercalate_iff`); if a line break stands behind each of them, an empty line follows
(`lines_join_newline`).

Numbers and blanks bring no line break, and the lowercase of a text neither loses nor brings one
(`mem_lower_newline_iff`): nothing that is not a line break becomes one.
-/

namespace EvmRisk.Text

/-- The lines of a text. -/
def lines (text : String) : List (List Char) := text.toList.splitOn '\n'

/-- How many line breaks there are in a text. -/
def breaks (text : String) : Nat := text.toList.count '\n'

theorem breaks_eq_zero_iff {text : String} : breaks text = 0 ↔ '\n' ∉ text.toList :=
  List.count_eq_zero

theorem breaks_append (a b : String) : breaks (a ++ b) = breaks a + breaks b := by
  rw [breaks, String.toList_append, List.count_append]
  rfl

/-- A text has one line more than it has line breaks. -/
theorem length_lines (text : String) : (lines text).length = breaks text + 1 := by
  unfold lines breaks
  induction text.toList with
  | nil => rfl
  | cons c cs ih =>
    rw [List.splitOn_cons_eq_if_modifyHead, List.count_cons]
    by_cases hc : (c == '\n') = true
    · rw [if_pos hc, if_pos hc, List.length_cons, ih]
    · rw [if_neg hc, if_neg hc, List.length_modifyHead, ih, Nat.add_zero]

/-! ### Texts that are put together -/

/-- Texts put together have their own line breaks, and those between them. -/
theorem breaks_intercalate (between : String) (texts : List String) :
    breaks (between.intercalate texts) =
      (texts.map breaks).sum + (texts.length - 1) * breaks between := by
  induction texts with
  | nil => simp [breaks]
  | cons text texts ih =>
    cases texts with
    | nil => simp
    | cons next texts =>
      rw [String.intercalate_cons_cons, breaks_append, breaks_append, ih]
      simp only [List.map_cons, List.sum_cons, List.length_cons, Nat.add_sub_cancel,
        Nat.add_one_mul]
      omega

theorem breaks_intercalate_comma (texts : List String) :
    breaks (", ".intercalate texts) = (texts.map breaks).sum := by
  rw [breaks_intercalate, show breaks ", " = 0 by decide, Nat.mul_zero, Nat.add_zero]

/-- **Texts one below the other are the lines iff none of them has a line break.** -/
theorem lines_intercalate_iff {texts : List String} (some : texts ≠ []) :
    lines ("\n".intercalate texts) = texts.map String.toList ↔
      ∀ text ∈ texts, '\n' ∉ text.toList := by
  constructor
  · intro same text mem
    have length := length_lines ("\n".intercalate texts)
    rw [same, breaks_intercalate, List.length_map, show breaks "\n" = 1 from rfl] at length
    have pos : 0 < texts.length := List.length_pos_iff.mpr some
    have none : (texts.map breaks).sum = 0 := by omega
    have each := List.forall_mem_map.mp (List.sum_eq_zero_iff_forall_eq_nat.mp none)
    exact breaks_eq_zero_iff.mp (each text mem)
  · intro whole
    rw [lines, String.toList_intercalate]
    exact List.splitOn_intercalate '\n' (List.forall_mem_map.mpr whole) (by simpa using some)

/-- The lines of two texts with a line break between them are those of the one and those of the
other. -/
theorem lines_append_newline_append (text rest : String) :
    lines (text ++ "\n" ++ rest) = lines text ++ lines rest := by
  rw [lines, String.toList_append, String.toList_append, List.append_assoc]
  exact List.splitOnP_append_cons text.toList rest.toList rfl

/-- A text without a line break is its only line. -/
theorem lines_eq_singleton {text : String} (whole : '\n' ∉ text.toList) :
    lines text = [text.toList] :=
  (lines_intercalate_iff (List.cons_ne_nil text [])).mpr (List.forall_mem_singleton.mpr whole)

/-- **Texts that each end their line are the lines**, and an empty one follows. -/
theorem lines_join_newline {texts : List String} (whole : ∀ text ∈ texts, '\n' ∉ text.toList) :
    lines (String.join (texts.map (· ++ "\n"))) = texts.map String.toList ++ [[]] := by
  induction texts with
  | nil => rfl
  | cons text texts ih =>
    obtain ⟨first, others⟩ := List.forall_mem_cons.mp whole
    rw [List.map_cons, String.join_cons, lines_append_newline_append, lines_eq_singleton first,
      ih others]
    rfl

/-! ### Blanks, numbers and lowercase -/

theorem count_blanks (n : Nat) : (List.replicate n ' ').count '\n' = 0 := by
  rw [List.count_replicate]
  rfl

/-- Blanks behind a text bring no line break. -/
theorem breaks_padRight (width : Nat) (text : String) :
    breaks (padRight width text) = breaks text := by
  rw [breaks, padRight, String.toList_ofList, List.rightpad, List.count_append, count_blanks]
  rfl

theorem breaks_padLeft (width : Nat) (text : String) :
    breaks (padLeft width text) = breaks text := by
  rw [breaks, padLeft, String.toList_ofList, List.leftpad, List.count_append, count_blanks,
    Nat.zero_add]
  rfl

theorem not_mem_toDigits (n : Nat) : '\n' ∉ Nat.toDigits 10 n := by
  intro mem
  exact absurd (Nat.isDigit_of_mem_toDigits (by decide) (by decide) mem) (by decide)

theorem breaks_repr (n : Nat) : breaks (Nat.repr n) = 0 := by
  rw [breaks_eq_zero_iff, Nat.repr, String.toList_ofList]
  exact not_mem_toDigits n

theorem not_mem_placesText (places n : Nat) : '\n' ∉ Decimal.placesText places n := by
  unfold Decimal.placesText
  split_ifs
  · exact not_mem_toDigits _
  · rw [List.mem_append, List.mem_append, List.leftpad, List.mem_append, List.mem_replicate]
    rintro ((mem | point) | ⟨-, zero⟩ | mem)
    · exact not_mem_toDigits _ mem
    · exact absurd point (by decide)
    · exact absurd zero (by decide)
    · exact not_mem_toDigits _ mem

theorem not_mem_fixed (places : Nat) (x : Float) : '\n' ∉ Decimal.fixed places x := by
  have sign (negative : Bool) : '\n' ∉ (if negative then ['-'] else []) := by
    cases negative <;> decide
  unfold Decimal.fixed
  split
  · decide
  · rw [List.mem_append]
    rintro (mem | mem)
    · exact sign _ mem
    · exact absurd mem (by decide)
  · rw [List.mem_append]
    rintro (mem | mem)
    · exact sign _ mem
    · exact not_mem_placesText _ _ mem

theorem breaks_fixed (places : Nat) (x : Float) :
    breaks (String.ofList (Decimal.fixed places x)) = 0 := by
  rw [breaks_eq_zero_iff, String.toList_ofList]
  exact not_mem_fixed places x

/-- No letter has a line break for its lowercase. -/
theorem carry_lowerRuns_ne_newline {c : Char} (hc : c ≠ '\n') : carry lowerRuns c ≠ '\n' := by
  have beyond : ∀ run ∈ lowerRuns, 0x20 ≤ run.target := by decide +kernel
  unfold carry
  split
  · next run found =>
    have far : 0x20 ≤ run.image c.toNat :=
      Nat.le_trans (beyond run (List.mem_of_find?_eq_some found)) (Nat.le_add_right _ _)
    intro newline
    by_cases valid : (run.image c.toNat).isValidChar
    · rw [Char.ofNat, dif_pos valid] at newline
      have code : run.image c.toNat = 10 := congrArg Char.toNat newline
      omega
    · rw [Char.ofNat, dif_neg valid] at newline
      exact absurd newline (by decide)
  · exact hc

/-- The lowercase of `c` has a line break iff `c` is one. -/
theorem mem_lowerChar_newline_iff {c : Char} : '\n' ∈ lowerChar c ↔ c = '\n' := by
  unfold lowerChar
  split_ifs with ascii dotted
  · exact ascii_induction (p := fun c => '\n' ∈ [c.toLower] ↔ c = '\n') (by decide) ascii
  · rw [dotted]
    decide
  · have other : c ≠ '\n' := by
      rintro rfl
      exact ascii (by decide)
    rw [List.mem_singleton]
    exact iff_of_false (carry_lowerRuns_ne_newline other).symm other

theorem mem_lowerAfter_newline_iff (before cs : List Char) :
    '\n' ∈ lowerAfter before cs ↔ '\n' ∈ cs := by
  induction cs generalizing before with
  | nil => rfl
  | cons c cs ih =>
    rw [lowerAfter, List.mem_append, ih, List.mem_cons]
    refine or_congr_left ?_
    split_ifs with sigma ends
    · rw [sigma]
      decide
    · rw [sigma]
      decide
    · rw [mem_lowerChar_newline_iff, eq_comm]

theorem mem_lower_newline_iff {cs : List Char} : '\n' ∈ lower cs ↔ '\n' ∈ cs :=
  mem_lowerAfter_newline_iff [] cs

end EvmRisk.Text
