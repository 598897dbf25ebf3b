import EvmRisk.Text.Basic
import Mathlib.Data.List.TakeWhile

/-!
# Blanks around a text

Trimming undoes the addition of blanks (`Text.trim_around`): what is left is the text itself, if its
first and its last character are no blanks (`Text.Solid`), whatever stands between the two. Every
text comes from what trimming leaves of it in this way (`Text.exists_trim`).
-/

namespace EvmRisk.Text

/-- A text that begins and ends with a character that is no blank. -/
structure Solid (cs : List Char) : Prop where
  first : ∃ c, cs.head? = some c ∧ isBlank c = false
  last : ∃ c, cs.getLast? = some c ∧ isBlank c = false

theorem solid_of_forall {cs : List Char} (nonempty : cs ≠ []) (h : ∀ c ∈ cs, isBlank c = false) :
    Solid cs where
  first := ⟨cs.head nonempty, List.head?_eq_some_head nonempty, h _ (List.head_mem nonempty)⟩
  last := ⟨cs.getLast nonempty, List.getLast?_eq_some_getLast nonempty,
    h _ (List.getLast_mem nonempty)⟩

/-- A text between two solid ones is part of a solid text. -/
theorem Solid.between {cs ds : List Char} (h : Solid cs) (h' : Solid ds) (middle : List Char) :
    Solid (cs ++ (middle ++ ds)) := by
  obtain ⟨c, first, notBlank⟩ := h.first
  obtain ⟨d, last, notBlank'⟩ := h'.last
  refine ⟨⟨c, ?_, notBlank⟩, ⟨d, ?_, notBlank'⟩⟩
  · rw [List.head?_append, first, Option.some_or]
  · rw [List.getLast?_append, List.getLast?_append, last, Option.some_or, Option.some_or]

theorem Solid.reverse {cs : List Char} (h : Solid cs) : Solid cs.reverse where
  first := by rw [List.head?_reverse]; exact h.last
  last := by rw [List.getLast?_reverse]; exact h.first

/-- No blanks are dropped in front of a solid text. -/
theorem Solid.dropWhile_isBlank {cs : List Char} (h : Solid cs) (rest : List Char) :
    (cs ++ rest).dropWhile isBlank = cs ++ rest := by
  obtain ⟨c, first, notBlank⟩ := h.first
  obtain ⟨tail, rfl⟩ := List.head?_eq_some_iff.mp first
  exact List.dropWhile_cons_of_neg (by simp [notBlank])

variable {before after : List Char}

/-- **`trim` takes off the blanks around a solid text.** -/
theorem trim_around {body : List Char} (blanks : ∀ c ∈ before, isBlank c = true)
    (others : ∀ c ∈ after, isBlank c = true) (solid : Solid body) :
    trim (before ++ body ++ after) = body := by
  have start : trimStart (before ++ body ++ after) = body ++ after := by
    rw [trimStart, List.append_assoc, List.dropWhile_append_of_pos blanks, solid.dropWhile_isBlank]
  have others' : ∀ c ∈ after.reverse, isBlank c = true := fun c hc =>
    others c (List.mem_reverse.mp hc)
  have rest := solid.reverse.dropWhile_isBlank []
  rw [List.append_nil] at rest
  rw [trim, start, trimEnd, List.reverse_append, List.dropWhile_append_of_pos others', rest,
    List.reverse_reverse]

/-- `trim` takes off the blanks around a text without blanks, also if it is empty. -/
theorem trim_solid {middle : List Char} (blanks : ∀ c ∈ before, isBlank c = true)
    (others : ∀ c ∈ after, isBlank c = true) (solid : ∀ c ∈ middle, isBlank c = false) :
    trim (before ++ middle ++ after) = middle := by
  by_cases empty : middle = []
  · rw [trim, trimStart, empty, List.append_nil, List.dropWhile_append_of_pos blanks,
      List.dropWhile_eq_nil_iff.mpr others]
    rfl
  · exact trim_around blanks others (solid_of_forall empty solid)

/-- Every text is `trim cs` with blanks around it. -/
theorem exists_trim (cs : List Char) : ∃ before after, cs = before ++ trim cs ++ after ∧
    (∀ c ∈ before, isBlank c = true) ∧ ∀ c ∈ after, isBlank c = true := by
  refine ⟨cs.takeWhile isBlank, ((trimStart cs).reverse.takeWhile isBlank).reverse, ?_,
    fun c => List.mem_takeWhile_imp, fun c hc => List.mem_takeWhile_imp (List.mem_reverse.mp hc)⟩
  rw [List.append_assoc, trim, trimEnd, ← List.reverse_append, List.takeWhile_append_dropWhile,
    List.reverse_reverse, trimStart, List.takeWhile_append_dropWhile]

end EvmRisk.Text
