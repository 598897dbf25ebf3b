import EvmRisk.Proofs.Text.Hexadecimal
import Mathlib.Data.Bool.AllAny

/-!
# The normal form of code

Code is searched in small letters, without blanks around it and without a mark in front
(`Bytecode.Normal`), and the texts in this form are just those that are read as themselves
(`Bytecode.ofRaw?_hex_iff`). Reading takes the blanks off once and one mark once, in this order. So
what it gives is in normal form unless a mark is followed by a blank or by a second mark
(`Stacked`), and of the texts of blanks and marks alone it takes only those with one mark at most
for no code (`Bytecode.normal_ofRaw?_iff`).
-/

namespace EvmRisk

namespace Text

/-! ### Small letters -/

theorem isUpper_toLower (c : Char) : c.toLower.isUpper = false := by
  by_cases ascii : c.toNat < 0x80
  · exact ascii_induction (p := fun c => c.toLower.isUpper = false) (by decide) ascii
  · have same := toLower_of_not_ascii (Nat.le_of_not_lt ascii)
    rw [same]
    refine Bool.eq_false_iff.mpr fun upper => ascii ?_
    have below : c.toNat ≤ 'Z'.toNat := (of_decide_eq_true upper).2
    exact Nat.lt_of_le_of_lt below (by decide)

theorem toLower_of_isUpper {c : Char} (h : c.isUpper = false) : c.toLower = c :=
  dif_neg (of_decide_eq_false h)

theorem isBlank_toLower (c : Char) : isBlank c.toLower = isBlank c := by
  by_cases ascii : c.toNat < 0x80
  · exact ascii_induction (p := fun c => isBlank c.toLower = isBlank c) (by decide) ascii
  · rw [toLower_of_not_ascii (Nat.le_of_not_lt ascii)]

/-- A text is its own lowercase iff it has no capitals. -/
theorem asciiLower_eq_self_iff {cs : List Char} :
    asciiLower cs = cs ↔ ∀ c ∈ cs, c.isUpper = false := by
  constructor
  · intro small c mem
    rw [← small] at mem
    obtain ⟨d, -, rfl⟩ := List.mem_map.mp mem
    exact isUpper_toLower d
  · intro small
    exact (List.map_congr_left fun c mem => toLower_of_isUpper (small c mem)).trans (List.map_id cs)

theorem trim_asciiLower (cs : List Char) : trim (asciiLower cs) = asciiLower (trim cs) := by
  have same : isBlank ∘ Char.toLower = isBlank := funext isBlank_toLower
  simp only [trim, trimEnd, trimStart, asciiLower, List.dropWhile_map, ← List.map_reverse, same]

/-! ### Blanks that are taken off -/

theorem not_isBlank_of_head?_trimStart {cs : List Char} {c : Char}
    (h : (trimStart cs).head? = some c) : isBlank c = false := by
  have first := List.head?_dropWhile_not isBlank cs
  rwa [show (cs.dropWhile isBlank).head? = some c from h] at first

theorem isPrefix_trimEnd (cs : List Char) : trimEnd cs <+: cs := by
  rw [trimEnd, ← List.reverse_suffix, List.reverse_reverse]
  exact List.dropWhile_suffix _

theorem isInfix_trim (cs : List Char) : trim cs <:+: cs :=
  (isPrefix_trimEnd _).isInfix.trans (List.dropWhile_suffix _).isInfix

/-- `trim cs` is solid, if it is not empty. -/
theorem solid_trim {cs : List Char} (h : trim cs ≠ []) : Solid (trim cs) := by
  obtain ⟨c, first⟩ := Option.ne_none_iff_exists'.mp (mt List.head?_eq_none_iff.mp h)
  obtain ⟨d, last⟩ := Option.ne_none_iff_exists'.mp (mt List.getLast?_eq_none_iff.mp h)
  refine ⟨⟨c, first, ?_⟩, ⟨d, last, ?_⟩⟩
  · obtain ⟨rest, whole⟩ := isPrefix_trimEnd (trimStart cs)
    have start : (trimStart cs).head? = some c := by
      rw [← whole, List.head?_append, show (trimEnd (trimStart cs)).head? = some c from first,
        Option.some_or]
    exact not_isBlank_of_head?_trimStart start
  · rw [trim, trimEnd, List.getLast?_reverse] at last
    exact not_isBlank_of_head?_trimStart last

/-- A text is its own `trim` iff it is empty or solid. -/
theorem trim_eq_self_iff {cs : List Char} : trim cs = cs ↔ (cs ≠ [] → Solid cs) := by
  constructor
  · intro same nonempty
    have solid := solid_trim (same.symm ▸ nonempty)
    rwa [same] at solid
  · intro solid
    by_cases empty : cs = []
    · rw [empty]
      rfl
    · simpa using @trim_around [] [] cs nofun nofun (solid empty)

/-- `trimEnd` leaves a front without blanks as it is. -/
theorem trimEnd_append {front : List Char} (solid : ∀ c ∈ front, isBlank c = false)
    (nonempty : front ≠ []) (rest : List Char) :
    trimEnd (front ++ rest) = front ++ trimEnd rest := by
  have back := (solid_of_forall nonempty solid).reverse.dropWhile_isBlank []
  rw [List.append_nil] at back
  rw [trimEnd, List.reverse_append, trimEnd, List.dropWhile_append]
  split
  · next gone =>
    rw [back, List.isEmpty_iff.mp gone, List.reverse_reverse, List.reverse_nil, List.append_nil]
  · rw [List.reverse_append, List.reverse_reverse]

/-- `trim` takes off the blanks in front of a front without blanks, and those at the end. -/
theorem trim_append {before front : List Char} (blanks : ∀ c ∈ before, isBlank c = true)
    (solid : ∀ c ∈ front, isBlank c = false) (nonempty : front ≠ []) (rest : List Char) :
    trim (before ++ (front ++ rest)) = front ++ trimEnd rest := by
  rw [trim, trimStart, List.dropWhile_append_of_pos blanks,
    (solid_of_forall nonempty solid).dropWhile_isBlank, trimEnd_append solid nonempty]

namespace Hex

/-! ### Marks that are taken off -/

/-- No mark is a prefix of the text, apart from the empty one. -/
def Unmarked (cs : List Char) : Prop := ∀ mark ∈ marks, mark <+: cs → mark = []

theorem isSuffix_withoutMark (cs : List Char) : withoutMark cs <:+ cs := by
  obtain ⟨mark, -, whole⟩ := exists_mark cs
  exact ⟨mark, whole.symm⟩

/-- `withoutMark` takes off one mark, whatever follows it. -/
theorem withoutMark_append {mark : List Char} (marked : mark ∈ marks) (nonempty : mark ≠ [])
    (rest : List Char) : withoutMark (mark ++ rest) = rest := by
  simp only [marks, List.mem_cons, List.not_mem_nil, or_false] at marked
  rcases marked with rfl | rfl | rfl
  · exact absurd rfl nonempty
  · rfl
  · rfl

/-- `withoutMark` leaves a text as it is iff it is unmarked. -/
theorem withoutMark_eq_self_iff {cs : List Char} : withoutMark cs = cs ↔ Unmarked cs := by
  constructor
  · rintro same mark marked ⟨rest, rfl⟩
    by_contra nonempty
    rw [withoutMark_append marked nonempty] at same
    exact nonempty (List.self_eq_append_left.mp same)
  · intro unmarked
    obtain ⟨mark, marked, whole⟩ := exists_mark cs
    have none := unmarked mark marked ⟨_, whole.symm⟩
    rw [none, List.nil_append] at whole
    exact whole.symm

/-- `withoutMark` leaves nothing of the marks, and something of every other text. -/
theorem withoutMark_eq_nil_iff {cs : List Char} : withoutMark cs = [] ↔ cs ∈ marks := by
  constructor
  · intro empty
    obtain ⟨mark, marked, whole⟩ := exists_mark cs
    rw [empty, List.append_nil] at whole
    rwa [whole]
  · intro marked
    simp only [marks, List.mem_cons, List.not_mem_nil, or_false] at marked
    rcases marked with rfl | rfl | rfl <;> rfl

/-- Only the letters of a mark have such a letter for their lowercase. -/
theorem letter_of_toLower {c : Char} :
    (c.toLower = '0' → c = '0') ∧ (c.toLower = 'x' → c = 'x' ∨ c = 'X') ∧ c.toLower ≠ 'X' := by
  by_cases ascii : c.toNat < 0x80
  · exact ascii_induction (p := fun c => (c.toLower = '0' → c = '0') ∧
      (c.toLower = 'x' → c = 'x' ∨ c = 'X') ∧ c.toLower ≠ 'X') (by decide) ascii
  · rw [toLower_of_not_ascii (Nat.le_of_not_lt ascii)]
    refine ⟨id, Or.inl, ?_⟩
    rintro rfl
    exact ascii (by decide)

theorem asciiLower_mem_marks_iff {cs : List Char} : asciiLower cs ∈ marks ↔ cs ∈ marks := by
  simp only [marks, List.mem_cons, List.not_mem_nil, or_false]
  constructor
  · rintro (empty | small | large)
    · exact Or.inl (List.map_eq_nil_iff.mp empty)
    · obtain ⟨c, _, rfl, zero, small⟩ := List.map_eq_cons_iff.mp small
      obtain ⟨d, _, rfl, letter, small⟩ := List.map_eq_cons_iff.mp small
      rw [List.map_eq_nil_iff.mp small, letter_of_toLower.1 zero]
      rcases letter_of_toLower.2.1 letter with rfl | rfl
      · exact Or.inr (Or.inl rfl)
      · exact Or.inr (Or.inr rfl)
    · obtain ⟨c, _, rfl, -, large⟩ := List.map_eq_cons_iff.mp large
      obtain ⟨d, _, rfl, letter, -⟩ := List.map_eq_cons_iff.mp large
      exact absurd letter letter_of_toLower.2.2
  · rintro (rfl | rfl | rfl)
    · exact Or.inl rfl
    · exact Or.inr (Or.inl rfl)
    · exact Or.inr (Or.inl rfl)

/-- `withoutMark` and `asciiLower` commute. -/
theorem withoutMark_asciiLower (cs : List Char) :
    withoutMark (asciiLower cs) = asciiLower (withoutMark cs) := by
  obtain ⟨mark, marked, whole⟩ := exists_mark cs
  by_cases empty : mark = []
  · -- Where there is no mark, small letters do not make one.
    rw [empty, List.nil_append] at whole
    rw [← whole, withoutMark_eq_self_iff]
    intro mark' marked' front
    obtain ⟨ds, start, rfl⟩ := List.prefix_map_iff.mp front
    rw [withoutMark_eq_self_iff.mp whole.symm ds (asciiLower_mem_marks_iff.mp marked') start]
    rfl
  · have small : asciiLower cs = asciiLower mark ++ asciiLower (withoutMark cs) :=
      (congrArg asciiLower whole).trans List.map_append
    rw [small, withoutMark_append (asciiLower_mem_marks_iff.mpr marked)
      (mt List.map_eq_nil_iff.mp empty)]

end Hex

/-! ### What is left over -/

open Hex (marks withoutMark Unmarked)

/-- `cs` has, after blanks, a mark and then a blank or a mark again. Only the first mark is taken
off. -/
def Stacked (cs : List Char) : Prop :=
  ∃ before mark next rest, cs = before ++ (mark ++ (next ++ rest)) ∧
    (∀ c ∈ before, isBlank c = true) ∧ (mark ∈ marks ∧ mark ≠ []) ∧
      ((next ∈ marks ∧ next ≠ []) ∨ ∃ c, next = [c] ∧ isBlank c = true)

/-- `cs` has no blanks around it and no mark, so that nothing is taken off. -/
def Settled (cs : List Char) : Prop := withoutMark (trim cs) = cs

/-- A text is settled iff there are no blanks and no mark to take off. -/
theorem settled_iff {cs : List Char} : Settled cs ↔ trim cs = cs ∧ Unmarked cs := by
  constructor
  · intro settled
    have short := (Hex.isSuffix_withoutMark (trim cs)).length_le
    rw [settled] at short
    have same : trim cs = cs :=
      (isInfix_trim cs).eq_of_length (Nat.le_antisymm (isInfix_trim cs).length_le short)
    rw [Settled, same] at settled
    exact ⟨same, Hex.withoutMark_eq_self_iff.mp settled⟩
  · rintro ⟨same, unmarked⟩
    rw [Settled, same, Hex.withoutMark_eq_self_iff.mpr unmarked]

/-- The lowercase of a text is settled iff the text is. -/
theorem settled_asciiLower {cs : List Char} : Settled (asciiLower cs) ↔ Settled cs := by
  rw [Settled, trim_asciiLower, Hex.withoutMark_asciiLower]
  constructor
  · intro same
    have length := congrArg List.length same
    rw [asciiLower, asciiLower, List.length_map, List.length_map] at length
    exact ((Hex.isSuffix_withoutMark _).isInfix.trans (isInfix_trim cs)).eq_of_length length
  · exact congrArg asciiLower

theorem solid_trim_of_withoutMark {cs : List Char} (some : withoutMark (trim cs) ≠ []) :
    Solid (trim cs) := by
  refine solid_trim fun empty => some ?_
  rw [empty]
  rfl

/-- `withoutMark (trim cs)` does not end with a blank. -/
theorem getLast?_withoutMark_trim {cs : List Char} (some : withoutMark (trim cs) ≠ []) :
    ∃ c, (withoutMark (trim cs)).getLast? = Option.some c ∧ isBlank c = false := by
  obtain ⟨mark, -, trimmed⟩ := Hex.exists_mark (trim cs)
  obtain ⟨c, last, notBlank⟩ := (solid_trim_of_withoutMark some).last
  rw [trimmed, List.getLast?_append, List.getLast?_eq_some_getLast some, Option.some_or] at last
  exact ⟨c, (List.getLast?_eq_some_getLast some).trans last, notBlank⟩

/-- If what is left of a text is settled, the text is not stacked. -/
theorem not_stacked_of_settled {cs : List Char} (some : withoutMark (trim cs) ≠ [])
    (settled : Settled (withoutMark (trim cs))) : ¬ Stacked cs := by
  obtain ⟨same, unmarked⟩ := settled_iff.mp settled
  rintro ⟨before, mark, next, rest, rfl, blanks, ⟨marked, nonempty⟩, further⟩
  rw [trim_append blanks (Hex.solid_of_mark marked) nonempty,
    Hex.withoutMark_append marked nonempty] at some same unmarked
  rcases further with ⟨second, nonempty'⟩ | ⟨c, rfl, blank⟩
  · rw [trimEnd_append (Hex.solid_of_mark second) nonempty'] at unmarked
    exact nonempty' (unmarked next second (List.prefix_append _ _))
  · obtain ⟨d, first, notBlank⟩ := (trim_eq_self_iff.mp same some).first
    obtain ⟨tail, whole⟩ := isPrefix_trimEnd ([c] ++ rest)
    have head : ([c] ++ rest).head? = Option.some d := by
      rw [← whole, List.head?_append, first, Option.some_or]
    obtain rfl : c = d := Option.some.inj head
    rw [blank] at notBlank
    cases notBlank

/-- If a text is not stacked, what is left of it is settled. -/
theorem settled_of_not_stacked {cs : List Char} (some : withoutMark (trim cs) ≠ [])
    (single : ¬ Stacked cs) : Settled (withoutMark (trim cs)) := by
  obtain ⟨before, after, whole, blanks, -⟩ := exists_trim cs
  obtain ⟨mark, marked, trimmed⟩ := Hex.exists_mark (trim cs)
  by_cases empty : mark = []
  · rw [empty, List.nil_append] at trimmed
    have unmarked := Hex.withoutMark_eq_self_iff.mp trimmed.symm
    rw [← trimmed]
    exact settled_iff.mpr
      ⟨trim_eq_self_iff.mpr fun _ => solid_trim_of_withoutMark some, unmarked⟩
  · -- A blank or a mark that came next would come after this mark.
    have next {front rest : List Char} (body : withoutMark (trim cs) = front ++ rest) :
        ¬((front ∈ marks ∧ front ≠ []) ∨ ∃ c, front = [c] ∧ isBlank c = true) := by
      refine fun further =>
        single ⟨before, mark, front, rest ++ after, ?_, blanks, ⟨marked, empty⟩, further⟩
      rw [whole, trimmed, body]
      simp
    have first : ∃ c, (withoutMark (trim cs)).head? = Option.some c ∧ isBlank c = false := by
      obtain ⟨c, rest, body⟩ := List.exists_cons_of_ne_nil some
      refine ⟨c, by rw [body]; rfl, ?_⟩
      by_contra blank
      exact @next [c] rest body (Or.inr ⟨c, rfl, Bool.of_not_eq_false blank⟩)
    have solid : Solid (withoutMark (trim cs)) := ⟨first, getLast?_withoutMark_trim some⟩
    refine settled_iff.mpr ⟨trim_eq_self_iff.mpr fun _ => solid, ?_⟩
    rintro front isMark ⟨rest, body⟩
    by_contra nonempty
    exact next body.symm (Or.inl ⟨isMark, nonempty⟩)

/-- **`withoutMark (trim cs)` is settled iff `cs` is not stacked.** -/
theorem settled_withoutMark_trim_iff {cs : List Char} (some : withoutMark (trim cs) ≠ []) :
    Settled (withoutMark (trim cs)) ↔ ¬ Stacked cs :=
  ⟨not_stacked_of_settled some, settled_of_not_stacked some⟩

/-- A text is left as it is iff it is settled and has no capitals. -/
theorem asciiLower_withoutMark_trim_eq_self_iff {cs : List Char} :
    asciiLower (withoutMark (trim cs)) = cs ↔ Settled cs ∧ ∀ c ∈ cs, c.isUpper = false := by
  constructor
  · intro same
    have length := congrArg List.length same
    rw [asciiLower, List.length_map] at length
    have settled : Settled cs :=
      ((Hex.isSuffix_withoutMark _).isInfix.trans (isInfix_trim cs)).eq_of_length length
    rw [settled] at same
    exact ⟨settled, asciiLower_eq_self_iff.mp same⟩
  · rintro ⟨settled, small⟩
    rw [settled]
    exact asciiLower_eq_self_iff.mpr small

end Text

namespace Bytecode

open Text (asciiLower isBlank trim Settled Stacked)
open Text.Hex (IsDigits Spells marks withoutMark)

/-- `code` is in the form in which it is searched. -/
structure Normal (code : Bytecode) : Prop where
  nonempty : code.hex ≠ ""
  unmarked : Text.Hex.Unmarked code.hex.toList
  solid : Text.Solid code.hex.toList
  small : ∀ c ∈ code.hex.toList, c.isUpper = false

/-- `code.Normal` says that the code is not empty, is settled and has no capitals. -/
theorem normal_iff {code : Bytecode} : code.Normal ↔
    code.hex ≠ "" ∧ Settled code.hex.toList ∧ ∀ c ∈ code.hex.toList, c.isUpper = false := by
  rw [Text.settled_iff, Text.trim_eq_self_iff]
  constructor
  · rintro ⟨nonempty, unmarked, solid, small⟩
    exact ⟨nonempty, ⟨fun _ => solid, unmarked⟩, small⟩
  · rintro ⟨nonempty, ⟨solid, unmarked⟩, small⟩
    exact ⟨nonempty, unmarked, solid (mt String.toList_eq_nil_iff.mp nonempty), small⟩

/-- `ofRaw? raw` is the code of what is left of `raw`, in lowercase, unless nothing is left. -/
theorem ofRaw?_eq_some_iff {raw : String} {code : Bytecode} : ofRaw? raw = some code ↔
    withoutMark (trim raw.toList) ≠ [] ∧
      asciiLower (withoutMark (trim raw.toList)) = code.hex.toList := by
  unfold ofRaw?
  split
  · next empty => simp [empty]
  · next body some =>
    constructor
    · intro made
      obtain rfl := Option.some.inj made
      exact ⟨some, String.toList_ofList.symm⟩
    · rintro ⟨-, body⟩
      rw [body, String.ofList_toList]

/-- `ofRaw? raw` is `none` iff `raw` has blanks and at most one mark, and nothing else. -/
theorem ofRaw?_eq_none_iff {raw : String} : ofRaw? raw = none ↔
    ∃ before mark after, raw.toList = before ++ mark ++ after ∧
      (∀ c ∈ before, isBlank c = true) ∧ mark ∈ marks ∧ ∀ c ∈ after, isBlank c = true := by
  have empty : ofRaw? raw = none ↔ trim raw.toList ∈ marks := by
    rw [← Text.Hex.withoutMark_eq_nil_iff]
    unfold ofRaw?
    split
    · next empty => exact iff_of_true rfl empty
    · next some => exact iff_of_false nofun some
  rw [empty]
  constructor
  · intro marked
    obtain ⟨before, after, whole, blanks, others⟩ := Text.exists_trim raw.toList
    exact ⟨before, _, after, whole, blanks, marked, others⟩
  · rintro ⟨before, mark, after, whole, blanks, marked, others⟩
    rwa [whole, Text.trim_solid blanks others (Text.Hex.solid_of_mark marked)]

/-- **Code is read back from its own text iff it is `Normal`.** -/
theorem ofRaw?_hex_iff {code : Bytecode} : ofRaw? code.hex = some code ↔ code.Normal := by
  rw [ofRaw?_eq_some_iff, Text.asciiLower_withoutMark_trim_eq_self_iff, normal_iff]
  refine and_congr_left fun ⟨settled, _⟩ => ?_
  rw [settled, Ne, String.toList_eq_nil_iff]

section OfRaw

variable {raw : String} {code : Bytecode}

theorem hex_ne_empty (h : ofRaw? raw = some code) : code.hex ≠ "" := by
  obtain ⟨some, body⟩ := ofRaw?_eq_some_iff.mp h
  intro empty
  rw [empty] at body
  exact some (List.map_eq_nil_iff.mp body)

theorem isUpper_of_mem_hex (h : ofRaw? raw = some code) : ∀ c ∈ code.hex.toList,
    c.isUpper = false := by
  rw [← (ofRaw?_eq_some_iff.mp h).2]
  exact List.forall_mem_map.mpr fun c _ => Text.isUpper_toLower c

theorem getLast?_hex (h : ofRaw? raw = some code) :
    ∃ c, code.hex.toList.getLast? = some c ∧ isBlank c = false := by
  obtain ⟨some, body⟩ := ofRaw?_eq_some_iff.mp h
  obtain ⟨c, last, notBlank⟩ := Text.getLast?_withoutMark_trim some
  refine ⟨c.toLower, ?_, by rwa [Text.isBlank_toLower]⟩
  rw [← body, asciiLower, List.getLast?_map, last]
  rfl

/-- **The code that is read from a text is `Normal` iff the text is not stacked.** -/
theorem normal_iff_not_stacked (h : ofRaw? raw = some code) :
    code.Normal ↔ ¬ Stacked raw.toList := by
  obtain ⟨some, body⟩ := ofRaw?_eq_some_iff.mp h
  rw [normal_iff, and_iff_right (hex_ne_empty h), and_iff_left (isUpper_of_mem_hex h), ← body,
    Text.settled_asciiLower, Text.settled_withoutMark_trim_iff some]

end OfRaw

/-- A text that spells digits is not stacked, since digits are neither blanks nor a mark. -/
theorem not_stacked_of_spells {ds cs : List Char} (h : Spells ds cs) (hd : IsDigits ds)
    (nonempty : ds ≠ []) : ¬ Stacked cs := by
  have small := h.asciiLower_withoutMark_trim hd
  have digits : IsDigits (withoutMark (trim cs)) := hd.of_asciiLower_eq small
  have some : withoutMark (trim cs) ≠ [] := by
    intro empty
    rw [empty] at small
    exact nonempty (List.map_eq_nil_iff.mp small.symm)
  have solid := Text.solid_of_forall some fun c mem => Text.Hex.isBlank_of_digit (digits c mem)
  have same : withoutMark ([] ++ withoutMark (trim cs)) = withoutMark (trim cs) :=
    Text.Hex.withoutMark_mark (by decide) digits
  have unmarked := Text.Hex.withoutMark_eq_self_iff.mp same
  rw [← Text.settled_withoutMark_trim_iff some, Text.settled_iff]
  exact ⟨Text.trim_eq_self_iff.mpr fun _ => solid, unmarked⟩

/-- **Code comes in normal form, unless more than one mark or blanks behind a mark were to be taken
off.** Whatever the text, the code has no capitals and no blank at its end, and it is never empty: a
text of blanks and at most one mark is no code. It is read as itself again just when it is in normal
form, as it is whenever the text spells digits. -/
theorem normal_ofRaw?_iff (raw : String) :
    (ofRaw? raw = none ↔ ∃ before mark after, raw.toList = before ++ mark ++ after ∧
      (∀ c ∈ before, isBlank c = true) ∧ mark ∈ marks ∧ ∀ c ∈ after, isBlank c = true) ∧
    (∀ code, ofRaw? raw = some code →
      code.hex ≠ "" ∧ (∀ c ∈ code.hex.toList, c.isUpper = false) ∧
        (∃ c, code.hex.toList.getLast? = some c ∧ isBlank c = false) ∧
        (code.Normal ↔ ¬ Stacked raw.toList) ∧
        (ofRaw? code.hex = some code ↔ ¬ Stacked raw.toList)) ∧
    ∀ ds, Spells ds raw.toList → IsDigits ds → ds ≠ [] → ¬ Stacked raw.toList := by
  refine ⟨ofRaw?_eq_none_iff, fun code h => ?_, fun ds => not_stacked_of_spells⟩
  refine ⟨hex_ne_empty h, isUpper_of_mem_hex h, getLast?_hex h, normal_iff_not_stacked h, ?_⟩
  rw [ofRaw?_hex_iff, normal_iff_not_stacked h]

/-- Digits in both cases, with a mark and with blanks that are not of ASCII. -/
theorem normal_ofRaw?_iff_spaced :
    let code : Bytecode := ⟨"6080ff"⟩
    ofRaw? "\u3000 0X6080fF\n" = some code ∧ code.Normal ∧ ofRaw? code.hex = some code := by
  intro code
  have read : ofRaw? "\u3000 0X6080fF\n" = some code := rfl
  obtain ⟨-, spec, digits⟩ := normal_ofRaw?_iff "\u3000 0X6080fF\n"
  have spelling : Spells "6080ff".toList
      (['\u3000', ' '] ++ (['0', 'X'] ++ "6080fF".toList) ++ ['\n']) :=
    .mk (List.all_iff_forall_prop.mp rfl) (by decide) (by decide)
      (List.forall_mem_singleton.mpr rfl)
  have single := digits _ spelling (by decide) (by decide)
  obtain ⟨-, -, -, normal, again⟩ := spec code read
  exact ⟨read, normal.mpr single, again.mpr single⟩

/-- A text of two marks is code, with the second one in it, and that is no code by itself. -/
theorem not_normal_doubledMark :
    ∃ code, ofRaw? "0x0x" = some code ∧ ¬ code.Normal ∧ ofRaw? code.hex = none := by
  refine ⟨⟨"0x"⟩, rfl, fun normal => ?_, rfl⟩
  have none : ['0', 'x'] = [] := normal.unmarked ['0', 'x'] (by decide) ⟨[], rfl⟩
  cases none

end Bytecode

end EvmRisk
