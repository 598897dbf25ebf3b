import EvmRisk.CommandLine
import Mathlib.Data.List.Infix

/-!
# What arguments ask for

The arguments of the command for assessing snapshots are read from left to right, and what has been
read so far is carried along. What comes of them can be told without that: a switch is on just when
its word is among the arguments in front of two dashes, and the format is given by the word behind
`--format` there, or by the rest of an argument that starts with `--format=` (`Request.Asks`).
Behind two dashes, and as the word for a format, no argument is an option.
-/

namespace EvmRisk.CommandLine.Request

/-! ### Options among arguments -/

/-- `arguments` give `word` for the format, behind `--format` or in the argument `--format=word`. -/
def GivesFormat (arguments : List String) (word : String) : Prop :=
  ["--format", word] <:+: arguments ∨ "--format=" ++ word ∈ arguments

variable {arg word path : String} {rest : List String} {start next options : AnalyzeOptions}

/-- A word is attached to `--format=` iff it is the rest of the argument. -/
theorem attachedFormat?_eq_some_iff :
    attachedFormat? arg = some word ↔ arg = "--format=" ++ word := by
  unfold attachedFormat?
  dsimp only
  constructor
  · intro attached
    split at attached
    · next starts =>
      obtain ⟨tail, whole⟩ := Text.startsWith_iff.mp starts
      rw [← whole, List.drop_left] at attached
      obtain rfl := Option.some.inj attached
      refine String.toList_inj.mp ?_
      rw [String.toList_append, ← whole]
      exact congrArg _ String.toList_ofList.symm
    · cases attached
  · rintro rfl
    rw [String.toList_append, if_pos (Text.startsWith_iff.mpr (List.prefix_append _ _)),
      List.drop_left, String.ofList_toList]

theorem isOption_attached (word : String) : isOption ("--format=" ++ word) = true := by
  rw [isOption, String.toList_append]
  rfl

theorem not_givesFormat_nil : ¬ GivesFormat [] word := by simp [GivesFormat]

/-- The first argument gives the word, alone or with the next one, or the others do. -/
theorem givesFormat_cons_iff : GivesFormat (arg :: rest) word ↔
    attachedFormat? arg = some word ∨ (arg = "--format" ∧ rest.head? = some word) ∨
      GivesFormat rest word := by
  have first : ["--format", word] <+: arg :: rest ↔ arg = "--format" ∧ rest.head? = some word := by
    rw [List.cons_prefix_cons, eq_comm (a := arg)]
    cases rest with
    | nil => simp
    | cons a rest => simp [eq_comm]
  rw [GivesFormat, List.infix_cons_iff, List.mem_cons, first, attachedFormat?_eq_some_iff,
    eq_comm (a := arg) (b := _ ++ _), GivesFormat]
  tauto

/-- An argument that is not `--format` and has no word attached can be passed over. -/
theorem givesFormat_cons_of_ne (attached : attachedFormat? arg = none) (h : arg ≠ "--format") :
    GivesFormat (arg :: rest) word ↔ GivesFormat rest word := by
  rw [givesFormat_cons_iff, attached]
  simp [h]

/-! ### One argument more -/

/-- `result` is what `arguments` ask for, where `start` is what has been asked for before. -/
structure Asks (start : AnalyzeOptions) (arguments : List String) (result : AnalyzeOptions) :
    Prop where
  pretty_iff : result.pretty = true ↔ start.pretty = true ∨ "--pretty" ∈ arguments
  summary_iff : result.summary = true ↔ start.summary = true ∨ "--summary" ∈ arguments
  format_iff : ∀ word,
    result.format = some word ↔ start.format = some word ∨ GivesFormat arguments word

namespace Asks

theorem nil (start : AnalyzeOptions) : Asks start [] start where
  pretty_iff := by simp
  summary_iff := by simp
  format_iff word := by simp [not_givesFormat_nil]

theorem pretty (h : Asks { start with pretty := true } rest options) :
    Asks start ("--pretty" :: rest) options where
  pretty_iff := by simp [h.pretty_iff]
  summary_iff := by simp [h.summary_iff]
  format_iff word := by rw [h.format_iff, givesFormat_cons_of_ne rfl (by decide)]

theorem summary (h : Asks { start with summary := true } rest options) :
    Asks start ("--summary" :: rest) options where
  pretty_iff := by simp [h.pretty_iff]
  summary_iff := by simp [h.summary_iff]
  format_iff word := by rw [h.format_iff, givesFormat_cons_of_ne rfl (by decide)]

theorem format (h : Asks { start with format := some word } (word :: rest) options)
    (unset : start.format = none) : Asks start ("--format" :: word :: rest) options where
  pretty_iff := by simp [h.pretty_iff]
  summary_iff := by simp [h.summary_iff]
  format_iff other := by
    have first : GivesFormat ("--format" :: word :: rest) other ↔
        word = other ∨ GivesFormat (word :: rest) other := by
      have whole : attachedFormat? "--format" = none := rfl
      rw [givesFormat_cons_iff, whole]
      simp
    rw [h.format_iff, first, unset]
    simp

theorem attached (h : Asks { start with format := some word } rest options)
    (unset : start.format = none) (given : attachedFormat? arg = some word) :
    Asks start (arg :: rest) options := by
  have ne {other : String} (none : attachedFormat? other = none) : other ≠ arg := by
    rintro rfl
    rw [none] at given
    cases given
  constructor
  case pretty_iff => rw [h.pretty_iff, List.mem_cons, or_iff_right (ne rfl)]
  case summary_iff => rw [h.summary_iff, List.mem_cons, or_iff_right (ne rfl)]
  case format_iff =>
    intro other
    have notAlone : "--format" ≠ arg := ne rfl
    rw [h.format_iff, givesFormat_cons_iff, given, unset]
    simp [notAlone.symm]

/-- An argument that is no option asks for nothing. -/
theorem plain (h : Asks start rest options) (notOption : isOption arg = false) :
    Asks start (arg :: rest) options := by
  have ne {option : String} (isOne : isOption option = true) : option ≠ arg := by
    rintro rfl
    rw [notOption] at isOne
    cases isOne
  have notAttached : attachedFormat? arg = none :=
    Option.eq_none_iff_forall_ne_some.mpr fun word given =>
      ne (isOption_attached word) (attachedFormat?_eq_some_iff.mp given).symm
  constructor
  case pretty_iff => rw [h.pretty_iff, List.mem_cons, or_iff_right (ne rfl)]
  case summary_iff => rw [h.summary_iff, List.mem_cons, or_iff_right (ne rfl)]
  case format_iff =>
    intro word
    rw [h.format_iff, givesFormat_cons_of_ne notAttached (ne rfl).symm]

end Asks

end EvmRisk.CommandLine.Request
