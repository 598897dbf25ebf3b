import EvmRisk.Settings

/-!
# What variables say

Two variables are switches. Each of them is not set, which means no, or has one of eight words,
which are compared without the blanks around them and in small letters, or is meaningless
(`Settings.says_or_meaningless`). The third variable says what is logged and is taken as it is,
unless there is nothing but blanks in it.

So the words in an environment determine its settings, and of two meaningless switches the first one
is blamed (`Settings.loads_ofVariables`).
-/

namespace EvmRisk

/-- `fault` says that the switch `name` has the meaningless `value`, which is quoted in the form in
which it was compared. -/
structure Fault.Blames (fault : Fault) (name value : String) : Prop where
  code_eq : fault.code = "CFG_INVALID_VALUE"
  message_eq : fault.message =
    name ++ " must be a boolean, got " ++ String.ofList (Text.quoted (normalWord value).toList)

namespace Settings

/-! ### A switch -/

/-- The words for a truth value. -/
def words : Bool → List String
  | true => ["1", "true", "yes", "on"]
  | false => ["0", "false", "no", "off"]

/-- The switch `name` says `b`: its value is a word for `b`, or it is not set and `b` is `false`. -/
inductive Says (lookup : String → Option String) (name : String) : Bool → Prop
  | unset (h : lookup name = none) : Says lookup name false
  | set {value : String} {b : Bool} (h : lookup name = some value)
      (word : normalWord value ∈ words b) : Says lookup name b

/-- The switch `name` has a `value` that is no word for `true` or `false`. -/
def Meaningless (lookup : String → Option String) (name value : String) : Prop :=
  lookup name = some value ∧ ∀ b, normalWord value ∉ words b

variable {lookup : String → Option String} {name value : String} {b : Bool}

/-- Every switch says something or is meaningless. -/
theorem says_or_meaningless (lookup : String → Option String) (name : String) :
    (∃ b, Says lookup name b) ∨ ∃ value, Meaningless lookup name value := by
  cases given : lookup name with
  | none => exact Or.inl ⟨_, .unset given⟩
  | some value =>
    by_cases word : ∃ b, normalWord value ∈ words b
    · obtain ⟨b, word⟩ := word
      exact Or.inl ⟨b, .set given word⟩
    · exact Or.inr ⟨value, given, not_exists.mp word⟩

theorem switch_of_mem (word : normalWord value ∈ words b) : switch name value = .ok b := by
  cases b with
  | true => exact if_pos (List.contains_iff_mem.mpr word)
  | false =>
    -- No word is for both truth values.
    have different : ∀ w ∈ words false, yesWords.contains w = false := by decide
    have notYes : ¬ yesWords.contains (normalWord value) = true := by
      rw [different _ word]
      exact Bool.false_ne_true
    exact (if_neg notYes).trans (if_pos (List.contains_iff_mem.mpr word))

/-- A value that is no word for a truth value gives a fault that blames it. -/
theorem exists_switch_error (name : String) (strange : ∀ b, normalWord value ∉ words b) :
    ∃ fault, switch name value = .error fault ∧ fault.Blames name value := by
  have notYes : ¬ yesWords.contains (normalWord value) = true :=
    mt List.contains_iff_mem.mp (strange true)
  have notNo : ¬ noWords.contains (normalWord value) = true :=
    mt List.contains_iff_mem.mp (strange false)
  exact ⟨_, (if_neg notYes).trans (if_neg notNo), rfl, rfl⟩

/-- A switch that says `b` is read as `b`. -/
theorem Says.switchOf (h : Says lookup name b) : switchOf lookup name = .ok b := by
  cases h with
  | unset none => rw [Settings.switchOf, none]
  | set some word =>
    rw [Settings.switchOf, some]
    exact switch_of_mem word

/-- A meaningless switch gives a fault that blames it. -/
theorem Meaningless.switchOf (h : Meaningless lookup name value) :
    ∃ fault, switchOf lookup name = .error fault ∧ fault.Blames name value := by
  obtain ⟨given, strange⟩ := h
  rw [Settings.switchOf, given]
  exact exists_switch_error name strange

theorem Says.unique {c : Bool} (h : Says lookup name b) (h' : Says lookup name c) : b = c :=
  Except.ok.inj (h.switchOf.symm.trans h'.switchOf)

/-- The filter of the log is the value of `logVariable`, and `"warn"` if that is blank or not set.
-/
inductive Logs (lookup : String → Option String) : String → Prop
  | given {value : String} (h : lookup logVariable = some value)
      (solid : ∃ c ∈ value.toList, Text.isBlank c = false) : Logs lookup value
  | default (h : ∀ value, lookup logVariable = some value →
      ∀ c ∈ value.toList, Text.isBlank c = true) : Logs lookup "warn"

/-- `settings` are those of the variables in `lookup`. -/
structure Reads (lookup : String → Option String) (settings : Settings) : Prop where
  format_eq : settings.format = .text
  pretty : Says lookup prettyVariable settings.pretty
  batchSummary : Says lookup summaryVariable settings.batchSummary
  logFilter : Logs lookup settings.logFilter

/-- Both switches, where they are set, have a word for `true` or `false`. -/
def Legible (lookup : String → Option String) : Prop :=
  ∀ name ∈ [prettyVariable, summaryVariable], ∀ value, lookup name = some value →
    normalWord value ∈ words true ++ words false

/-- An environment is legible iff both switches say something. -/
theorem legible_iff : Legible lookup ↔
    (∃ b, Says lookup prettyVariable b) ∧ ∃ b, Says lookup summaryVariable b := by
  have word_iff (name : String) : (∃ b, Says lookup name b) ↔ ∀ value, lookup name = some value →
      normalWord value ∈ words true ++ words false := by
    constructor
    · rintro ⟨b, said⟩ value given
      cases said with
      | unset none =>
        rw [none] at given
        cases given
      | set some word =>
        obtain rfl := Option.some.inj (some.symm.trans given)
        cases b with
        | true => exact List.mem_append_left _ word
        | false => exact List.mem_append_right _ word
    · intro word
      refine (says_or_meaningless lookup name).resolve_right ?_
      rintro ⟨value, given, strange⟩
      rcases List.mem_append.mp (word value given) with yes | no
      · exact strange true yes
      · exact strange false no
  rw [Legible, List.forall_mem_cons, List.forall_mem_singleton, word_iff, word_iff]

end Settings

end EvmRisk
