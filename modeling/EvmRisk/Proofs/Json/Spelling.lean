import EvmRisk.Json.Token
import Mathlib.Tactic.SplitIfs

/-!
# How tokens may be written

The grammar of tokens, apart from any reader. A text between quotes is a list of units, each of
which may be written in several ways (`UnitSpelling`); `Spells` says which characters a list of
units stands for, so that a text which names half of a character stands for none. A numeral has
digits without a needless zero in front, and an exponent with or without a sign (`NumeralSpelling`).
`Token.Spelled` puts these together, and `Spaced` lets blanks stand between tokens.

What `Token.text` writes is one of the spellings (`Token.spelled_text`), and the units of a text are
put together as the grammar says (`spell_eq_some_iff`).
-/

namespace EvmRisk.Json

/-! ### Texts -/

/-- The letters that may follow a backslash, and the characters they stand for. -/
def letterEscapes : List (Char × Char) :=
  [('"', '"'), ('\\', '\\'), ('/', '/'), ('b', '\x08'), ('f', '\x0c'), ('n', '\n'), ('r', '\r'),
    ('t', '\t')]

/-- The ways to write a unit of a text. -/
inductive UnitSpelling : Nat → List Char → Prop where
  /-- A character by itself, unless it ends the text, begins an escape or is below the space. -/
  | plain {c : Char} (printable : 0x20 ≤ c.toNat) (noQuote : c ≠ '"') (noEscape : c ≠ '\\') :
    UnitSpelling c.toNat [c]
  | letter {c d : Char} (h : (c, d) ∈ letterEscapes) : UnitSpelling d.toNat ['\\', c]
  | digits {a b c d : Char} {w x y z : Nat} (ha : Text.Hex.digitValue? a = some w)
    (hb : Text.Hex.digitValue? b = some x) (hc : Text.Hex.digitValue? c = some y)
    (hd : Text.Hex.digitValue? d = some z) :
    UnitSpelling (16 * (16 * (16 * w + x) + y) + z) ['\\', 'u', a, b, c, d]

/-- The ways to write a list of units. -/
inductive UnitsSpelling : List Nat → List Char → Prop where
  | nil : UnitsSpelling [] []
  | cons {u : Nat} {us : List Nat} {cs rest : List Char} (unit : UnitSpelling u cs)
    (units : UnitsSpelling us rest) : UnitsSpelling (u :: us) (cs ++ rest)

/-- The characters that units stand for. -/
inductive Spells : List Nat → List Char → Prop where
  | nil : Spells [] []
  /-- A unit that is a character stands for it. -/
  | single (c : Char) {us : List Nat} {cs : List Char} (rest : Spells us cs) :
    Spells (c.toNat :: us) (c :: cs)
  /-- Two halves stand for the character that they make up. -/
  | pair {high low : Nat} {us : List Nat} {cs : List Char} (isHigh : isHighUnit high = true)
    (isLow : isLowUnit low = true) (rest : Spells us cs) :
    Spells (high :: low :: us) (Char.ofNat (joinUnits high low) :: cs)

/-! ### Numerals -/

/-- The digits before the point: a zero alone, or digits that begin with another one. -/
inductive WholeDigits : List Char → Prop where
  | zero : WholeDigits ['0']
  | digits {c : Char} {cs : List Char} (nonzero : c ≠ '0')
    (all : ∀ d ∈ c :: cs, d.isDigit = true) : WholeDigits (c :: cs)

/-- The ways to write a power of ten. -/
inductive ExponentSpelling : Option Exponent → List Char → Prop where
  | none : ExponentSpelling none []
  | minus {mark c : Char} {cs : List Char} (isMark : mark = 'e' ∨ mark = 'E')
    (all : ∀ d ∈ c :: cs, d.isDigit = true) :
    ExponentSpelling (some ⟨true, c :: cs⟩) (mark :: '-' :: c :: cs)
  | plus {mark c : Char} {cs : List Char} (isMark : mark = 'e' ∨ mark = 'E')
    (all : ∀ d ∈ c :: cs, d.isDigit = true) :
    ExponentSpelling (some ⟨false, c :: cs⟩) (mark :: '+' :: c :: cs)
  | unsigned {mark c : Char} {cs : List Char} (isMark : mark = 'e' ∨ mark = 'E')
    (all : ∀ d ∈ c :: cs, d.isDigit = true) :
    ExponentSpelling (some ⟨false, c :: cs⟩) (mark :: c :: cs)

/-- The ways to write a numeral. -/
inductive NumeralSpelling : Numeral → List Char → Prop where
  | intro (negative : Bool) {whole fraction power : List Char} {exponent : Option Exponent}
    (isWhole : WholeDigits whole) (all : ∀ d ∈ fraction, d.isDigit = true)
    (isPower : ExponentSpelling exponent power) :
    NumeralSpelling ⟨negative, whole, fraction, exponent⟩
      ((if negative then ['-'] else []) ++ (whole ++
        ((if fraction.isEmpty then [] else '.' :: fraction) ++ power)))

/-! ### Tokens -/

/-- The ways to write a token. -/
inductive Token.Spelled : Token → List Char → Prop where
  | openArray : Spelled .openArray ['[']
  | closeArray : Spelled .closeArray [']']
  | openObject : Spelled .openObject ['\x7b']
  | closeObject : Spelled .closeObject ['\x7d']
  | comma : Spelled .comma [',']
  | colon : Spelled .colon [':']
  | null : Spelled .null ['n', 'u', 'l', 'l']
  | true : Spelled (.bool true) ['t', 'r', 'u', 'e']
  | false : Spelled (.bool false) ['f', 'a', 'l', 's', 'e']
  | number {n : Numeral} {cs : List Char} (h : NumeralSpelling n cs) : Spelled (.number n) cs
  /-- A text, whose content is what its units spell, if they spell anything. -/
  | string {units : List Nat} {body : List Char} {s : Option String}
    (h : UnitsSpelling units body) (content : ∀ t, s = some t ↔ Spells units t.toList) :
    Spelled (.string s) ('"' :: (body ++ ['"']))

/-- Tokens one after the other, each in one of its spellings, with blanks between them and around
them or not. -/
inductive Spaced : List Token → List Char → Prop where
  | nil : Spaced [] []
  | blank {c : Char} {ts : List Token} {cs : List Char} (isBlank : c ∈ [' ', '\t', '\n', '\r'])
    (rest : Spaced ts cs) : Spaced ts (c :: cs)
  | token {t : Token} {ts : List Token} {word cs : List Char} (spelled : t.Spelled word)
    (rest : Spaced ts cs) : Spaced (t :: ts) (word ++ cs)

/-! ### What units spell -/

/-- Two lists of units stand for two lists of characters. -/
theorem Spells.append {us vs : List Nat} {cs ds : List Char} (h : Spells us cs)
    (h' : Spells vs ds) : Spells (us ++ vs) (cs ++ ds) := by
  induction h with
  | nil => exact h'
  | single c _ ih => exact .single c ih
  | pair isHigh isLow _ ih => exact .pair isHigh isLow ih

/-- The code of a character is neither a high nor a low half. -/
theorem not_isUnit_toNat (c : Char) : isHighUnit c.toNat = false ∧ isLowUnit c.toNat = false := by
  have valid : c.toNat < 0xd800 ∨ 0xdfff < c.toNat ∧ c.toNat < 0x110000 := c.valid
  simp only [isHighUnit, isLowUnit, Bool.and_eq_false_iff, decide_eq_false_iff_not]
  omega

theorem toNat_ofNat_of_not_isUnit {u : Nat} (bound : u < 0x110000) (high : isHighUnit u = false)
    (low : isLowUnit u = false) : (Char.ofNat u).toNat = u := by
  simp only [isHighUnit, isLowUnit, Bool.and_eq_false_iff, decide_eq_false_iff_not] at high low
  have valid : u.isValidChar := by
    show u < 0xd800 ∨ 0xdfff < u ∧ u < 0x110000
    omega
  rw [Char.ofNat, dif_pos valid]
  rfl

/-- `spell` puts the characters of earlier units in front of those of later ones. -/
theorem spell_of_spells {us : List Nat} {cs : List Char} (h : Spells us cs) (after : List Char)
    (earlier : List Nat) : spell after (us.reverse ++ earlier) = spell (cs ++ after) earlier := by
  induction h generalizing earlier with
  | nil => rfl
  | @single c us cs _ ih =>
    obtain ⟨high, low⟩ := not_isUnit_toNat c
    rw [List.reverse_cons, List.append_assoc, ih]
    cases earlier <;> simp [spell, high, low]
  | @pair high low us cs isHigh isLow _ ih =>
    rw [List.reverse_cons, List.reverse_cons, List.append_assoc, List.append_assoc, ih]
    simp [spell, isHigh, isLow]

/-- `spell` puts characters in front of `after`, and the units stand for these. -/
theorem spells_of_spell {after out : List Char} {units : List Nat}
    (bound : ∀ u ∈ units, u < 0x110000) (h : spell after units = some out) :
    ∃ cs, out = cs ++ after ∧ Spells units.reverse cs := by
  fun_induction spell after units with
  | case1 after => exact ⟨[], (Option.some.inj h).symm, .nil⟩
  | case2 after u half => exact absurd h (by simp)
  | case3 after u whole =>
    obtain ⟨high, low⟩ := Bool.or_eq_false_iff.mp (Bool.eq_false_iff.mpr whole)
    have single := Spells.single (Char.ofNat u) .nil
    rw [toNat_ofNat_of_not_isUnit (bound u (by simp)) high low] at single
    exact ⟨[Char.ofNat u], (Option.some.inj h).symm, single⟩
  | case4 after u v earlier isLow isHigh ih =>
    obtain ⟨cs, rfl, spells⟩ := ih (fun w hw => bound w (by simp [hw])) h
    refine ⟨cs ++ [Char.ofNat (joinUnits v u)], by simp, ?_⟩
    rw [List.reverse_cons, List.reverse_cons, List.append_assoc]
    exact spells.append (.pair isHigh isLow .nil)
  | case5 => exact absurd h (by simp)
  | case6 => exact absurd h (by simp)
  | case7 after u v earlier notLow notHigh ih =>
    obtain ⟨cs, rfl, spells⟩ := ih (fun w hw => bound w (by simp_all)) h
    have single := Spells.single (Char.ofNat u) .nil
    rw [toNat_ofNat_of_not_isUnit (bound u (by simp)) (Bool.eq_false_iff.mpr notHigh)
      (Bool.eq_false_iff.mpr notLow)] at single
    refine ⟨cs ++ [Char.ofNat u], by simp, ?_⟩
    rw [List.reverse_cons]
    exact spells.append single

/-- **`spell` puts units together as the grammar says.** -/
theorem spell_eq_some_iff {us : List Nat} (bound : ∀ u ∈ us, u < 0x110000) {cs : List Char} :
    spell [] us.reverse = some cs ↔ Spells us cs := by
  constructor
  · intro h
    obtain ⟨ds, rfl, spells⟩ := spells_of_spell (fun u hu => bound u (by simpa using hu)) h
    rwa [List.reverse_reverse, ← List.append_nil ds] at spells
  · intro h
    have := spell_of_spells h [] []
    rwa [List.append_nil, List.append_nil] at this

theorem UnitSpelling.lt {u : Nat} {cs : List Char} (h : UnitSpelling u cs) : u < 0x110000 := by
  have toNat_lt (c : Char) : c.toNat < 0x110000 := by
    have valid : c.toNat < 0xd800 ∨ 0xdfff < c.toNat ∧ c.toNat < 0x110000 := c.valid
    omega
  cases h with
  | plain => exact toNat_lt _
  | letter => exact toNat_lt _
  | digits ha hb hc hd =>
    have := Text.Hex.digitValue?_lt ha
    have := Text.Hex.digitValue?_lt hb
    have := Text.Hex.digitValue?_lt hc
    have := Text.Hex.digitValue?_lt hd
    omega

theorem UnitsSpelling.lt {us : List Nat} {cs : List Char} (h : UnitsSpelling us cs) :
    ∀ u ∈ us, u < 0x110000 := by
  induction h with
  | nil => simp
  | cons unit _ ih => exact List.forall_mem_cons.mpr ⟨unit.lt, ih⟩

/-! ### Texts cut in pieces -/

/-- Two texts of tokens, one after the other, are a text of all these tokens. -/
theorem Spaced.append {ts us : List Token} {cs ds : List Char} (h : Spaced ts cs)
    (h' : Spaced us ds) : Spaced (ts ++ us) (cs ++ ds) := by
  induction h with
  | nil => exact h'
  | blank isBlank _ ih => exact .blank isBlank ih
  | token spelled _ ih =>
    rw [List.append_assoc]
    exact .token spelled ih

/-- A text of tokens can be cut between any two of them. -/
theorem Spaced.split {ts us : List Token} {cs : List Char} (h : Spaced (ts ++ us) cs) :
    ∃ front back, cs = front ++ back ∧ Spaced ts front ∧ Spaced us back := by
  generalize all : ts ++ us = vs at h
  induction h generalizing ts with
  | nil =>
    obtain ⟨rfl, rfl⟩ := List.append_eq_nil_iff.mp all
    exact ⟨[], [], rfl, .nil, .nil⟩
  | blank isBlank _ ih =>
    obtain ⟨front, back, rfl, first, second⟩ := ih all
    exact ⟨_ :: front, back, rfl, .blank isBlank first, second⟩
  | @token t vs word cs spelled rest ih =>
    cases ts with
    | nil =>
      have same : us = t :: vs := all
      exact ⟨[], word ++ cs, rfl, .nil, same ▸ .token spelled rest⟩
    | cons u ts =>
      obtain ⟨rfl, others⟩ := List.cons.inj all
      obtain ⟨front, back, rfl, first, second⟩ := ih others
      exact ⟨word ++ front, back, (List.append_assoc ..).symm, .token spelled first, second⟩

/-- A text of one token is the token with blanks around it. -/
theorem Spaced.single {t : Token} {cs : List Char} (h : Spaced [t] cs) :
    ∃ before word after, cs = before ++ word ++ after ∧ t.Spelled word ∧
      Spaced [] before ∧ Spaced [] after := by
  generalize all : [t] = ts at h
  induction h with
  | nil => exact absurd all (by simp)
  | blank isBlank _ ih =>
    obtain ⟨before, word, after, rfl, spelled, blanks, others⟩ := ih all
    exact ⟨_ :: before, word, after, rfl, spelled, .blank isBlank blanks, others⟩
  | @token u us word cs spelled rest =>
    obtain ⟨rfl, rfl⟩ := List.cons.inj all
    exact ⟨[], word, cs, rfl, spelled, .nil, rest⟩

/-! ### What is written is a spelling -/

/-- `escapeChar c` spells the unit of `c`. -/
theorem unitSpelling_escapeChar (c : Char) : UnitSpelling c.toNat (escapeChar c) := by
  unfold escapeChar
  split
  case h_8 quote escape _ _ _ _ _ =>
    split_ifs with control
    · -- Two zeros and the two digits of the number.
      have value : 16 * (16 * (16 * 0 + 0) + c.toNat / 16) + c.toNat % 16 = c.toNat := by omega
      have zero : Text.Hex.digitValue? '0' = some 0 := rfl
      have spelled := UnitSpelling.digits zero zero
        (Text.Hex.digitValue?_digitChar (c.toNat / 16) (by omega))
        (Text.Hex.digitValue?_digitChar (c.toNat % 16) (by omega))
      rw [value] at spelled
      exact spelled
    · exact .plain (Nat.le_of_not_lt control) (fun h => quote h) (fun h => escape h)
  all_goals exact .letter (by decide)

theorem unitsSpelling_escape (cs : List Char) :
    UnitsSpelling (cs.map Char.toNat) (cs.flatMap escapeChar) := by
  induction cs with
  | nil => exact .nil
  | cons c cs ih => exact .cons (unitSpelling_escapeChar c) ih

theorem spells_map_toNat (cs : List Char) : Spells (cs.map Char.toNat) cs := by
  induction cs with
  | nil => exact .nil
  | cons c cs ih => exact .single c ih

theorem Spells.unique {us : List Nat} {cs ds : List Char} (bound : ∀ u ∈ us, u < 0x110000)
    (h : Spells us cs) (h' : Spells us ds) : cs = ds :=
  Option.some.inj (((spell_eq_some_iff bound).mpr h).symm.trans ((spell_eq_some_iff bound).mpr h'))

/-- `quote s` spells the token of `s`. -/
theorem spelled_quote (s : String) : Token.Spelled (.string (some s)) (quote s) := by
  refine .string (unitsSpelling_escape s.toList) fun t => ?_
  constructor
  · intro h
    rw [← Option.some.inj h]
    exact spells_map_toNat s.toList
  · intro h
    have same := (spells_map_toNat s.toList).unique (unitsSpelling_escape s.toList).lt h
    rw [String.toList_injective same]

theorem spelled_halfCharacter : Token.Spelled (.string none) (Token.text (.string none)) := by
  have half : UnitSpelling 0xd800 ['\\', 'u', 'd', '8', '0', '0'] :=
    .digits (w := 13) (x := 8) (y := 0) (z := 0) rfl rfl rfl rfl
  refine .string (.cons half .nil) fun t => ⟨fun h => absurd h (by simp), fun h => ?_⟩
  have whole := (spell_eq_some_iff (by decide)).mpr h
  exact absurd whole (by simp [spell, isHighUnit])

/-- **`t.text` is one of the spellings of `t`**, if it is one for numerals. -/
theorem Token.spelled_text (t : Token) (h : ∀ n, t = .number n → NumeralSpelling n n.text) :
    t.Spelled t.text := by
  cases t with
  | openArray => exact .openArray
  | closeArray => exact .closeArray
  | openObject => exact .openObject
  | closeObject => exact .closeObject
  | comma => exact .comma
  | colon => exact .colon
  | null => exact .null
  | bool b => cases b with
    | true => exact .true
    | false => exact .false
  | number n => exact .number (h n rfl)
  | string s => cases s with
    | none => exact spelled_halfCharacter
    | some s => exact spelled_quote s

end EvmRisk.Json
