import EvmRisk.Proofs.Json.Spelling
import Mathlib.Data.List.Chain

/-!
# Reading tokens

`tokens?` reads back what the grammar lets be written: `tokens?_of_spaced` says that a text in which
tokens are spelled one after the other, with any blanks between them, has just those tokens. The one
thing that the text does not show is where a numeral ends if another one follows it at once, so no
two numerals may be neighbours (`Separated`).

A numeral is followed through the phases of its `Draft`, part by part (`extendAll?`); after its last
character it may go on only with a digit, a point or the mark of an exponent, and no other token
begins with one of these (`Spaced.closed`).
-/

namespace EvmRisk.Json

open Scan

/-! ### Texts -/

theorem escaped?_of_mem {c d : Char} (h : (c, d) ∈ letterEscapes) : escaped? c = some d := by
  have all : ∀ e ∈ letterEscapes, escaped? e.1 = some e.2 := by decide
  exact all _ h

theorem ne_u_of_mem {c d : Char} (h : (c, d) ∈ letterEscapes) : c ≠ 'u' := by
  have all : ∀ e ∈ letterEscapes, e.1 ≠ 'u' := by decide
  exact all _ h

/-- The reader inside a text takes in a unit from any of its spellings. -/
theorem run_unit {u : Nat} {cs : List Char} (h : UnitSpelling u cs) (units : List Nat)
    (tokens : List Token) (rest : List Char) :
    (text units).run tokens (cs ++ rest) = (text (u :: units)).run tokens rest := by
  cases h with
  | @plain c printable noQuote noEscape =>
    have above : ¬ c.toNat < 0x20 := Nat.not_lt.mpr printable
    simp [run, step, noQuote, noEscape, above]
  | letter h => simp [run, step, ne_u_of_mem h, escaped?_of_mem h]
  | digits ha hb hc hd => simp [run, step, ha, hb, hc, hd]

/-- The reader inside a text takes in units one after the other. -/
theorem run_units {us : List Nat} {cs : List Char} (h : UnitsSpelling us cs) (units : List Nat)
    (tokens : List Token) (rest : List Char) :
    (text units).run tokens (cs ++ rest) = (text (us.reverse ++ units)).run tokens rest := by
  induction h generalizing units with
  | nil => rfl
  | cons unit _ ih => rw [List.append_assoc, run_unit unit, ih, List.reverse_cons,
      List.append_assoc, List.singleton_append]

theorem map_spell_eq_some_iff {us : List Nat} (bound : ∀ u ∈ us, u < 0x110000) {t : String} :
    (spell [] us.reverse).map String.ofList = some t ↔ Spells us t.toList := by
  rw [← spell_eq_some_iff bound, Option.map_eq_some_iff]
  constructor
  · rintro ⟨cs, hcs, rfl⟩
    rw [hcs, String.toList_ofList]
  · intro ht
    exact ⟨t.toList, ht, String.ofList_toList⟩

/-- The content of a text is what its units spell. -/
theorem map_spell_eq {us : List Nat} {body : List Char} {s : Option String}
    (h : UnitsSpelling us body) (content : ∀ t, s = some t ↔ Spells us t.toList) :
    (spell [] us.reverse).map String.ofList = s := by
  apply Option.ext
  intro t
  rw [map_spell_eq_some_iff h.lt, content t]

/-! ### Numerals -/

/-- A draft with more characters, one after the other. -/
def Draft.extendAll? (d : Draft) : List Char → Option Draft
  | [] => some d
  | c :: cs => (d.extend? c).bind fun d => d.extendAll? cs

/-- A draft takes in two runs of characters one after the other. -/
theorem Draft.extendAll?_append (d : Draft) (cs ds : List Char) :
    d.extendAll? (cs ++ ds) = (d.extendAll? cs).bind fun d => d.extendAll? ds := by
  induction cs generalizing d with
  | nil => rfl
  | cons c cs ih =>
    simp only [List.cons_append, extendAll?, Option.bind_assoc]
    exact congrArg _ (funext fun e => ih e)

/-- The reader inside a numeral extends its draft. -/
theorem run_extendAll? {d e : Draft} {cs : List Char} (h : d.extendAll? cs = some e)
    (tokens : List Token) (rest : List Char) :
    (number d).run tokens (cs ++ rest) = (number e).run tokens rest := by
  induction cs generalizing d with
  | nil => rw [← Option.some.inj h]; rfl
  | cons c cs ih =>
    obtain ⟨f, hf, he⟩ := Option.bind_eq_some_iff.mp h
    rw [List.cons_append, run, step, hf]
    exact ih he

/-- A part of a draft that takes in one digit takes in a run of them. -/
theorem extendAll?_digits {f : List Char → Draft}
    (h : ∀ c ds, c.isDigit = true → (f ds).extend? c = some (f (c :: ds))) {cs : List Char}
    (all : ∀ c ∈ cs, c.isDigit = true) (ds : List Char) :
    (f ds).extendAll? cs = some (f (cs.reverse ++ ds)) := by
  induction cs generalizing ds with
  | nil => rfl
  | cons c cs ih =>
    rw [Draft.extendAll?, h c ds (all c List.mem_cons_self), Option.bind_some,
      ih fun d hd => all d (List.mem_cons_of_mem _ hd)]
    simp

/-- A digit is none of the other characters of a numeral. -/
theorem ne_of_isDigit {c : Char} (h : c.isDigit = true) :
    c ≠ '.' ∧ c ≠ 'e' ∧ c ≠ 'E' ∧ c ≠ '+' ∧ c ≠ '-' := by
  refine ⟨?_, ?_, ?_, ?_, ?_⟩ <;> rintro rfl <;> exact absurd h (by decide)

/-- A draft takes in the digits before the point. -/
theorem extendAll?_whole {ws : List Char} (h : WholeDigits ws) (negative : Bool) :
    ∃ p, (p = .zero ∨ p = .whole) ∧ Draft.extendAll? ⟨.sign, negative, [], [], false, []⟩ ws =
      some ⟨p, negative, ws.reverse, [], false, []⟩ := by
  cases h with
  | zero => exact ⟨.zero, Or.inl rfl, rfl⟩
  | @digits c cs nonzero all =>
    refine ⟨.whole, Or.inr rfl, ?_⟩
    have first : Draft.extend? ⟨.sign, negative, [], [], false, []⟩ c =
        some ⟨.whole, negative, [c], [], false, []⟩ := by
      simp [Draft.extend?, nonzero, all c List.mem_cons_self]
    rw [Draft.extendAll?, first, Option.bind_some,
      extendAll?_digits (f := fun ds => ⟨.whole, negative, ds, [], false, []⟩)
        (fun d ds hd => by simp [Draft.extend?, hd]) fun d hd => all d (List.mem_cons_of_mem _ hd)]
    simp

/-- A draft takes in the point and the digits behind it. -/
theorem extendAll?_fraction {fs : List Char} (all : ∀ d ∈ fs, d.isDigit = true) {p : Phase}
    (hp : p = .zero ∨ p = .whole) (negative : Bool) (ws : List Char) :
    ∃ q, (q = .zero ∨ q = .whole ∨ q = .fraction) ∧
      Draft.extendAll? ⟨p, negative, ws, [], false, []⟩ (if fs.isEmpty then [] else '.' :: fs) =
        some ⟨q, negative, ws, fs.reverse, false, []⟩ := by
  cases fs with
  | nil => exact ⟨p, by rcases hp with rfl | rfl <;> simp, rfl⟩
  | cons c cs =>
    refine ⟨.fraction, Or.inr (Or.inr rfl), ?_⟩
    have point : Draft.extend? ⟨p, negative, ws, [], false, []⟩ '.' =
        some ⟨.point, negative, ws, [], false, []⟩ := by
      rcases hp with rfl | rfl <;> simp [Draft.extend?]
    have first : Draft.extend? ⟨.point, negative, ws, [], false, []⟩ c =
        some ⟨.fraction, negative, ws, [c], false, []⟩ := by
      simp [Draft.extend?, all c List.mem_cons_self]
    rw [List.isEmpty_cons, if_neg Bool.false_ne_true, Draft.extendAll?, point, Option.bind_some,
      Draft.extendAll?, first, Option.bind_some,
      extendAll?_digits (f := fun ds => ⟨.fraction, negative, ws, ds, false, []⟩)
        (fun d ds hd => by simp [Draft.extend?, hd]) fun d hd => all d (List.mem_cons_of_mem _ hd)]
    simp

theorem extendAll?_powerDigits {q : Phase} (hq : q = .mark ∨ q = .markSign) (negative sign : Bool)
    (ws fs : List Char) {c : Char} {cs : List Char} (all : ∀ d ∈ c :: cs, d.isDigit = true) :
    Draft.extendAll? ⟨q, negative, ws, fs, sign, []⟩ (c :: cs) =
      some ⟨.power, negative, ws, fs, sign, (c :: cs).reverse⟩ := by
  have isDigit := all c List.mem_cons_self
  obtain ⟨-, -, -, plus, minus⟩ := ne_of_isDigit isDigit
  have first : Draft.extend? ⟨q, negative, ws, fs, sign, []⟩ c =
      some ⟨.power, negative, ws, fs, sign, [c]⟩ := by
    rcases hq with rfl | rfl <;> simp [Draft.extend?, isDigit, plus, minus]
  rw [Draft.extendAll?, first, Option.bind_some,
    extendAll?_digits (f := fun ds => ⟨.power, negative, ws, fs, sign, ds⟩)
      (fun d ds hd => by simp [Draft.extend?, hd]) fun d hd => all d (List.mem_cons_of_mem _ hd)]
  simp

/-- A draft takes in the power of ten, and then it may end. -/
theorem extendAll?_power {exponent : Option Exponent} {cs : List Char}
    (h : ExponentSpelling exponent cs) {p : Phase} (hp : p = .zero ∨ p = .whole ∨ p = .fraction)
    (negative : Bool) (ws fs : List Char) :
    ∃ d, Draft.extendAll? ⟨p, negative, ws, fs, false, []⟩ cs = some d ∧
      d.phase.isFinal = true ∧ d.numeral = ⟨negative, ws.reverse, fs.reverse, exponent⟩ := by
  have marked {mark : Char} (isMark : mark = 'e' ∨ mark = 'E') (cs : List Char) :
      Draft.extendAll? ⟨p, negative, ws, fs, false, []⟩ (mark :: cs) =
        Draft.extendAll? ⟨.mark, negative, ws, fs, false, []⟩ cs := by
    rcases isMark with rfl | rfl <;> rcases hp with rfl | rfl | rfl <;> rfl
  -- The digits follow the mark and the sign, if there is one; a plus sign leaves no trace.
  cases h with
  | none =>
    refine ⟨_, rfl, ?_, by simp [Draft.numeral]⟩
    rcases hp with rfl | rfl | rfl <;> rfl
  | @minus mark c cs isMark all =>
    have digits := extendAll?_powerDigits (Or.inr rfl) negative true ws fs all
    have sign : Draft.extendAll? ⟨.mark, negative, ws, fs, false, []⟩ ('-' :: c :: cs) =
        Draft.extendAll? ⟨.markSign, negative, ws, fs, true, []⟩ (c :: cs) := rfl
    exact ⟨_, (marked isMark _).trans (sign.trans digits), rfl, by simp [Draft.numeral]⟩
  | @plus mark c cs isMark all =>
    have digits := extendAll?_powerDigits (Or.inr rfl) negative false ws fs all
    have sign : Draft.extendAll? ⟨.mark, negative, ws, fs, false, []⟩ ('+' :: c :: cs) =
        Draft.extendAll? ⟨.markSign, negative, ws, fs, false, []⟩ (c :: cs) := rfl
    exact ⟨_, (marked isMark _).trans (sign.trans digits), rfl, by simp [Draft.numeral]⟩
  | @unsigned mark c cs isMark all =>
    have digits := extendAll?_powerDigits (Or.inl rfl) negative false ws fs all
    exact ⟨_, (marked isMark _).trans digits, rfl, by simp [Draft.numeral]⟩

/-- The draft before the first digit, with its sign. -/
def Draft.unsigned (negative : Bool) : Draft := ⟨.sign, negative, [], [], false, []⟩

/-- A draft takes in all digits of a numeral and is then a draft of it. -/
theorem extendAll?_numeral {whole fraction power : List Char} {exponent : Option Exponent}
    (isWhole : WholeDigits whole) (all : ∀ d ∈ fraction, d.isDigit = true)
    (isPower : ExponentSpelling exponent power) (negative : Bool) :
    ∃ d, (Draft.unsigned negative).extendAll?
        (whole ++ ((if fraction.isEmpty then [] else '.' :: fraction) ++ power)) = some d ∧
      d.phase.isFinal = true ∧ d.numeral = ⟨negative, whole, fraction, exponent⟩ := by
  obtain ⟨p, hp, first⟩ := extendAll?_whole isWhole negative
  obtain ⟨q, hq, second⟩ := extendAll?_fraction all hp negative whole.reverse
  obtain ⟨d, third, final, numeral⟩ :=
    extendAll?_power isPower hq negative whole.reverse fraction.reverse
  -- The three parts are read one after the other, each from where the one before it ended.
  refine ⟨d, ?_, final, by simpa using numeral⟩
  rw [Draft.extendAll?_append, Draft.unsigned, first, Option.bind_some, Draft.extendAll?_append,
    second, Option.bind_some, third]

/-! ### One token -/

/-- `c` may make a numeral longer that could end before it. -/
def extendsNumeral (c : Char) : Bool := c.isDigit || c == '.' || c == 'e' || c == 'E'

/-- The text does not begin with a character that makes a numeral longer. -/
def Closed (cs : List Char) : Prop := ∀ c ∈ cs.head?, extendsNumeral c = false

/-- A numeral that may end is not made longer by any other character. -/
theorem extend?_eq_none {d : Draft} {c : Char} (final : d.phase.isFinal = true)
    (h : extendsNumeral c = false) : d.extend? c = none := by
  simp only [extendsNumeral, Bool.or_eq_false_iff, beq_eq_false_iff_ne] at h
  obtain ⟨⟨⟨isDigit, point⟩, small⟩, large⟩ := h
  cases hp : d.phase <;> simp_all [Phase.isFinal, Draft.extend?]

/-- The reader ends a numeral in front of a closed text. -/
theorem run_number {d : Draft} (final : d.phase.isFinal = true) {rest : List Char}
    (closed : Closed rest) (tokens : List Token) :
    (number d).run tokens rest = between.run (.number d.numeral :: tokens) rest := by
  cases rest with
  | nil => simp [run, finish?, final]
  | cons c rest =>
    have none := extend?_eq_none final (closed c rfl)
    simp only [run, step, none, final, if_true]

theorem begin?_digit {c : Char} (isDigit : c.isDigit = true) (nonzero : c ≠ '0')
    (tokens : List Token) :
    begin? tokens c = some (number { phase := .whole, whole := [c] }, tokens) := by
  unfold begin?
  split
  case h_17 => rw [if_pos isDigit]
  case h_16 => exact absurd rfl nonzero
  all_goals exact absurd isDigit (by decide)

/-- A numeral without a sign begins with its first digit. -/
theorem run_whole {whole : List Char} (h : WholeDigits whole) (tokens : List Token)
    (rest : List Char) :
    between.run tokens (whole ++ rest) =
      (number (Draft.unsigned false)).run tokens (whole ++ rest) := by
  cases h with
  | zero => rfl
  | @digits c cs nonzero all =>
    have isDigit := all c List.mem_cons_self
    have first : (Draft.unsigned false).extend? c = some { phase := .whole, whole := [c] } := by
      simp [Draft.unsigned, Draft.extend?, nonzero, isDigit]
    simp only [List.cons_append, run, step, begin?_digit isDigit nonzero, first]

/-- The reader takes in a numeral in front of a closed text. -/
theorem run_numeral {n : Numeral} {word : List Char} (h : NumeralSpelling n word)
    {rest : List Char} (closed : Closed rest) (tokens : List Token) :
    between.run tokens (word ++ rest) = between.run (.number n :: tokens) rest := by
  cases h with
  | @intro negative whole fraction power exponent isWhole all isPower =>
    obtain ⟨d, read, final, numeral⟩ := extendAll?_numeral isWhole all isPower negative
    -- A minus sign leads to the same place as no sign, where the first digit is still to come.
    have body := (run_extendAll? read tokens rest).trans (run_number final closed tokens)
    rw [numeral] at body
    cases negative with
    | true => exact body
    | false => rwa [List.append_assoc, ← run_whole isWhole, ← List.append_assoc] at body

/-- **The reader takes in a token from any of its spellings**, whatever follows; only behind a
numeral the text must be closed. -/
theorem run_spelled {t : Token} {word : List Char} (h : t.Spelled word) {rest : List Char}
    (closed : ∀ n, t = .number n → Closed rest) (tokens : List Token) :
    between.run tokens (word ++ rest) = between.run (t :: tokens) rest := by
  cases h with
  | number h => exact run_numeral h (closed _ rfl) tokens
  | @string units body s h content =>
    have whole := map_spell_eq h content
    have read := run_units h [] tokens ('"' :: rest)
    rw [List.append_nil] at read
    calc between.run tokens ('"' :: (body ++ ['"']) ++ rest)
        = (text []).run tokens (body ++ '"' :: rest) := by
          rw [List.cons_append, List.append_assoc]; rfl
      _ = (text units.reverse).run tokens ('"' :: rest) := read
      _ = between.run (.string s :: tokens) rest := by rw [← whole]; rfl
  | _ => rfl

/-! ### All tokens -/

/-- No two numerals among `ts` are neighbours. -/
def Separated (ts : List Token) : Prop :=
  ts.IsChain fun t u => ∀ n m, ¬ (t = .number n ∧ u = .number m)

theorem Token.Spelled.closed {t : Token} {word : List Char} (h : t.Spelled word)
    (notNumber : ∀ n, t ≠ .number n) (rest : List Char) : Closed (word ++ rest) := by
  cases h with
  | number => exact absurd rfl (notNumber _)
  | _ =>
    intro c hc
    obtain rfl := Option.some.inj hc
    rfl

/-- A text of tokens that do not begin with a numeral is closed. -/
theorem Spaced.closed {ts : List Token} {cs : List Char} (h : Spaced ts cs)
    (notNumber : ∀ n, ts.head? ≠ some (.number n)) : Closed cs := by
  cases h with
  | nil => exact fun c hc => absurd hc (by simp)
  | blank isBlank =>
    intro c hc
    obtain rfl := Option.some.inj hc
    simp only [List.mem_cons, List.not_mem_nil, or_false] at isBlank
    rcases isBlank with rfl | rfl | rfl | rfl <;> rfl
  | token spelled => exact spelled.closed (fun n hn => notNumber n (congrArg some hn)) _

theorem run_blank {c : Char} (isBlank : c ∈ [' ', '\t', '\n', '\r']) (tokens : List Token)
    (rest : List Char) : between.run tokens (c :: rest) = between.run tokens rest := by
  simp only [List.mem_cons, List.not_mem_nil, or_false] at isBlank
  rcases isBlank with rfl | rfl | rfl | rfl <;> rfl

/-- The reader takes in a text of tokens to its end. -/
theorem run_spaced {ts : List Token} {cs : List Char} (h : Spaced ts cs) (separated : Separated ts)
    (tokens : List Token) : between.run tokens cs = some (tokens.reverse ++ ts) := by
  induction h generalizing tokens with
  | nil => simp [run, finish?]
  | blank isBlank _ ih => rw [run_blank isBlank, ih separated]
  | @token t ts word cs spelled rest ih =>
    -- After a numeral there comes no other one, so that what comes cannot make it longer.
    have closed (n : Numeral) (hn : t = .number n) : Closed cs :=
      rest.closed fun m hm => separated.rel_head? hm n m ⟨hn, rfl⟩
    rw [run_spelled spelled closed, ih separated.tail, List.reverse_cons, List.append_assoc,
      List.singleton_append]

/-- **A text in which tokens are spelled has these tokens**, if no two numerals are neighbours. -/
theorem tokens?_of_spaced {ts : List Token} {cs : List Char} (h : Spaced ts cs)
    (separated : Separated ts) : tokens? cs = some ts :=
  run_spaced h separated []

end EvmRisk.Json
