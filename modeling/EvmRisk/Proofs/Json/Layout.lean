import EvmRisk.Proofs.Json.Values
import EvmRisk.Proofs.Text.Hexadecimal
import Mathlib.Data.Bool.AllAny

/-!
# The layout of documents

What is written for a value has its blanks in two places: inside of texts, where they are part of
the value, and between tokens, where they are layout. A scanner that looks at one character after
the other tells them apart, if it remembers whether it is inside of a text and whether a backslash
came last (`Quoting`). `squeeze` deletes the blanks that it finds outside.

The scanner keeps every token as it is and stands outside again behind it
(`Token.Spelled.keeps`). So a value with a line for every part is the value on one line, once the
layout is deleted (`Value.squeeze_pretty`). On one line there is no layout at all, and no character
below the space, since inside of texts those are escaped (`Value.printable_compact`).
-/

namespace EvmRisk.Json

/-! ### Inside of texts and outside -/

/-- Where a scanner stands: outside of texts, inside of one, or behind a backslash in one. -/
inductive Quoting where
  | outside
  | inside
  | escaped
  deriving DecidableEq

namespace Quoting

/-- One character further. -/
def next : Quoting → Char → Quoting
  | outside, c => if c = '"' then inside else outside
  | inside, c => if c = '"' then outside else if c = '\\' then escaped else inside
  | escaped, _ => inside

/-- The characters that a scanner comes to, without the blanks that it meets outside of texts. -/
def squeeze (q : Quoting) : List Char → List Char
  | [] => []
  | c :: cs =>
    if q = outside ∧ Text.isBlank c = true then squeeze (q.next c) cs
    else c :: squeeze (q.next c) cs

/-- The scanner deletes nothing of `word`, and stands at `r` behind it. -/
def Keeps (q : Quoting) (word : List Char) (r : Quoting) : Prop :=
  ∀ rest, q.squeeze (word ++ rest) = word ++ r.squeeze rest

theorem keeps_nil (q : Quoting) : q.Keeps [] q := fun _ => rfl

theorem Keeps.append {q r s : Quoting} {front back : List Char} (h : q.Keeps front r)
    (h' : r.Keeps back s) : q.Keeps (front ++ back) s := by
  intro rest
  rw [List.append_assoc, h, h', List.append_assoc]

theorem Keeps.cons {q r : Quoting} {c : Char} {word : List Char}
    (kept : ¬(q = outside ∧ Text.isBlank c = true)) (h : (q.next c).Keeps word r) :
    q.Keeps (c :: word) r := by
  intro rest
  rw [List.cons_append, squeeze, if_neg kept, h, List.cons_append]

/-- Outside of texts words stay if they have no blanks; no quote begins a text in them. -/
theorem keeps_outside {word : List Char}
    (plain : ∀ c ∈ word, Text.isBlank c = false ∧ c ≠ '"') : outside.Keeps word outside := by
  induction word with
  | nil => exact keeps_nil _
  | cons c word ih =>
    obtain ⟨⟨solid, noQuote⟩, others⟩ := List.forall_mem_cons.mp plain
    refine .cons (fun ⟨_, blank⟩ => ?_) ?_
    · rw [solid] at blank
      cases blank
    · rw [next, if_neg noQuote]
      exact ih others

/-- Inside of texts all words stay; no quote ends the text in them, and no backslash escapes. -/
theorem keeps_inside {word : List Char} (plain : ∀ c ∈ word, c ≠ '"' ∧ c ≠ '\\') :
    inside.Keeps word inside := by
  induction word with
  | nil => exact keeps_nil _
  | cons c word ih =>
    obtain ⟨⟨noQuote, noEscape⟩, others⟩ := List.forall_mem_cons.mp plain
    refine .cons (by simp) ?_
    rw [next, if_neg noQuote, if_neg noEscape]
    exact ih others

theorem squeeze_blanks {blanks : List Char} (h : ∀ c ∈ blanks, Text.isBlank c = true)
    (rest : List Char) : outside.squeeze (blanks ++ rest) = outside.squeeze rest := by
  induction blanks with
  | nil => rfl
  | cons c blanks ih =>
    obtain ⟨blank, others⟩ := List.forall_mem_cons.mp h
    have noQuote : c ≠ '"' := by
      rintro rfl
      exact absurd blank (by decide)
    rw [List.cons_append, squeeze, if_pos ⟨rfl, blank⟩, next, if_neg noQuote, ih others]

end Quoting

open Quoting (inside outside)

/-! ### Tokens are kept -/

theorem plain_of_digit {c : Char} (h : (Text.Hex.digitValue? c).isSome = true) :
    c ≠ '"' ∧ c ≠ '\\' ∧ 0x20 ≤ c.toNat :=
  Text.ascii_induction (p := fun c => (Text.Hex.digitValue? c).isSome = true →
    c ≠ '"' ∧ c ≠ '\\' ∧ 0x20 ≤ c.toNat) (by decide) (Text.Hex.ascii_of_digit h) h

/-- A unit of a text is kept. -/
theorem UnitSpelling.keeps {u : Nat} {cs : List Char} (h : UnitSpelling u cs) :
    inside.Keeps cs inside := by
  have escape {c : Char} : ¬(inside.next '\\' = outside ∧ Text.isBlank c = true) :=
    fun ⟨same, _⟩ => absurd same (by decide)
  cases h with
  | plain _ noQuote noEscape =>
    exact Quoting.keeps_inside (List.forall_mem_singleton.mpr ⟨noQuote, noEscape⟩)
  | letter => exact .cons nofun (.cons escape (Quoting.keeps_nil _))
  | digits ha hb hc hd =>
    refine .cons nofun (.cons escape (Quoting.keeps_inside ?_))
    have plain {c : Char} {n : Nat} (value : Text.Hex.digitValue? c = some n) :
        c ≠ '"' ∧ c ≠ '\\' := by
      obtain ⟨noQuote, noEscape, -⟩ := plain_of_digit (Option.isSome_of_eq_some value)
      exact ⟨noQuote, noEscape⟩
    simp only [List.forall_mem_cons]
    exact ⟨plain ha, plain hb, plain hc, plain hd, nofun⟩

theorem UnitsSpelling.keeps {us : List Nat} {cs : List Char} (h : UnitsSpelling us cs) :
    inside.Keeps cs inside := by
  induction h with
  | nil => exact Quoting.keeps_nil _
  | cons unit _ ih => exact unit.keeps.append ih

/-- A numeral is kept, since it has no quote and no blank. -/
theorem NumeralSpelling.keeps {n : Numeral} {cs : List Char} (h : NumeralSpelling n cs) :
    outside.Keeps cs outside := by
  have digit (c : Char) (h : c.isDigit = true) : Text.isBlank c = false ∧ c ≠ '"' := by
    refine ⟨isBlank_of_isDigit h, ?_⟩
    rintro rfl
    exact absurd h (by decide)
  exact Quoting.keeps_outside (h.forall_mem digit (List.all_iff_forall_prop.mp rfl))

/-- **Every token is kept**, and the scanner stands outside behind it. -/
theorem Token.Spelled.keeps {t : Token} {word : List Char} (h : t.Spelled word) :
    outside.Keeps word outside := by
  cases h with
  | number h => exact h.keeps
  | string units =>
    exact .cons (by decide) (units.keeps.append (.cons (by decide) (Quoting.keeps_nil _)))
  | _ => exact Quoting.keeps_outside (List.all_iff_forall_prop.mp rfl)

/-- The characters of a layout between tokens are deleted, and the tokens are kept. -/
theorem squeeze_layout {layout : Piece → List Char} (word : ∀ t, layout (.token t) = t.text)
    (blank : ∀ p, p.token? = none → ∀ c ∈ layout p, c ∈ [' ', '\t', '\n', '\r'])
    {ps : List Piece} (proper : ∀ t ∈ tokensOf ps, t.Proper) (rest : List Char) :
    outside.squeeze (ps.flatMap layout ++ rest) =
      (tokensOf ps).flatMap Token.text ++ outside.squeeze rest := by
  have skip {p : Piece} {ps : List Piece} (none : p.token? = none) :
      outside.squeeze ((p :: ps).flatMap layout ++ rest) =
        outside.squeeze (ps.flatMap layout ++ rest) := by
    rw [List.flatMap_cons, List.append_assoc,
      Quoting.squeeze_blanks fun c mem => isBlank_of_mem (blank p none c mem)]
  -- In front of every piece and behind it the scanner stands outside.
  induction ps with
  | nil => rfl
  | cons p ps ih =>
    cases p with
    | token t =>
      obtain ⟨first, others⟩ := List.forall_mem_cons.mp proper
      rw [List.flatMap_cons, word, List.append_assoc, (t.spelled_text first).keeps, ih others,
        tokensOf_token, List.flatMap_cons, List.append_assoc]
    | gap => rw [skip rfl, ih proper, tokensOf_gap]
    | line depth => rw [skip rfl, ih proper, tokensOf_line]

/-- On one line there are only the tokens. -/
theorem flatMap_compact (ps : List Piece) :
    ps.flatMap Piece.compact = (tokensOf ps).flatMap Token.text := by
  induction ps with
  | nil => rfl
  | cons p ps ih =>
    rw [List.flatMap_cons, ih]
    cases p <;> rfl

/-! ### No control characters -/

/-- A unit of a text is spelled without control characters. -/
theorem UnitSpelling.printable {u : Nat} {cs : List Char} (h : UnitSpelling u cs) :
    ∀ c ∈ cs, 0x20 ≤ c.toNat := by
  cases h with
  | plain printable => exact List.forall_mem_singleton.mpr printable
  | @letter c d listed =>
    have letters : ∀ pair ∈ letterEscapes, 0x20 ≤ pair.1.toNat := by decide
    simp only [List.forall_mem_cons]
    exact ⟨by decide, letters _ listed, nofun⟩
  | digits ha hb hc hd =>
    have printable {c : Char} {n : Nat} (value : Text.Hex.digitValue? c = some n) :
        0x20 ≤ c.toNat := (plain_of_digit (Option.isSome_of_eq_some value)).2.2
    simp only [List.forall_mem_cons]
    exact ⟨by decide, by decide, printable ha, printable hb, printable hc, printable hd, nofun⟩

theorem UnitsSpelling.printable {us : List Nat} {cs : List Char} (h : UnitsSpelling us cs) :
    ∀ c ∈ cs, 0x20 ≤ c.toNat := by
  induction h with
  | nil => exact nofun
  | cons unit _ ih => exact List.forall_mem_append.mpr ⟨unit.printable, ih⟩

/-- A token is spelled without control characters. -/
theorem Token.Spelled.printable {t : Token} {word : List Char} (h : t.Spelled word) :
    ∀ c ∈ word, 0x20 ≤ c.toNat := by
  cases h with
  | number h =>
    refine h.forall_mem (fun c digit => ?_) (List.all_iff_forall_prop.mp rfl)
    have low : 48 ≤ c.toNat := of_decide_eq_true ((Bool.and_eq_true _ _).mp digit).1
    omega
  | string units =>
    simp only [List.forall_mem_cons, List.forall_mem_append]
    exact ⟨by decide, units.printable, by decide, nofun⟩
  | _ => exact List.all_iff_forall_prop.mp rfl

/-! ### Values -/

/-- A document without the blanks outside of its texts. -/
def squeeze (text : String) : String := String.ofList (outside.squeeze text.toList)

namespace Value

variable (v : Value)

theorem toList_compact :
    v.compact.toList = (tokensOf (v.toNode.pieces 0)).flatMap Token.text := by
  rw [compact, Node.compact, String.toList_ofList, flatMap_compact]

/-- A value with a line for every part, or on one line. -/
def text (pretty : Bool) : String := if pretty then v.pretty else v.compact

/-- The text of a value is read back as the value, also at the end of a line. -/
theorem read?_text_newline (pretty : Bool) :
    Node.read? (v.text pretty ++ "\n").toList = some v.toNode := by
  have written : v.toNode.Written (v.text pretty).toList := by
    cases pretty with
    | true => exact Node.written_pretty v.proper_toNode
    | false => exact Node.written_compact v.proper_toNode
  have newline : Spaced [] ['\n'] := .blank (by decide) .nil
  have line := written.append newline
  rw [List.append_nil] at line
  rw [String.toList_append]
  exact Node.read?_of_written line

/-- `squeeze` makes the text of a value the one on one line, whatever follows it. -/
theorem squeeze_text_append (pretty : Bool) (rest : String) :
    squeeze (v.text pretty ++ rest) = v.compact ++ squeeze rest := by
  have tokens : outside.squeeze ((v.text pretty).toList ++ rest.toList) =
      v.compact.toList ++ outside.squeeze rest.toList := by
    have proper := v.proper_toNode.tokens 0
    rw [toList_compact]
    cases pretty with
    | true =>
      rw [show (v.text true).toList = (v.toNode.pieces 0).flatMap Piece.pretty from
        String.toList_ofList]
      exact squeeze_layout (fun _ => rfl) (fun _ => Piece.blank_pretty) proper rest.toList
    | false =>
      rw [show (v.text false).toList = (v.toNode.pieces 0).flatMap Piece.compact from
        String.toList_ofList]
      exact squeeze_layout (fun _ => rfl) (fun _ => Piece.blank_compact) proper rest.toList
  rw [squeeze, String.toList_append, tokens, squeeze, String.ofList_append, String.ofList_toList]

/-- **The two layouts of a value differ in the blanks outside of its texts only.** -/
theorem squeeze_pretty : squeeze v.pretty = v.compact := by
  have whole := v.squeeze_text_append true ""
  rwa [String.append_empty, show squeeze "" = "" from rfl, String.append_empty] at whole

/-- **`squeeze` makes values with line breaks between them the values on one line.** -/
theorem squeeze_join_text (pretty : Bool) (vs : List Value) :
    squeeze (String.join (vs.map fun v => v.text pretty ++ "\n")) =
      String.join (vs.map compact) := by
  have newline (rest : String) : squeeze ("\n" ++ rest) = squeeze rest := by
    rw [squeeze, String.toList_append]
    exact congrArg String.ofList
      (Quoting.squeeze_blanks (List.forall_mem_singleton.mpr rfl) rest.toList)
  induction vs with
  | nil => rfl
  | cons v vs ih =>
    rw [List.map_cons, List.map_cons, String.join_cons, String.join_cons, String.append_assoc,
      squeeze_text_append, newline, ih]

/-- **A value on one line has no control character.** -/
theorem printable_compact : ∀ c ∈ v.compact.toList, 0x20 ≤ c.toNat := by
  rw [toList_compact]
  intro c mem
  obtain ⟨t, listed, mem⟩ := List.mem_flatMap.mp mem
  exact (t.spelled_text (v.proper_toNode.tokens 0 t listed)).printable c mem

end Value

end EvmRisk.Json
