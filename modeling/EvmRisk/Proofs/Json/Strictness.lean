import EvmRisk.Proofs.Json.Tree

/-!
# Nothing else is read

A text is read only if it is written as the grammar says: `tokens?` gives tokens only to a text in
which they are spelled (`spaced_of_tokens?`), and `Node.read?` gives a tree only to a text in which
that tree is written (`Node.read?_eq_some_iff`).

Both readers take one thing at a time, and the proofs follow them. `Scan.Reached` says how the
characters up to a place look by what the reader of tokens keeps of them; `Stage.tokensBefore` lists
the tokens up to a place by what the reader of trees keeps of them.
-/

namespace EvmRisk.Json

open Scan

/-! ### Texts -/

/-- Units with one more behind them are spelled by the spellings one after the other. -/
theorem UnitsSpelling.snoc {us : List Nat} {cs : List Char} (h : UnitsSpelling us cs) {u : Nat}
    {ds : List Char} (unit : UnitSpelling u ds) : UnitsSpelling (us ++ [u]) (cs ++ ds) := by
  induction h with
  | nil =>
    have single := UnitsSpelling.cons unit .nil
    rwa [List.append_nil] at single
  | cons first _ ih =>
    rw [List.append_assoc]
    exact .cons first ih

/-- `escaped?` knows the letters of `letterEscapes` only. -/
theorem mem_letterEscapes {c d : Char} (h : escaped? c = some d) : (c, d) ∈ letterEscapes := by
  unfold escaped? at h
  split at h
  case h_9 => exact absurd h (by simp)
  all_goals
    obtain rfl := Option.some.inj h
    decide

theorem spelled_text {us : List Nat} {body : List Char} (h : UnitsSpelling us.reverse body) :
    Token.Spelled (.string ((spell [] us).map String.ofList)) ('"' :: (body ++ ['"'])) := by
  refine .string h fun t => ?_
  rw [← map_spell_eq_some_iff h.lt, List.reverse_reverse]

/-! ### Numerals -/

/-- The sign before the digits of a numeral. -/
def minusSign (negative : Bool) : List Char := if negative then ['-'] else []

/-- The digits after the point, with the point. -/
def fractionText (fs : List Char) : List Char := if fs.isEmpty then [] else '.' :: fs

theorem numeralSpelling_intro (negative : Bool) {whole fraction power : List Char}
    {exponent : Option Exponent} (isWhole : WholeDigits whole)
    (all : ∀ d ∈ fraction, d.isDigit = true) (isPower : ExponentSpelling exponent power) :
    NumeralSpelling ⟨negative, whole, fraction, exponent⟩
      (minusSign negative ++ (whole ++ (fractionText fraction ++ power))) :=
  .intro negative isWhole all isPower

/-- The characters of a numeral so far, in terms of its draft. -/
inductive Draft.Drawn : Draft → List Char → Prop where
  | sign : Drawn (Draft.unsigned true) ['-']
  | zero (negative : Bool) :
    Drawn ⟨.zero, negative, ['0'], [], false, []⟩ (minusSign negative ++ ['0'])
  | whole (negative : Bool) {c : Char} {cs : List Char} (nonzero : c ≠ '0')
    (all : ∀ d ∈ c :: cs, d.isDigit = true) :
    Drawn ⟨.whole, negative, (c :: cs).reverse, [], false, []⟩ (minusSign negative ++ c :: cs)
  | point (negative : Bool) {ws : List Char} (isWhole : WholeDigits ws) :
    Drawn ⟨.point, negative, ws.reverse, [], false, []⟩ (minusSign negative ++ (ws ++ ['.']))
  | fraction (negative : Bool) {ws : List Char} (isWhole : WholeDigits ws) {f : Char}
    {fs : List Char} (all : ∀ d ∈ f :: fs, d.isDigit = true) :
    Drawn ⟨.fraction, negative, ws.reverse, (f :: fs).reverse, false, []⟩
      (minusSign negative ++ (ws ++ '.' :: f :: fs))
  | mark (negative : Bool) {ws fs : List Char} (isWhole : WholeDigits ws)
    (all : ∀ d ∈ fs, d.isDigit = true) {mark : Char} (isMark : mark = 'e' ∨ mark = 'E') :
    Drawn ⟨.mark, negative, ws.reverse, fs.reverse, false, []⟩
      (minusSign negative ++ (ws ++ (fractionText fs ++ [mark])))
  | markSign (negative : Bool) {ws fs : List Char} (isWhole : WholeDigits ws)
    (all : ∀ d ∈ fs, d.isDigit = true) {mark : Char} (isMark : mark = 'e' ∨ mark = 'E')
    (powerNegative : Bool) :
    Drawn ⟨.markSign, negative, ws.reverse, fs.reverse, powerNegative, []⟩
      (minusSign negative ++
        (ws ++ (fractionText fs ++ [mark, if powerNegative then '-' else '+'])))
  | power (negative : Bool) {ws fs : List Char} (isWhole : WholeDigits ws)
    (all : ∀ d ∈ fs, d.isDigit = true) {powerNegative : Bool} {c : Char} {cs power : List Char}
    (isPower : ExponentSpelling (some ⟨powerNegative, c :: cs⟩) power) :
    Drawn ⟨.power, negative, ws.reverse, fs.reverse, powerNegative, (c :: cs).reverse⟩
      (minusSign negative ++ (ws ++ (fractionText fs ++ power)))

theorem forall_isDigit_nil : ∀ d ∈ ([] : List Char), d.isDigit = true := by simp

theorem forall_isDigit_singleton {c : Char} (isDigit : c.isDigit = true) :
    ∀ d ∈ [c], d.isDigit = true :=
  List.forall_mem_singleton.mpr isDigit

theorem forall_isDigit_snoc {c : Char} {cs : List Char} (h : ∀ d ∈ cs, d.isDigit = true)
    (isDigit : c.isDigit = true) : ∀ d ∈ cs ++ [c], d.isDigit = true :=
  List.forall_mem_append.mpr ⟨h, forall_isDigit_singleton isDigit⟩

/-- A power of ten may have one digit more. -/
theorem ExponentSpelling.snoc {powerNegative : Bool} {ds power : List Char}
    (h : ExponentSpelling (some ⟨powerNegative, ds⟩) power) {c : Char}
    (isDigit : c.isDigit = true) :
    ExponentSpelling (some ⟨powerNegative, ds ++ [c]⟩) (power ++ [c]) := by
  cases h with
  | minus isMark all => exact .minus isMark (forall_isDigit_snoc all isDigit)
  | plus isMark all => exact .plus isMark (forall_isDigit_snoc all isDigit)
  | unsigned isMark all => exact .unsigned isMark (forall_isDigit_snoc all isDigit)

/-- The digits of a draft are kept with the last one first. -/
theorem cons_reverse_cons (c d : Char) (ds : List Char) :
    c :: (d :: ds).reverse = (d :: (ds ++ [c])).reverse := by simp

/-- A draft that takes in a character is drawn with this character. -/
theorem Draft.Drawn.extend {d e : Draft} {cs : List Char} (h : d.Drawn cs) {c : Char}
    (step : d.extend? c = some e) : e.Drawn (cs ++ [c]) := by
  -- In each phase the cases are the characters that may come next.
  cases h with
  | sign =>
    simp only [Draft.extend?, Draft.unsigned] at step
    split_ifs at step with isZero isDigit <;> obtain rfl := Option.some.inj step
    · rw [isZero]
      exact .zero true
    · exact .whole true isZero (forall_isDigit_singleton isDigit)
  | zero negative =>
    simp only [Draft.extend?] at step
    split_ifs at step with isPoint isMark <;> obtain rfl := Option.some.inj step
    · rw [isPoint, List.append_assoc]
      exact .point negative .zero
    · rw [List.append_assoc]
      exact .mark negative .zero forall_isDigit_nil isMark
  | @whole negative w ws nonzero all =>
    simp only [Draft.extend?] at step
    rw [List.append_assoc]
    split_ifs at step with isDigit isPoint isMark <;> obtain rfl := Option.some.inj step
    · rw [cons_reverse_cons]
      exact .whole negative nonzero (forall_isDigit_snoc all isDigit)
    · rw [isPoint]
      exact .point negative (.digits nonzero all)
    · exact .mark negative (.digits nonzero all) forall_isDigit_nil isMark
  | @point negative ws isWhole =>
    simp only [Draft.extend?] at step
    split_ifs at step with isDigit
    obtain rfl := Option.some.inj step
    rw [List.append_assoc, List.append_assoc]
    exact .fraction negative isWhole (forall_isDigit_singleton isDigit)
  | @fraction negative ws isWhole f fs all =>
    simp only [Draft.extend?] at step
    rw [List.append_assoc, List.append_assoc]
    split_ifs at step with isDigit isMark <;> obtain rfl := Option.some.inj step
    · rw [cons_reverse_cons]
      exact .fraction negative isWhole (forall_isDigit_snoc all isDigit)
    · exact .mark negative isWhole all isMark
  | @mark negative ws fs isWhole all mark isMark =>
    simp only [Draft.extend?] at step
    rw [List.append_assoc, List.append_assoc, List.append_assoc]
    split_ifs at step with isPlus isMinus isDigit <;> obtain rfl := Option.some.inj step
    · rw [isPlus]
      exact .markSign negative isWhole all isMark false
    · rw [isMinus]
      exact .markSign negative isWhole all isMark true
    · exact .power negative isWhole all (.unsigned isMark (forall_isDigit_singleton isDigit))
  | @markSign negative ws fs isWhole all mark isMark powerNegative =>
    simp only [Draft.extend?] at step
    split_ifs at step with isDigit
    obtain rfl := Option.some.inj step
    have digits := forall_isDigit_singleton isDigit
    rw [List.append_assoc, List.append_assoc, List.append_assoc]
    cases powerNegative with
    | false => exact .power negative isWhole all (.plus isMark digits)
    | true => exact .power negative isWhole all (.minus isMark digits)
  | @power negative ws fs isWhole all powerNegative d ds power isPower =>
    simp only [Draft.extend?] at step
    split_ifs at step with isDigit
    obtain rfl := Option.some.inj step
    rw [List.append_assoc, List.append_assoc, List.append_assoc, cons_reverse_cons]
    exact .power negative isWhole all (isPower.snoc isDigit)

/-- The characters of a draft that may end are a numeral. -/
theorem Draft.Drawn.numeral {d : Draft} {cs : List Char} (h : d.Drawn cs)
    (final : d.phase.isFinal = true) : NumeralSpelling d.numeral cs := by
  cases h with
  | zero negative => exact numeralSpelling_intro negative .zero forall_isDigit_nil .none
  | whole negative nonzero all =>
    have spelled := numeralSpelling_intro negative (.digits nonzero all) forall_isDigit_nil .none
    simpa [Draft.numeral, fractionText] using spelled
  | fraction negative isWhole all =>
    have spelled := numeralSpelling_intro negative isWhole all .none
    simpa [Draft.numeral, fractionText] using spelled
  | power negative isWhole all isPower =>
    have spelled := numeralSpelling_intro negative isWhole all isPower
    simpa [Draft.numeral] using spelled
  | sign => exact absurd final (by decide)
  | point => exact absurd final (by simp [Phase.isFinal])
  | mark => exact absurd final (by simp [Phase.isFinal])
  | markSign => exact absurd final (by simp [Phase.isFinal])

/-! ### Places in a text -/

/-- The number of digits of base sixteen, the first one highest. -/
def digitsValue (ns : List Nat) : Nat := ns.foldl (fun value n => 16 * value + n) 0

/-- Characters that are the digits of base sixteen of given numbers. -/
def HexDigits : List Char → List Nat → Prop :=
  List.Forall₂ fun d n => Text.Hex.digitValue? d = some n

/-- Four digits of base sixteen spell the unit of their value. -/
theorem unitSpelling_digits {ds : List Char} {ns : List Nat} (h : HexDigits ds ns)
    (four : ns.length = 4) : UnitSpelling (digitsValue ns) ('\\' :: 'u' :: ds) := by
  obtain ⟨w, x, y, z, rfl⟩ := List.length_eq_four.mp four
  obtain _ | ⟨ha, _ | ⟨hb, _ | ⟨hc, _ | ⟨hd, ⟨⟩⟩⟩⟩⟩ := h
  have value : digitsValue [w, x, y, z] = 16 * (16 * (16 * w + x) + y) + z := by
    simp [digitsValue]
  rw [value]
  exact .digits ha hb hc hd

/-- How the characters up to a place look, by where the reader stands and the tokens it has read;
these are kept last one first. -/
inductive Scan.Reached : Scan → List Token → List Char → Prop where
  | between {tokens : List Token} {cs : List Char} (h : Spaced tokens.reverse cs) :
    Reached .between tokens cs
  | word {tokens : List Token} {cs front left : List Char} {t : Token}
    (h : Spaced tokens.reverse cs) (spelled : t.Spelled (front ++ left)) :
    Reached (.word left t) tokens (cs ++ front)
  | text {tokens : List Token} {cs body : List Char} {us : List Nat}
    (h : Spaced tokens.reverse cs) (units : UnitsSpelling us.reverse body) :
    Reached (.text us) tokens (cs ++ '"' :: body)
  | escape {tokens : List Token} {cs body : List Char} {us : List Nat}
    (h : Spaced tokens.reverse cs) (units : UnitsSpelling us.reverse body) :
    Reached (.escape us) tokens (cs ++ '"' :: (body ++ ['\\']))
  | unit {tokens : List Token} {cs body ds : List Char} {us ns : List Nat} {left : Nat}
    (h : Spaced tokens.reverse cs) (units : UnitsSpelling us.reverse body)
    (digits : HexDigits ds ns)
    (count : ns.length + left = 4) (more : 0 < left) :
    Reached (.unit us (digitsValue ns) left) tokens (cs ++ '"' :: (body ++ '\\' :: 'u' :: ds))
  | number {tokens : List Token} {cs word : List Char} {d : Draft}
    (h : Spaced tokens.reverse cs) (drawn : d.Drawn word) : Reached (.number d) tokens (cs ++ word)

/-- Tokens with one more behind them are spelled by the spellings one after the other. -/
theorem Spaced.snoc {tokens : List Token} {cs : List Char} (h : Spaced tokens.reverse cs)
    {t : Token} {word : List Char} (spelled : t.Spelled word) :
    Spaced (t :: tokens).reverse (cs ++ word) := by
  have single := h.append (.token spelled .nil)
  rwa [List.append_nil, ← List.reverse_cons] at single

/-- A text that takes in one more unit is still being read. -/
theorem Scan.Reached.text_snoc {tokens : List Token} {cs body ds : List Char} {us : List Nat}
    {u : Nat} (h : Spaced tokens.reverse cs) (units : UnitsSpelling us.reverse body)
    (unit : UnitSpelling u ds) : Reached (.text (u :: us)) tokens (cs ++ '"' :: (body ++ ds)) := by
  refine .text h ?_
  rw [List.reverse_cons]
  exact units.snoc unit

/-- The first character of a token is kept track of. -/
theorem reached_begin? {tokens : List Token} {cs : List Char} (h : Spaced tokens.reverse cs)
    {c : Char} {scan : Scan} {tokens' : List Token}
    (step : begin? tokens c = some (scan, tokens')) : scan.Reached tokens' (cs ++ [c]) := by
  have blank (isBlank : c ∈ [' ', '\t', '\n', '\r']) : Reached .between tokens (cs ++ [c]) := by
    have whole := h.append (.blank isBlank .nil)
    rw [List.append_nil] at whole
    exact .between whole
  unfold begin? at step
  split at step
  case h_17 notZero =>
    split_ifs at step with isDigit
    obtain ⟨rfl, rfl⟩ := Option.some.inj step
    exact .number h (.whole false notZero (forall_isDigit_singleton isDigit))
  all_goals obtain ⟨rfl, rfl⟩ := Prod.mk.inj (Option.some.inj step)
  · exact blank (by decide)
  · exact blank (by decide)
  · exact blank (by decide)
  · exact blank (by decide)
  · exact .between (h.snoc .openArray)
  · exact .between (h.snoc .closeArray)
  · exact .between (h.snoc .openObject)
  · exact .between (h.snoc .closeObject)
  · exact .between (h.snoc .comma)
  · exact .between (h.snoc .colon)
  · exact .text h .nil
  · exact .word h .null
  · exact .word h .true
  · exact .word h .false
  · exact .number h .sign
  · exact .number h (.zero false)

/-- **One character further**: `Reached` is kept by every step of the reader. -/
theorem Scan.Reached.step {scan : Scan} {tokens : List Token} {cs : List Char}
    (h : scan.Reached tokens cs) {c : Char} {scan' : Scan} {tokens' : List Token}
    (step : scan.step tokens c = some (scan', tokens')) : scan'.Reached tokens' (cs ++ [c]) := by
  cases h with
  | between h => exact reached_begin? h step
  | @word _ cs front left t h spelled =>
    rw [List.append_assoc]
    simp only [Scan.step] at step
    split at step
    · exact absurd step (by simp)
    · split_ifs at step with same
      obtain ⟨rfl, rfl⟩ := Prod.mk.inj (Option.some.inj step)
      rw [same]
      exact .between (h.snoc spelled)
    · split_ifs at step with same
      obtain ⟨rfl, rfl⟩ := Prod.mk.inj (Option.some.inj step)
      rw [same]
      exact .word h (by rwa [List.append_assoc, List.singleton_append])
  | @text _ cs body us h units =>
    simp only [Scan.step] at step
    rw [List.append_assoc, List.cons_append]
    split_ifs at step with isQuote isEscape control <;>
      obtain ⟨rfl, rfl⟩ := Prod.mk.inj (Option.some.inj step)
    · rw [isQuote]
      exact .between (h.snoc (spelled_text units))
    · rw [isEscape]
      exact .escape h units
    · exact .text_snoc h units (.plain (Nat.le_of_not_lt control) isQuote isEscape)
  | @escape _ cs body us h units =>
    simp only [Scan.step] at step
    rw [List.append_assoc, List.cons_append, List.append_assoc]
    split_ifs at step with isUnit
    · obtain ⟨rfl, rfl⟩ := Prod.mk.inj (Option.some.inj step)
      rw [isUnit]
      have noDigits : HexDigits [] [] := .nil
      exact .unit h units noDigits rfl (by decide)
    · obtain ⟨d, letter, made⟩ := Option.map_eq_some_iff.mp step
      obtain ⟨rfl, rfl⟩ := Prod.mk.inj made
      exact .text_snoc h units (.letter (mem_letterEscapes letter))
  | @unit _ cs body ds us ns left h units digits count more =>
    simp only [Scan.step] at step
    obtain ⟨n, digit, made⟩ := Option.map_eq_some_iff.mp step
    obtain ⟨rfl, rfl⟩ := Prod.mk.inj made
    have value : 16 * digitsValue ns + n = digitsValue (ns ++ [n]) := by
      rw [digitsValue, digitsValue, List.foldl_append]
      rfl
    rw [List.append_assoc, List.cons_append, List.append_assoc, value]
    have digits' : HexDigits (ds ++ [c]) (ns ++ [n]) :=
      List.rel_append digits (.cons digit .nil)
    have length : (ns ++ [n]).length + (left - 1) = 4 := by
      rw [List.length_append, List.length_singleton]
      omega
    split_ifs with last
    · exact .text_snoc h units (unitSpelling_digits digits' (by omega))
    · exact .unit h units digits' length (by omega)
  | @number _ cs word d h drawn =>
    simp only [Scan.step] at step
    split at step
    · next extended =>
      obtain ⟨rfl, rfl⟩ := Prod.mk.inj (Option.some.inj step)
      rw [List.append_assoc]
      exact .number h (drawn.extend extended)
    · -- The numeral ended before this character, which is read as the first one of what follows.
      split_ifs at step with final
      exact reached_begin? (h.snoc (.number (drawn.numeral final))) step

/-- If `scan` has reached `tokens` after `cs`, then `cs ++ ds` is a spelling of the tokens that a
run over `ds` ends with. -/
theorem Scan.Reached.run {scan : Scan} {tokens : List Token} {cs : List Char}
    (h : scan.Reached tokens cs) {ds : List Char} {ts : List Token}
    (run : scan.run tokens ds = some ts) : Spaced ts (cs ++ ds) := by
  induction ds generalizing scan tokens cs with
  | nil =>
    rw [List.append_nil]
    cases h with
    | between h => exact Option.some.inj run ▸ h
    | number h drawn =>
      simp only [Scan.run, finish?] at run
      split_ifs at run with final
      exact Option.some.inj run ▸ h.snoc (.number (drawn.numeral final))
    | _ => exact absurd run (by simp [Scan.run, finish?])
  | cons d ds ih =>
    rw [Scan.run] at run
    split at run
    · next stepped =>
      rw [← List.singleton_append, ← List.append_assoc]
      exact ih (h.step stepped) run
    · exact absurd run (by simp)

/-- **Tokens are read only from a text in which they are spelled.** -/
theorem spaced_of_tokens? {ts : List Token} {cs : List Char} (h : tokens? cs = some ts) :
    Spaced ts cs := by
  have start : Scan.between.Reached [] [] := .between .nil
  exact start.run h

/-! ### The tokens of a tree by its parts -/

namespace Node

/-- The tokens of a member. -/
def memberTokens (m : Member) : List Token := .string m.1 :: .colon :: m.2.tokens

theorem tokensOf_itemPieces {items : List Node} {depth : Nat}
    (h : ∀ item ∈ items, tokensOf (item.pieces depth) = item.tokens) :
    tokensOf (itemPieces depth items) = items.flatMap fun item => .comma :: item.tokens := by
  induction items with
  | nil => rfl
  | cons item items ih =>
    obtain ⟨first, others⟩ := List.forall_mem_cons.mp h
    simp only [itemPieces, List.cons_append, tokensOf_token, tokensOf_line, tokensOf_append, first,
      ih others, List.flatMap_cons]

theorem tokensOf_memberPieces {members : List Member} {depth : Nat}
    (h : ∀ m ∈ members, tokensOf (m.2.pieces depth) = m.2.tokens) :
    tokensOf (memberPieces depth members) = members.flatMap fun m => .comma :: memberTokens m := by
  induction members with
  | nil => rfl
  | cons m members ih =>
    obtain ⟨name, value⟩ := m
    obtain ⟨first, others⟩ := List.forall_mem_cons.mp h
    simp only [memberPieces, List.cons_append, tokensOf_token, tokensOf_line, tokensOf_gap,
      tokensOf_append, first, ih others, List.flatMap_cons, memberTokens]

/-- The tokens of a tree do not depend on the depth. -/
theorem tokensOf_pieces (n : Node) (depth : Nat) : tokensOf (n.pieces depth) = n.tokens := by
  induction n generalizing depth with
  | null => rfl
  | bool b => rfl
  | number n => rfl
  | string s => rfl
  | array items ih =>
    cases items with
    | nil => rfl
    | cons item items =>
      obtain ⟨first, others⟩ := List.forall_mem_cons.mp ih
      show tokensOf (pieces depth _) = tokensOf (pieces 0 _)
      simp only [pieces, List.cons_append, tokensOf_token, tokensOf_line, tokensOf_append,
        tokensOf_nil, first, tokensOf_itemPieces fun i hi => others i hi _]
  | object members ih =>
    cases members with
    | nil => rfl
    | cons m members =>
      obtain ⟨name, value⟩ := m
      obtain ⟨first, others⟩ := List.forall_mem_cons.mp ih
      show tokensOf (pieces depth _) = tokensOf (pieces 0 _)
      simp only [pieces, List.cons_append, tokensOf_token, tokensOf_line, tokensOf_gap,
        tokensOf_append, tokensOf_nil, first, tokensOf_memberPieces fun m hm => others m hm _]

theorem tokens_array_cons (item : Node) (items : List Node) :
    (array (item :: items)).tokens =
      .openArray :: (item.tokens ++
        ((items.flatMap fun i => .comma :: i.tokens) ++ [.closeArray])) := by
  have others := tokensOf_itemPieces fun i (_ : i ∈ items) => tokensOf_pieces i 1
  show tokensOf (pieces 0 _) = _
  simp only [pieces, List.cons_append, tokensOf_token, tokensOf_line, tokensOf_append,
    tokensOf_nil, tokensOf_pieces, others, List.append_assoc]

theorem tokens_object_cons (m : Member) (members : List Member) :
    (object (m :: members)).tokens =
      .openObject :: (memberTokens m ++
        ((members.flatMap fun m => .comma :: memberTokens m) ++ [.closeObject])) := by
  have others := tokensOf_memberPieces fun m (_ : m ∈ members) => tokensOf_pieces m.2 1
  obtain ⟨name, value⟩ := m
  show tokensOf (pieces 0 _) = _
  simp only [pieces, List.cons_append, tokensOf_token, tokensOf_line, tokensOf_gap,
    tokensOf_append, tokensOf_nil, tokensOf_pieces, others, memberTokens, List.append_assoc]

/-- Things with commas in front of them, around one of them. -/
theorem flatMap_comma {α : Type} (f : α → List Token) (before : List α) (x : α) (after : List α) :
    (before ++ x :: after).flatMap (fun y => .comma :: f y) =
      .comma :: (before.flatMap (fun y => f y ++ [.comma]) ++
        (f x ++ after.flatMap fun y => .comma :: f y)) := by
  induction before with
  | nil => rfl
  | cons y before ih => simp [List.flatMap_cons, ih]

/-- The tokens of an array around one of its items. -/
theorem tokens_array (before : List Node) (item : Node) (after : List Node) :
    (array (before ++ item :: after)).tokens =
      .openArray :: (before.flatMap (fun i => i.tokens ++ [.comma]) ++
        (item.tokens ++ (after.flatMap (fun i => .comma :: i.tokens) ++ [.closeArray]))) := by
  cases before with
  | nil => exact tokens_array_cons item after
  | cons first before =>
    rw [List.cons_append, tokens_array_cons, flatMap_comma]
    simp [List.flatMap_cons]

/-- The tokens of an object around one of its members. -/
theorem tokens_object (before : List Member) (m : Member) (after : List Member) :
    (object (before ++ m :: after)).tokens =
      .openObject :: (before.flatMap (fun m => memberTokens m ++ [.comma]) ++
        (memberTokens m ++
          (after.flatMap (fun m => .comma :: memberTokens m) ++ [.closeObject]))) := by
  cases before with
  | nil => exact tokens_object_cons m after
  | cons first before =>
    rw [List.cons_append, tokens_object_cons, flatMap_comma]
    simp [List.flatMap_cons]

/-- **In a text in which a member stands, any other value can stand for it.** -/
theorem Written.exists_replace {before after : List Member} {name : Option String} {old : Node}
    {text : List Char} (h : (object (before ++ (name, old) :: after)).Written text) :
    ∃ front value back, text = front ++ (value ++ back) ∧ old.Written value ∧
      ∀ new value', new.Written value' →
        (object (before ++ (name, new) :: after)).Written (front ++ (value' ++ back)) := by
  have tokens (n : Node) : (object (before ++ (name, n) :: after)).tokens =
      (.openObject :: (before.flatMap (fun m => memberTokens m ++ [.comma]) ++
        [.string name, .colon])) ++
        (n.tokens ++ (after.flatMap (fun m => .comma :: memberTokens m) ++ [.closeObject])) := by
    rw [tokens_object, memberTokens]
    simp
  rw [Written, tokens] at h
  obtain ⟨front, rest, rfl, first, h⟩ := h.split
  obtain ⟨value, back, rfl, inner, last⟩ := h.split
  refine ⟨front, value, back, rfl, inner, fun new value' written => ?_⟩
  rw [Written, tokens]
  exact first.append (written.append last)

end Node

/-! ### Places among tokens -/

/-- The tokens of the brackets that are open and of what they hold. -/
def Frame.tokensOf : List Frame → List Token
  | [] => []
  | .array done :: frames =>
    tokensOf frames ++ .openArray :: done.reverse.flatMap fun i => i.tokens ++ [.comma]
  | .object done name :: frames =>
    tokensOf frames ++
      .openObject :: (done.reverse.flatMap (fun m => Node.memberTokens m ++ [.comma]) ++
        [.string name, .colon])

/-- The tokens up to a place, by the stage there and the brackets that are open. -/
def Stage.tokensBefore (stage : Stage) (frames : List Frame) : List Token :=
  Frame.tokensOf frames ++
    match stage with
    | .value => []
    | .firstItem => [.openArray]
    | .firstName => [.openObject]
    | .nextName done => .openObject :: done.reverse.flatMap fun m => Node.memberTokens m ++ [.comma]
    | .colon done name =>
      .openObject :: (done.reverse.flatMap (fun m => Node.memberTokens m ++ [.comma]) ++
        [.string name])
    | .after v => v.tokens

theorem tokensBefore_begin? {frames : List Frame} {t : Token} {stage : Stage}
    {frames' : List Frame} (h : Stage.begin? frames t = some (stage, frames')) :
    stage.tokensBefore frames' = Frame.tokensOf frames ++ [t] := by
  unfold Stage.begin? at h
  split at h
  case h_7 => exact absurd h (by simp)
  all_goals
    obtain ⟨rfl, rfl⟩ := Prod.mk.inj (Option.some.inj h)
    rfl

/-- **One token further**: `tokensBefore` is kept by every step of the reader. -/
theorem tokensBefore_step {stage : Stage} {frames : List Frame} {t : Token} {stage' : Stage}
    {frames' : List Frame} (h : stage.step frames t = some (stage', frames')) :
    stage'.tokensBefore frames' = stage.tokensBefore frames ++ [t] := by
  cases stage with
  | value =>
    rw [tokensBefore_begin? h, Stage.tokensBefore, List.append_nil]
  | firstItem =>
    have empty : (Node.array []).tokens = [.openArray, .closeArray] := rfl
    simp only [Stage.step] at h
    split at h
    · obtain ⟨rfl, rfl⟩ := Prod.mk.inj (Option.some.inj h)
      simp [Stage.tokensBefore, empty]
    · rw [tokensBefore_begin? h]
      rfl
  | firstName =>
    have empty : (Node.object []).tokens = [.openObject, .closeObject] := rfl
    simp only [Stage.step] at h
    split at h
    · obtain ⟨rfl, rfl⟩ := Prod.mk.inj (Option.some.inj h)
      simp [Stage.tokensBefore, empty]
    · obtain ⟨rfl, rfl⟩ := Prod.mk.inj (Option.some.inj h)
      simp [Stage.tokensBefore]
    · exact absurd h (by simp)
  | nextName done =>
    simp only [Stage.step] at h
    split at h
    · obtain ⟨rfl, rfl⟩ := Prod.mk.inj (Option.some.inj h)
      simp [Stage.tokensBefore]
    · exact absurd h (by simp)
  | colon done name =>
    simp only [Stage.step] at h
    split at h
    · obtain ⟨rfl, rfl⟩ := Prod.mk.inj (Option.some.inj h)
      simp [Stage.tokensBefore, Frame.tokensOf]
    · exact absurd h (by simp)
  | after v =>
    simp only [Stage.step] at h
    split at h
    · obtain ⟨rfl, rfl⟩ := Prod.mk.inj (Option.some.inj h)
      simp [Stage.tokensBefore, Frame.tokensOf]
    · obtain ⟨rfl, rfl⟩ := Prod.mk.inj (Option.some.inj h)
      simp [Stage.tokensBefore, Frame.tokensOf, Node.tokens_array]
    · obtain ⟨rfl, rfl⟩ := Prod.mk.inj (Option.some.inj h)
      simp [Stage.tokensBefore, Frame.tokensOf, Node.memberTokens]
    · obtain ⟨rfl, rfl⟩ := Prod.mk.inj (Option.some.inj h)
      simp [Stage.tokensBefore, Frame.tokensOf, Node.tokens_object, Node.memberTokens]
    · exact absurd h (by simp)

/-- The tokens of the tree that a run ends with are those before it and those that it reads. -/
theorem tokens_of_run {stage : Stage} {frames : List Frame} {ts : List Token} {n : Node}
    (h : Node.run stage frames ts = some n) : n.tokens = stage.tokensBefore frames ++ ts := by
  induction ts generalizing stage frames with
  | nil =>
    unfold Node.run at h
    split at h
    · obtain rfl := Option.some.inj h
      rw [List.append_nil]
      rfl
    · exact absurd h (by simp)
  | cons t ts ih =>
    rw [Node.run] at h
    split at h
    · next stepped => rw [ih h, tokensBefore_step stepped, List.append_assoc, List.singleton_append]
    · exact absurd h (by simp)

/-- **A tree is read from its own tokens only.** -/
theorem Node.ofTokens?_eq_some_iff {ts : List Token} {n : Node} :
    ofTokens? ts = some n ↔ ts = n.tokens := by
  constructor
  · intro h
    exact (tokens_of_run h).symm
  · rintro rfl
    exact n.ofTokens?_tokens

/-- **A tree is read from a text iff it is written there.** -/
theorem Node.read?_eq_some_iff {text : List Char} {n : Node} :
    read? text = some n ↔ n.Written text := by
  constructor
  · intro h
    obtain ⟨ts, read, made⟩ := Option.bind_eq_some_iff.mp h
    obtain rfl := ofTokens?_eq_some_iff.mp made
    exact spaced_of_tokens? read
  · exact read?_of_written

end EvmRisk.Json
