import EvmRisk.Json.Node
import EvmRisk.Proofs.Json.Lexing
import EvmRisk.Proofs.Text.Blanks
import Mathlib.Data.Bool.AllAny

/-!
# Reading trees

A tree is written when its tokens are, one after the other, with any blanks between them
(`Node.Written`), and `Node.read?` gives back every tree that is written (`Node.read?_of_written`).
Both layouts of a tree are among the ways to write it (`Node.written_compact`,
`Node.written_pretty`), provided that its numerals are as the grammar wants them (`Node.Proper`).
Around a tree even wider blanks do no harm, once the text is trimmed (`Node.written_trim`), because
no token begins or ends with one (`Token.Spelled.solid`).

The reader of tokens keeps the open brackets in frames. `Node.run_tokens` says what it does with the
tokens of a value: whatever brackets are open and whatever comes next, it goes on after that value.
-/

namespace EvmRisk.Json

namespace Node

/-- Induction over trees, with what holds of every part of an array or an object. -/
@[elab_as_elim, induction_eliminator]
theorem induct {motive : Node → Prop} (null : motive .null) (bool : ∀ b, motive (.bool b))
    (number : ∀ n, motive (.number n)) (string : ∀ s, motive (.string s))
    (array : ∀ items, (∀ item ∈ items, motive item) → motive (.array items))
    (object : ∀ members : List Member, (∀ m ∈ members, motive m.2) → motive (.object members)) :
    ∀ n, motive n
  | .null => null
  | .bool b => bool b
  | .number n => number n
  | .string s => string s
  | .array items =>
    array items fun item _ => induct null bool number string array object item
  | .object members =>
    object members fun m _ => induct null bool number string array object m.2
termination_by n => sizeOf n
decreasing_by
  · next mem =>
    have := List.sizeOf_lt_of_mem mem
    simp only [Node.array.sizeOf_spec]
    omega
  · next mem =>
    obtain ⟨name, value⟩ := m
    have := List.sizeOf_lt_of_mem mem
    simp only [Node.object.sizeOf_spec, Prod.mk.sizeOf_spec] at this ⊢
    omega

end Node

/-! ### The tokens of a tree -/

/-- The token of a piece, if it is one. -/
def Piece.token? : Piece → Option Token
  | .token t => some t
  | .gap => none
  | .line _ => none

/-- The tokens among pieces. -/
def tokensOf (ps : List Piece) : List Token := ps.filterMap Piece.token?

@[simp] theorem tokensOf_nil : tokensOf [] = [] := rfl

@[simp] theorem tokensOf_token (t : Token) (ps : List Piece) :
    tokensOf (.token t :: ps) = t :: tokensOf ps := rfl

@[simp] theorem tokensOf_gap (ps : List Piece) : tokensOf (.gap :: ps) = tokensOf ps := rfl

@[simp] theorem tokensOf_line (depth : Nat) (ps : List Piece) :
    tokensOf (.line depth :: ps) = tokensOf ps := rfl

@[simp] theorem tokensOf_append (ps qs : List Piece) :
    tokensOf (ps ++ qs) = tokensOf ps ++ tokensOf qs :=
  List.filterMap_append

namespace Node

/-- The tokens of a tree. -/
def tokens (n : Node) : List Token := tokensOf (n.pieces 0)

/-- The tokens of a value begin with one, which is not the end of an array. -/
theorem exists_tokensOf_eq_cons (n : Node) (depth : Nat) :
    ∃ t ts, tokensOf (n.pieces depth) = t :: ts ∧ t ≠ .closeArray := by
  cases n with
  | null => exact ⟨_, _, rfl, by simp⟩
  | bool => exact ⟨_, _, rfl, by simp⟩
  | number => exact ⟨_, _, rfl, by simp⟩
  | string => exact ⟨_, _, rfl, by simp⟩
  | array items => cases items <;> exact ⟨_, _, rfl, by simp⟩
  | object members => cases members <;> exact ⟨_, _, rfl, by simp⟩

/-! ### From tokens to trees -/

/-- The tokens of `n` are read as `n`, whatever brackets are open and whatever follows. -/
def Reads (n : Node) : Prop :=
  ∀ depth frames rest,
    run .value frames (tokensOf (n.pieces depth) ++ rest) = run (.after n) frames rest

/-- Where an array may end, its first item can come. -/
theorem run_firstItem {n : Node} (h : n.Reads) (depth : Nat) (frames : List Frame)
    (rest : List Token) :
    run .firstItem frames (tokensOf (n.pieces depth) ++ rest) =
      run (.after n) (.array [] :: frames) rest := by
  rw [← h depth]
  obtain ⟨t, ts, first, notClose⟩ := n.exists_tokensOf_eq_cons depth
  -- The two stages differ in what they make of the closing bracket only.
  have same : Stage.step .firstItem frames t = Stage.step .value (.array [] :: frames) t := by
    cases t with
    | closeArray => exact absurd rfl notClose
    | _ => rfl
  rw [first, List.cons_append, run, run, same]

/-- The items of an array behind the first one are read up to its end. -/
theorem run_items {items : List Node} (h : ∀ item ∈ items, item.Reads) (depth : Nat)
    (done : List Node) (v : Node) (frames : List Frame) (rest : List Token) :
    run (.after v) (.array done :: frames)
        (tokensOf (itemPieces depth items) ++ .closeArray :: rest) =
      run (.after (.array (done.reverse ++ v :: items))) frames rest := by
  induction items generalizing done v with
  | nil => simp [itemPieces, run, Stage.step]
  | cons item items ih =>
    obtain ⟨first, others⟩ := List.forall_mem_cons.mp h
    have comma (ts : List Token) : run (.after v) (.array done :: frames) (.comma :: ts) =
        run .value (.array (v :: done) :: frames) ts := rfl
    simp only [itemPieces, List.cons_append, tokensOf_token, tokensOf_line, tokensOf_append,
      List.append_assoc]
    rw [comma, first depth, ih others]
    simp

/-- The members of an object behind the first one are read up to its end. -/
theorem run_members {members : List Member} (h : ∀ m ∈ members, m.2.Reads) (depth : Nat)
    (done : List Member) (name : Option String) (v : Node) (frames : List Frame)
    (rest : List Token) :
    run (.after v) (.object done name :: frames)
        (tokensOf (memberPieces depth members) ++ .closeObject :: rest) =
      run (.after (.object (done.reverse ++ (name, v) :: members))) frames rest := by
  induction members generalizing done name v with
  | nil => simp [memberPieces, run, Stage.step]
  | cons m members ih =>
    obtain ⟨next, value⟩ := m
    obtain ⟨first, others⟩ := List.forall_mem_cons.mp h
    have comma (ts : List Token) :
        run (.after v) (.object done name :: frames) (.comma :: .string next :: .colon :: ts) =
          run .value (.object ((name, v) :: done) next :: frames) ts := rfl
    simp only [memberPieces, List.cons_append, tokensOf_token, tokensOf_line, tokensOf_gap,
      tokensOf_append, List.append_assoc]
    rw [comma, first depth, ih others]
    simp

/-- An array is read, if its items are. -/
theorem reads_array {items : List Node} (h : ∀ item ∈ items, item.Reads) :
    (Node.array items).Reads := by
  intro depth frames rest
  cases items with
  | nil => rfl
  | cons item items =>
    obtain ⟨first, others⟩ := List.forall_mem_cons.mp h
    have bracket (ts : List Token) :
        run .value frames (.openArray :: ts) = run .firstItem frames ts := rfl
    simp only [pieces, List.cons_append, tokensOf_token, tokensOf_line, tokensOf_append,
      tokensOf_nil, List.append_assoc, List.nil_append]
    rw [bracket, run_firstItem first, run_items others]
    rfl

/-- An object is read, if its members are. -/
theorem reads_object {members : List Member} (h : ∀ m ∈ members, m.2.Reads) :
    (Node.object members).Reads := by
  intro depth frames rest
  cases members with
  | nil => rfl
  | cons m members =>
    obtain ⟨name, value⟩ := m
    obtain ⟨first, others⟩ := List.forall_mem_cons.mp h
    have brace (ts : List Token) :
        run .value frames (.openObject :: .string name :: .colon :: ts) =
          run .value (.object [] name :: frames) ts := rfl
    simp only [pieces, List.cons_append, tokensOf_token, tokensOf_line, tokensOf_gap,
      tokensOf_append, tokensOf_nil, List.append_assoc, List.nil_append]
    rw [brace, first, run_members others]
    rfl

/-- **Every tree is read from its tokens**, whatever is open and whatever follows. -/
theorem reads (n : Node) : n.Reads := by
  induction n with
  | null => exact fun _ _ _ => rfl
  | bool b => exact fun _ _ _ => rfl
  | number n => exact fun _ _ _ => rfl
  | string s => exact fun _ _ _ => rfl
  | array items ih => exact reads_array ih
  | object members ih => exact reads_object ih

theorem ofTokens?_tokens (n : Node) : ofTokens? n.tokens = some n := by
  have read := n.reads 0 [] []
  rw [List.append_nil] at read
  exact read

/-! ### Numerals that are not neighbours -/

/-- Behind a numeral a value is complete. -/
theorem step_number {stage next : Stage} {frames frames' : List Frame} {n : Numeral}
    (h : stage.step frames (.number n) = some (next, frames')) : ∃ v, next = .after v := by
  have value (frames : List Frame)
      (h : Stage.begin? frames (.number n) = some (next, frames')) : ∃ v, next = .after v :=
    ⟨.number n, (congrArg Prod.fst (Option.some.inj h)).symm⟩
  cases stage with
  | value => exact value _ h
  | firstItem => exact value _ h
  | firstName => exact absurd h (by simp [Stage.step])
  | nextName => exact absurd h (by simp [Stage.step])
  | colon => exact absurd h (by simp [Stage.step])
  | after v => rcases frames with _ | ⟨_ | _, _⟩ <;> exact absurd h (by simp [Stage.step])

/-- Tokens that are read as a tree have no two numerals as neighbours. -/
theorem separated_of_run {stage : Stage} {frames : List Frame} {ts : List Token} {v : Node}
    (h : run stage frames ts = some v) : Separated ts := by
  induction ts generalizing stage frames with
  | nil => exact .nil
  | cons t ts ih =>
    rw [run] at h
    split at h
    · next next frames' stepped =>
      have others := ih h
      cases ts with
      | nil => exact .singleton t
      | cons u us =>
        -- The stage after a numeral is known, and it has no use for a second one.
        refine .cons_cons ?_ others
        rintro n m ⟨rfl, rfl⟩
        obtain ⟨w, rfl⟩ := step_number stepped
        rcases frames' with _ | ⟨_ | _, _⟩ <;> exact absurd h (by simp [run, Stage.step])
    · exact absurd h (by simp)

/-! ### From texts to trees -/

/-- `text` is one way to write `n`: its tokens with any blanks between them. -/
def Written (n : Node) (text : List Char) : Prop := Spaced n.tokens text

/-- **A tree is read from every text in which it is written.** -/
theorem read?_of_written {n : Node} {text : List Char} (h : n.Written text) :
    read? text = some n := by
  have separated := separated_of_run n.ofTokens?_tokens
  rw [read?, tokens?_of_spaced h separated, Option.bind_some, ofTokens?_tokens]

end Node

/-! ### Layouts -/

/-- If `t` is a numeral, it is written as the grammar says. -/
def Token.Proper (t : Token) : Prop := ∀ n, t = .number n → NumeralSpelling n n.text

/-- Pieces laid out with blanks between the tokens are a text of these tokens. -/
theorem spaced_layout {layout : Piece → List Char} (word : ∀ t, layout (.token t) = t.text)
    (blank : ∀ p, p.token? = none → ∀ c ∈ layout p, c ∈ [' ', '\t', '\n', '\r'])
    {ps : List Piece} (proper : ∀ t ∈ tokensOf ps, t.Proper) :
    Spaced (tokensOf ps) (ps.flatMap layout) := by
  have blanks {ts : List Token} {cs ds : List Char} (rest : Spaced ts ds)
      (h : ∀ c ∈ cs, c ∈ [' ', '\t', '\n', '\r']) : Spaced ts (cs ++ ds) := by
    induction cs with
    | nil => exact rest
    | cons c cs ih =>
      obtain ⟨first, others⟩ := List.forall_mem_cons.mp h
      exact .blank first (ih others)
  induction ps with
  | nil => exact .nil
  | cons p ps ih =>
    rw [List.flatMap_cons]
    cases p with
    | token t =>
      obtain ⟨first, others⟩ := List.forall_mem_cons.mp proper
      rw [word]
      exact .token (t.spelled_text first) (ih others)
    | gap => exact blanks (ih proper) (blank _ rfl)
    | line depth => exact blanks (ih proper) (blank _ rfl)

/-- On one line there are no characters between tokens. -/
theorem Piece.blank_compact {p : Piece} (h : p.token? = none) :
    ∀ c ∈ p.compact, c ∈ [' ', '\t', '\n', '\r'] := by
  cases p with
  | token t => exact absurd h nofun
  | gap => exact nofun
  | line depth => exact nofun

theorem spaced_compact {ps : List Piece} (proper : ∀ t ∈ tokensOf ps, t.Proper) :
    Spaced (tokensOf ps) (ps.flatMap Piece.compact) :=
  spaced_layout (fun _ => rfl) (fun _ => Piece.blank_compact) proper

/-- On many lines there are line breaks and spaces between tokens. -/
theorem Piece.blank_pretty {p : Piece} (h : p.token? = none) :
    ∀ c ∈ p.pretty, c ∈ [' ', '\t', '\n', '\r'] := by
  intro c hc
  cases p with
  | token t => exact absurd h nofun
  | gap => simp_all [Piece.pretty]
  | line depth =>
    rcases List.mem_cons.mp hc with rfl | hc
    · decide
    · rw [List.eq_of_mem_replicate hc]
      decide

theorem spaced_pretty {ps : List Piece} (proper : ∀ t ∈ tokensOf ps, t.Proper) :
    Spaced (tokensOf ps) (ps.flatMap Piece.pretty) :=
  spaced_layout (fun _ => rfl) (fun _ => Piece.blank_pretty) proper

namespace Node

/-- Trees whose numerals are written as the grammar says. -/
inductive Proper : Node → Prop where
  | null : Proper .null
  | bool (b : Bool) : Proper (.bool b)
  | number {n : Numeral} (h : NumeralSpelling n n.text) : Proper (.number n)
  | string (s : Option String) : Proper (.string s)
  | array {items : List Node} (all : ∀ item ∈ items, Proper item) : Proper (.array items)
  | object {members : List Member} (all : ∀ m ∈ members, Proper m.2) : Proper (.object members)

/-- All tokens of the tree `n` are written as the grammar says, at any depth. -/
def ProperTokens (n : Node) : Prop := ∀ depth, ∀ t ∈ tokensOf (n.pieces depth), t.Proper

theorem proper_itemPieces {items : List Node} (h : ∀ item ∈ items, item.ProperTokens)
    (depth : Nat) : ∀ t ∈ tokensOf (itemPieces depth items), t.Proper := by
  induction items with
  | nil => exact fun t ht => absurd ht List.not_mem_nil
  | cons item items ih =>
    obtain ⟨first, others⟩ := List.forall_mem_cons.mp h
    simp only [itemPieces, List.cons_append, tokensOf_token, tokensOf_line, tokensOf_append,
      List.forall_mem_cons, List.forall_mem_append]
    exact ⟨nofun, first depth, ih others⟩

theorem proper_memberPieces {members : List Member} (h : ∀ m ∈ members, m.2.ProperTokens)
    (depth : Nat) : ∀ t ∈ tokensOf (memberPieces depth members), t.Proper := by
  induction members with
  | nil => exact fun t ht => absurd ht List.not_mem_nil
  | cons m members ih =>
    obtain ⟨name, value⟩ := m
    obtain ⟨first, others⟩ := List.forall_mem_cons.mp h
    simp only [memberPieces, List.cons_append, tokensOf_token, tokensOf_line, tokensOf_gap,
      tokensOf_append, List.forall_mem_cons, List.forall_mem_append]
    exact ⟨nofun, nofun, nofun, first depth, ih others⟩

/-- The tokens of a proper tree are proper. -/
theorem Proper.tokens {n : Node} (h : n.Proper) : n.ProperTokens := by
  induction h with
  | null => simp [ProperTokens, pieces, Token.Proper]
  | bool b => simp [ProperTokens, pieces, Token.Proper]
  | number h => simpa [ProperTokens, pieces, Token.Proper] using h
  | string s => simp [ProperTokens, pieces, Token.Proper]
  | @array items _ ih =>
    intro depth
    cases items with
    | nil => simp [pieces, Token.Proper]
    | cons item items =>
      -- What stands between the brackets are the pieces of the first item and those of the others.
      obtain ⟨first, others⟩ := List.forall_mem_cons.mp ih
      simp only [pieces, List.cons_append, tokensOf_token, tokensOf_line, tokensOf_append,
        tokensOf_nil, List.forall_mem_cons, List.forall_mem_append]
      exact ⟨nofun, ⟨first _, proper_itemPieces others _⟩, nofun, nofun⟩
  | @object members _ ih =>
    intro depth
    cases members with
    | nil => simp [pieces, Token.Proper]
    | cons m members =>
      obtain ⟨name, value⟩ := m
      obtain ⟨first, others⟩ := List.forall_mem_cons.mp ih
      simp only [pieces, List.cons_append, tokensOf_token, tokensOf_line, tokensOf_gap,
        tokensOf_append, tokensOf_nil, List.forall_mem_cons, List.forall_mem_append]
      exact ⟨nofun, nofun, nofun, ⟨first _, proper_memberPieces others _⟩, nofun, nofun⟩

/-- A proper tree is written by its text on one line. -/
theorem written_compact {n : Node} (h : n.Proper) : n.Written n.compact.toList := by
  rw [compact, String.toList_ofList]
  exact spaced_compact (h.tokens 0)

/-- A proper tree is written by its text on many lines. -/
theorem written_pretty {n : Node} (h : n.Proper) : n.Written n.pretty.toList := by
  rw [pretty, String.toList_ofList]
  exact spaced_pretty (h.tokens 0)

end Node

/-! ### Blanks around a text -/

theorem isBlank_of_mem {c : Char} (h : c ∈ [' ', '\t', '\n', '\r']) : Text.isBlank c = true := by
  simp only [List.mem_cons, List.not_mem_nil, or_false] at h
  rcases h with rfl | rfl | rfl | rfl <;> rfl

theorem Spaced.isBlank {cs : List Char} (h : Spaced [] cs) : ∀ c ∈ cs, Text.isBlank c = true := by
  generalize all : ([] : List Token) = ts at h
  induction h with
  | nil => simp
  | blank isBlank _ ih => exact List.forall_mem_cons.mpr ⟨isBlank_of_mem isBlank, ih all⟩
  | token => exact absurd all (by simp)

theorem isBlank_of_isDigit {c : Char} (h : c.isDigit = true) : Text.isBlank c = false := by
  obtain ⟨low, high⟩ := (Bool.and_eq_true _ _).mp h
  have low : 48 ≤ c.toNat := of_decide_eq_true low
  have high : c.toNat ≤ 57 := of_decide_eq_true high
  unfold Text.isBlank
  simp only [Bool.or_eq_false_iff, Bool.and_eq_false_iff, decide_eq_false_iff_not,
    beq_eq_false_iff_ne]
  omega

section

variable {p : Char → Prop} (digit : ∀ c : Char, c.isDigit = true → p c)
  (sign : ∀ c ∈ ['-', '+', '.', 'e', 'E'], p c)

include digit sign

theorem ExponentSpelling.forall_mem {e : Option Exponent} {cs : List Char}
    (h : ExponentSpelling e cs) : ∀ c ∈ cs, p c := by
  have mark {c : Char} (isMark : c = 'e' ∨ c = 'E') : p c := by
    rcases isMark with rfl | rfl <;> exact sign _ (by decide)
  cases h with
  | none => exact nofun
  | minus isMark all =>
    exact List.forall_mem_cons.mpr ⟨mark isMark, List.forall_mem_cons.mpr
      ⟨sign _ (by decide), fun c hc => digit c (all c hc)⟩⟩
  | plus isMark all =>
    exact List.forall_mem_cons.mpr ⟨mark isMark, List.forall_mem_cons.mpr
      ⟨sign _ (by decide), fun c hc => digit c (all c hc)⟩⟩
  | unsigned isMark all =>
    exact List.forall_mem_cons.mpr ⟨mark isMark, fun c hc => digit c (all c hc)⟩

/-- A property of the digits and of `-`, `+`, `.`, `e` and `E` holds of all characters of a numeral.
-/
theorem NumeralSpelling.forall_mem {n : Numeral} {cs : List Char} (h : NumeralSpelling n cs) :
    ∀ c ∈ cs, p c := by
  obtain @⟨negative, whole, fraction, power, exponent, isWhole, all, isPower⟩ := h
  simp only [List.forall_mem_append]
  refine ⟨?_, ?_, ?_, isPower.forall_mem digit sign⟩
  · cases negative with
    | true => exact List.forall_mem_singleton.mpr (sign _ (by decide))
    | false => exact nofun
  · cases isWhole with
    | zero => exact List.forall_mem_singleton.mpr (digit _ (by decide))
    | digits _ all => exact fun c hc => digit c (all c hc)
  · split_ifs
    · exact nofun
    · exact List.forall_mem_cons.mpr ⟨sign _ (by decide), fun c hc => digit c (all c hc)⟩

end

theorem NumeralSpelling.ne_nil {n : Numeral} {cs : List Char} (h : NumeralSpelling n cs) :
    cs ≠ [] := by
  obtain @⟨negative, whole, fraction, power, exponent, isWhole, all, isPower⟩ := h
  cases isWhole <;> simp

theorem NumeralSpelling.solid {n : Numeral} {cs : List Char} (h : NumeralSpelling n cs) :
    Text.Solid cs :=
  Text.solid_of_forall h.ne_nil
    (h.forall_mem (fun _ => isBlank_of_isDigit) (List.all_iff_forall_prop.mp rfl))

/-- A token neither begins nor ends with a blank. -/
theorem Token.Spelled.solid {t : Token} {word : List Char} (h : t.Spelled word) :
    Text.Solid word := by
  cases h with
  | number h => exact h.solid
  | @string units body =>
    have last : ('"' :: (body ++ ['"'])).getLast? = some '"' := by
      rw [← List.cons_append, List.getLast?_concat]
    exact ⟨⟨'"', rfl, rfl⟩, ⟨'"', last, rfl⟩⟩
  | _ => exact ⟨⟨_, rfl, rfl⟩, ⟨_, rfl, rfl⟩⟩

/-- A text of tokens is a solid one with blanks around it. -/
theorem Spaced.exists_solid {ts : List Token} {cs : List Char} (h : Spaced ts cs)
    (nonempty : ts ≠ []) : ∃ before body after, cs = before ++ body ++ after ∧
      Spaced [] before ∧ Spaced [] after ∧ Spaced ts body ∧ Text.Solid body := by
  induction h with
  | nil => exact absurd rfl nonempty
  | blank isBlank _ ih =>
    obtain ⟨before, body, after, rfl, blanks, others, spaced, solid⟩ := ih nonempty
    exact ⟨_ :: before, body, after, rfl, .blank isBlank blanks, others, spaced, solid⟩
  | @token t ts word cs spelled rest ih =>
    by_cases alone : ts = []
    · subst alone
      refine ⟨[], word, cs, rfl, .nil, rest, ?_, spelled.solid⟩
      simpa using Spaced.token spelled .nil
    · -- From the first word on to the last one, with the blanks between the first two words.
      obtain ⟨before, body, after, rfl, blanks, others, spaced, solid⟩ := ih alone
      refine ⟨[], word ++ (before ++ body), after, by simp, .nil, others, ?_, ?_⟩
      · exact .token spelled (blanks.append spaced)
      · exact spelled.solid.between solid before

/-- **A tree is written by a text without the blanks around it.** -/
theorem Node.written_trim {n : Node} {before after text : List Char} (h : n.Written text)
    (blanks : ∀ c ∈ before, Text.isBlank c = true) (others : ∀ c ∈ after, Text.isBlank c = true) :
    n.Written (Text.trim (before ++ text ++ after)) := by
  have nonempty : n.tokens ≠ [] := by
    obtain ⟨t, ts, first, -⟩ := n.exists_tokensOf_eq_cons 0
    rw [Node.tokens, first]
    exact List.cons_ne_nil _ _
  obtain ⟨front, body, back, rfl, blanks', others', spaced, solid⟩ := h.exists_solid nonempty
  have moved : before ++ (front ++ body ++ back) ++ after =
      (before ++ front) ++ body ++ (back ++ after) := by simp
  rw [moved, Text.trim_around (List.forall_mem_append.mpr ⟨blanks, blanks'.isBlank⟩)
    (List.forall_mem_append.mpr ⟨others'.isBlank, others⟩) solid]
  exact spaced

end EvmRisk.Json
