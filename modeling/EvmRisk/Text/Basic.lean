/-!
# Texts

Texts as lists of characters, and what all parts of the program do with them.

* `inRanges`, `carry`: properties of characters and changes of case as tables of code points.
* `isBlank`, `trim`: the property White_Space of the Unicode standard, and a text without the blanks
  at its two ends. `isBlank` holds of every character that `Char.isWhitespace` accepts
  (`isBlank_of_isWhitespace`) and of the wider spaces besides, but not of characters of no width.
* `startsWith`, `occursIn`: whether a needle stands at the start of a text, and whether it stands
  anywhere in it, at any offset. They decide `<+:` and `<:+:` (`startsWith_iff`, `occursIn_iff`).
* `padRight`, `padLeft`: a text filled up with blanks to the width of a column. The width counts
  characters, and a text that is already as wide is left as it is.
-/

namespace EvmRisk.Text

/-! ### Tables of code points -/

/-- Whether a character lies in one of the closed ranges of code points. -/
def inRanges (ranges : List (Nat × Nat)) (c : Char) : Bool :=
  ranges.any fun r => r.1 ≤ c.toNat && c.toNat ≤ r.2

/-- A run of code points from `first` to `last`, `stride` apart, that are carried over in order to
the code points from `target` on, the same distance apart. -/
structure CaseRun where
  /-- The first code point that is carried over. -/
  first : Nat
  /-- The last code point that is carried over. -/
  last : Nat
  /-- The distance between neighbours. -/
  stride : Nat
  /-- Where `first` is carried to. -/
  target : Nat

/-- Whether the run carries a code point over. -/
def CaseRun.covers (run : CaseRun) (n : Nat) : Bool :=
  run.first ≤ n && n ≤ run.last && (n - run.first) % run.stride == 0

/-- The code point that a code point of the run is carried to. -/
def CaseRun.image (run : CaseRun) (n : Nat) : Nat := run.target + (n - run.first)

/-- The character that the first run covering `c` carries it to; `c` itself if none does. -/
def carry (runs : List CaseRun) (c : Char) : Char :=
  match runs.find? (·.covers c.toNat) with
  | some run => Char.ofNat (run.image c.toNat)
  | none => c

/-! ### Blanks -/

/-- Whether a character is white space: the ASCII separators, the next-line mark, and the spaces
and the line and paragraph separators beyond ASCII. -/
def isBlank (c : Char) : Bool :=
  let n := c.toNat
  (0x9 ≤ n && n ≤ 0xd) || n == 0x20 || n == 0x85 || n == 0xa0 || n == 0x1680 ||
    (0x2000 ≤ n && n ≤ 0x200a) || n == 0x2028 || n == 0x2029 || n == 0x202f || n == 0x205f ||
    n == 0x3000

/-- A text without the blanks it starts with. -/
def trimStart (cs : List Char) : List Char := cs.dropWhile isBlank

/-- A text without the blanks it ends with. -/
def trimEnd (cs : List Char) : List Char := (cs.reverse.dropWhile isBlank).reverse

/-- A text without the blanks at its two ends. -/
def trim (cs : List Char) : List Char := trimEnd (trimStart cs)

/-- **The separators of ASCII are blank.** -/
theorem isBlank_of_isWhitespace (c : Char) (h : c.isWhitespace = true) : isBlank c = true := by
  simp only [Char.isWhitespace, Bool.or_eq_true, decide_eq_true_eq] at h
  rcases h with ((rfl | rfl) | rfl) | rfl <;> rfl

/-! ### One text in another -/

/-- Whether `text` begins with `needle`. -/
def startsWith (needle text : List Char) : Bool := needle.isPrefixOf text

/-- Whether `needle` stands somewhere in `text` as one piece. -/
def occursIn (needle : List Char) : (text : List Char) → Bool
  | [] => needle.isEmpty
  | c :: text => startsWith needle (c :: text) || occursIn needle text

/-- **`startsWith` decides the initial-segment order.** -/
theorem startsWith_iff {needle text : List Char} :
    startsWith needle text = true ↔ needle <+: text := List.isPrefixOf_iff_prefix

/-- **`occursIn` decides the contiguous-piece order.** -/
theorem occursIn_iff {needle text : List Char} :
    occursIn needle text = true ↔ needle <:+: text := by
  induction text with
  | nil => simp [occursIn, List.isEmpty_iff]
  | cons c text ih => simp [occursIn, ih, startsWith_iff, List.infix_cons_iff]

/-! ### Columns -/

/-- A text filled up with blanks on its right. -/
def padRight (width : Nat) (s : String) : String := String.ofList (s.toList.rightpad width ' ')

/-- A text filled up with blanks on its left. -/
def padLeft (width : Nat) (s : String) : String := String.ofList (s.toList.leftpad width ' ')

end EvmRisk.Text
