import EvmRisk.Json.Numeral
import EvmRisk.Text.Hex

/-!
# Tokens

The smallest parts of a document: brackets, separators, the three words, numerals and texts.
`Token.text` writes one. In a text between quotes the quote, the backslash and the characters below
the space are escaped, and every other character stands for itself (`escapeChar`).

`tokens?` reads the tokens of a document, one character at a time: `Scan.step` says what a
character does to the token that is being read. The grammar is strict. Between tokens only the
space, the tab and the two line ends may stand; a numeral has no needless zero in front, and a
digit on both sides of its point; a text holds no character below the space.

An escape `\u` names a unit of sixteen bits, and a high unit followed at once by a low one stands
for one character. `spell` puts the characters of a text together; it has no answer if half of such
a pair is missing. No string of characters is the content of such a text, so the content of a text
is an `Option String`.
-/

namespace EvmRisk.Json

/-! ### Writing -/

/-- A smallest part of a document. -/
inductive Token where
  | openArray
  | closeArray
  | openObject
  | closeObject
  | comma
  | colon
  | null
  | bool (b : Bool)
  | number (n : Numeral)
  /-- A text; `none` if it names half of a character. -/
  | string (s : Option String)
  deriving DecidableEq

/-- A character below the space by its number, in four digits of base sixteen. -/
def controlEscape (c : Char) : List Char :=
  ['\\', 'u', '0', '0', Nat.digitChar (c.toNat / 16), Nat.digitChar (c.toNat % 16)]

/-- One character inside quotes. -/
def escapeChar (c : Char) : List Char :=
  match c with
  | '"' => ['\\', '"']
  | '\\' => ['\\', '\\']
  | '\x08' => ['\\', 'b']
  | '\x0c' => ['\\', 'f']
  | '\n' => ['\\', 'n']
  | '\r' => ['\\', 'r']
  | '\t' => ['\\', 't']
  | c => if c.toNat < 0x20 then controlEscape c else [c]

/-- A text between quotes. -/
def quote (s : String) : List Char := ['"'] ++ s.toList.flatMap escapeChar ++ ['"']

/-- An exponent as it is written, with its sign. -/
def Exponent.text (e : Exponent) : List Char := ['e', if e.negative then '-' else '+'] ++ e.digits

/-- A numeral as it is written. -/
def Numeral.text (n : Numeral) : List Char :=
  (if n.negative then ['-'] else []) ++ n.whole ++
    (if n.fraction.isEmpty then [] else ['.'] ++ n.fraction) ++
    (n.exponent.map Exponent.text).getD []

/-- A token as it is written. Half of a character is written by its escape. -/
def Token.text : Token → List Char
  | .openArray => ['[']
  | .closeArray => [']']
  | .openObject => ['\x7b']
  | .closeObject => ['\x7d']
  | .comma => [',']
  | .colon => [':']
  | .null => "null".toList
  | .bool true => "true".toList
  | .bool false => "false".toList
  | .number n => n.text
  | .string (some s) => quote s
  | .string none => "\"\\ud800\"".toList

/-! ### Units and characters -/

/-- The first halves of pairs. -/
def isHighUnit (u : Nat) : Bool := 0xd800 ≤ u && u ≤ 0xdbff

/-- The second halves of pairs. -/
def isLowUnit (u : Nat) : Bool := 0xdc00 ≤ u && u ≤ 0xdfff

/-- The code point of a pair. -/
def joinUnits (high low : Nat) : Nat := 0x10000 + (high - 0xd800) * 0x400 + (low - 0xdc00)

/-- The characters that units stand for, put in front of `after`. The units are given last one
first, and a character beyond sixteen bits may be one of them. -/
def spell (after : List Char) : List Nat → Option (List Char)
  | [] => some after
  | [u] => if isHighUnit u || isLowUnit u then none else some (Char.ofNat u :: after)
  | u :: v :: earlier =>
    if isLowUnit u then
      if isHighUnit v then spell (Char.ofNat (joinUnits v u) :: after) earlier else none
    else if isHighUnit u then none
    else spell (Char.ofNat u :: after) (v :: earlier)

/-! ### The token being read -/

/-- How far a numeral has come. -/
inductive Phase where
  /-- After the minus sign. -/
  | sign
  /-- After a zero in front. -/
  | zero
  /-- In the digits before the point. -/
  | whole
  /-- After the point. -/
  | point
  /-- In the digits after the point. -/
  | fraction
  /-- After the mark of the exponent. -/
  | mark
  /-- After the sign of the exponent. -/
  | markSign
  /-- In the digits of the exponent. -/
  | power
  deriving DecidableEq

/-- Whether a numeral may end here. -/
def Phase.isFinal : Phase → Bool
  | .zero | .whole | .fraction | .power => true
  | _ => false

/-- A numeral as far as it has been read; its digits are kept last one first. -/
structure Draft where
  phase : Phase
  negative : Bool := false
  whole : List Char := []
  fraction : List Char := []
  powerNegative : Bool := false
  power : List Char := []

/-- The numeral that has been read. -/
def Draft.numeral (d : Draft) : Numeral :=
  ⟨d.negative, d.whole.reverse, d.fraction.reverse,
    if d.power.isEmpty then none else some ⟨d.powerNegative, d.power.reverse⟩⟩

/-- The numeral with one more character; `none` if the character is no part of it. -/
def Draft.extend? (d : Draft) (c : Char) : Option Draft :=
  match d.phase with
  | .sign =>
    if c = '0' then some { d with phase := .zero, whole := [c] }
    else if c.isDigit then some { d with phase := .whole, whole := [c] }
    else none
  | .zero =>
    if c = '.' then some { d with phase := .point }
    else if c = 'e' ∨ c = 'E' then some { d with phase := .mark }
    else none
  | .whole =>
    if c.isDigit then some { d with whole := c :: d.whole }
    else if c = '.' then some { d with phase := .point }
    else if c = 'e' ∨ c = 'E' then some { d with phase := .mark }
    else none
  | .point =>
    if c.isDigit then some { d with phase := .fraction, fraction := [c] } else none
  | .fraction =>
    if c.isDigit then some { d with fraction := c :: d.fraction }
    else if c = 'e' ∨ c = 'E' then some { d with phase := .mark }
    else none
  | .mark =>
    if c = '+' then some { d with phase := .markSign }
    else if c = '-' then some { d with phase := .markSign, powerNegative := true }
    else if c.isDigit then some { d with phase := .power, power := [c] }
    else none
  | .markSign =>
    if c.isDigit then some { d with phase := .power, power := [c] } else none
  | .power =>
    if c.isDigit then some { d with power := c :: d.power } else none

/-- Where the reader stands. -/
inductive Scan where
  /-- Between two tokens. -/
  | between
  /-- Inside a word, with the characters that must follow and the token it makes. -/
  | word (left : List Char) (token : Token)
  /-- Inside a text, after these units. -/
  | text (units : List Nat)
  /-- After a backslash in a text. -/
  | escape (units : List Nat)
  /-- Inside a unit given by four digits, with the value of those read and how many are left. -/
  | unit (units : List Nat) (value left : Nat)
  /-- Inside a numeral. -/
  | number (draft : Draft)

namespace Scan

/-- What a character does between two tokens: it makes a token by itself, or begins one. -/
def begin? (tokens : List Token) (c : Char) : Option (Scan × List Token) :=
  match c with
  | ' ' | '\t' | '\n' | '\r' => some (between, tokens)
  | '[' => some (between, .openArray :: tokens)
  | ']' => some (between, .closeArray :: tokens)
  | '\x7b' => some (between, .openObject :: tokens)
  | '\x7d' => some (between, .closeObject :: tokens)
  | ',' => some (between, .comma :: tokens)
  | ':' => some (between, .colon :: tokens)
  | '"' => some (text [], tokens)
  | 'n' => some (word "ull".toList .null, tokens)
  | 't' => some (word "rue".toList (.bool true), tokens)
  | 'f' => some (word "alse".toList (.bool false), tokens)
  | '-' => some (number { phase := .sign, negative := true }, tokens)
  | '0' => some (number { phase := .zero, whole := ['0'] }, tokens)
  | c => if c.isDigit then some (number { phase := .whole, whole := [c] }, tokens) else none

/-- The character that the letter of an escape stands for. -/
def escaped? (c : Char) : Option Char :=
  match c with
  | '"' => some '"'
  | '\\' => some '\\'
  | '/' => some '/'
  | 'b' => some '\x08'
  | 'f' => some '\x0c'
  | 'n' => some '\n'
  | 'r' => some '\r'
  | 't' => some '\t'
  | _ => none

/-- One character further. The tokens read so far are kept last one first. -/
def step (scan : Scan) (tokens : List Token) (c : Char) : Option (Scan × List Token) :=
  match scan with
  | between => begin? tokens c
  | word left token =>
    match left with
    | [] => none
    | [d] => if c = d then some (between, token :: tokens) else none
    | d :: left => if c = d then some (word left token, tokens) else none
  | text units =>
    if c = '"' then some (between, .string ((spell [] units).map String.ofList) :: tokens)
    else if c = '\\' then some (escape units, tokens)
    else if c.toNat < 0x20 then none
    else some (text (c.toNat :: units), tokens)
  | escape units =>
    if c = 'u' then some (unit units 0 4, tokens)
    else (escaped? c).map fun d => (text (d.toNat :: units), tokens)
  | unit units value left =>
    (Text.Hex.digitValue? c).map fun d =>
      let value := 16 * value + d
      (if left ≤ 1 then text (value :: units) else unit units value (left - 1), tokens)
  | number draft =>
    match draft.extend? c with
    | some draft => some (number draft, tokens)
    | none =>
      if draft.phase.isFinal then begin? (.number draft.numeral :: tokens) c else none

/-- The tokens, first one first, if the document may end here. -/
def finish? (scan : Scan) (tokens : List Token) : Option (List Token) :=
  match scan with
  | between => some tokens.reverse
  | number draft =>
    if draft.phase.isFinal then some (.number draft.numeral :: tokens).reverse else none
  | _ => none

/-- Reads characters on from a place. -/
def run (scan : Scan) (tokens : List Token) : List Char → Option (List Token)
  | [] => scan.finish? tokens
  | c :: cs =>
    match scan.step tokens c with
    | some (scan, tokens) => run scan tokens cs
    | none => none

end Scan

/-- The tokens of a document; `none` if some part of it is no token. -/
def tokens? (cs : List Char) : Option (List Token) := Scan.between.run [] cs

end EvmRisk.Json
