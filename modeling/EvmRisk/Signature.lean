import EvmRisk.Json.Value
import EvmRisk.Text.Basic
import EvmRisk.Text.Hex
import EvmRisk.Text.Lowercase

/-!
# Bytecode and its signatures

The code of a contract is the text of its digits of base sixteen. It is searched for pieces and
never taken apart, so no digit is checked. `Bytecode.ofRaw?` brings a text into the form that is
searched: without the blanks around it and the mark `0x` in front, and in small letters. Where
nothing is left, there is no code.

What is known to matter in code is a *marker*, which is the four-byte selector of a function or the
byte of an instruction, with what it is called, how grave it is, and what it means (`Signature`).
A table of signatures is searched by `Signature.detect`, which gives the ones whose marker occurs in
the code, in the order of the table (`Signature.mem_detect_iff`). The search is a search for digits:
a marker that occurs inside data, or across the border of two bytes, counts as well.
-/

namespace EvmRisk

/-! ### Bytecode -/

/-- The code of a contract. -/
structure Bytecode where
  /-- Its digits in small letters. -/
  hex : String
  deriving DecidableEq, Repr

namespace Bytecode

/-- The code that a text gives; `none` if it is empty, as it is for an account without code. -/
def ofRaw? (raw : String) : Option Bytecode :=
  match Text.Hex.withoutMark (Text.trim raw.toList) with
  | [] => none
  | body => some ⟨String.ofList (Text.asciiLower body)⟩

/-- The size of the code in bytes, two digits to each; a last single digit does not count. -/
def byteLength (code : Bytecode) : Nat := code.hex.utf8ByteSize / 2

/-- Whether a piece stands in the code, at any digit. -/
def contains (code : Bytecode) (piece : List Char) : Bool := Text.occursIn piece code.hex.toList

end Bytecode

/-! ### Signatures -/

/-- How grave a signature is. -/
inductive Tier where
  /-- Enough to raise an alarm by itself. -/
  | high
  /-- Grave only in company. -/
  | medium
  deriving DecidableEq, Repr

/-- A tier as it is written. -/
def Tier.text : Tier → String
  | high => "High"
  | medium => "Medium"

/-- What is looked for in code. -/
inductive Marker where
  /-- The first four bytes of the hash of a function's signature. -/
  | selector (a b c d : UInt8)
  /-- The byte of an instruction. -/
  | opcode (b : UInt8)
  deriving DecidableEq, Repr

namespace Marker

/-- The bytes of a marker. -/
def bytes : Marker → List UInt8
  | selector a b c d => [a, b, c, d]
  | opcode b => [b]

/-- The digits of a marker, as they stand in code. -/
def hex (m : Marker) : List Char := Text.Hex.ofBytes m.bytes

/-- Whether a marker occurs in code. -/
def occursIn (m : Marker) (code : Bytecode) : Bool := code.contains m.hex

end Marker

/-- A marker that is known, and what is known about it. -/
structure Signature where
  /-- What is looked for. -/
  marker : Marker
  /-- The function with the types of its arguments, or the mnemonic of the instruction. -/
  name : String
  /-- How grave it is. -/
  tier : Tier
  /-- What a contract with it can do. -/
  description : String
  deriving DecidableEq, Repr

namespace Signature

/-- The signatures of a table that occur in code, in the order of the table; none occurs where
there is no code. -/
def detect (code : Option Bytecode) (table : List Signature) : List Signature :=
  match code with
  | none => []
  | some code => table.filter fun s => s.marker.occursIn code

/-- The signatures of one tier, in their order. -/
def ofTier (tier : Tier) (found : List Signature) : List Signature :=
  found.filter fun s => s.tier = tier

/-- A signature as evidence. -/
def evidence (s : Signature) : Json.Value :=
  .object [
    ("description", .string s.description),
    ("marker", .string (String.ofList ('0' :: 'x' :: s.marker.hex))),
    ("name", .string s.name),
    ("tier", .string s.tier.text)]

/-- Signatures as evidence. -/
def evidenceList (found : List Signature) : Json.Value := .array (found.map evidence)

/-- **A signature is detected just when it is in the table and its marker stands in the code.** -/
theorem mem_detect_iff {code : Bytecode} {table : List Signature} {s : Signature} :
    s ∈ detect (some code) table ↔ s ∈ table ∧ s.marker.hex <:+: code.hex.toList := by
  simp [detect, Marker.occursIn, Bytecode.contains, Text.occursIn_iff]

end Signature

end EvmRisk
