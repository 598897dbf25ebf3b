import EvmRisk.Decimal

/-!
# Numerals

A number as it is written in a document: a sign, digits before and after the point, and an
exponent. `Numeral.value?` is the number it denotes: a whole number where it is written as one and
fits into 64 bits, a double everywhere else, and nothing if that double would be infinite.
`Numeral.ofInt` and `Numeral.ofFloat?` write numbers.
-/

namespace EvmRisk.Json

open Decimal

/-- The power of ten behind the mark `e` of a numeral. -/
structure Exponent where
  negative : Bool
  digits : List Char
  deriving DecidableEq, Repr

/-- The power of ten as a number. -/
def Exponent.toInt (e : Exponent) : Int :=
  let n : Int := Nat.ofDigitChars 10 e.digits 0
  if e.negative then -n else n

/-- A number as it is written. -/
structure Numeral where
  negative : Bool
  whole : List Char
  /-- The digits after the point; there is no point if there are none. -/
  fraction : List Char
  exponent : Option Exponent
  deriving DecidableEq, Repr

/-- A number: whole, or a double. -/
inductive Number where
  | int (n : Int)
  | float (x : Float)
  deriving DecidableEq

namespace Numeral

/-- Whether it is written with digits alone. -/
def isWhole (n : Numeral) : Bool := n.fraction.isEmpty && n.exponent.isNone

/-- The numeral as a double, its first digits scaled by a power of ten. -/
def toFloat? (n : Numeral) : Option Float :=
  let (high, left) := absorb 0 n.whole
  let (significand, unread) := absorb high n.fraction
  let places := n.fraction.length - unread
  let power := (n.exponent.map Exponent.toInt).getD 0
  (scale? significand (power + left - places)).map fun x => if n.negative then -x else x

/-- The number that a numeral denotes. A whole numeral is a whole number from `-2 ^ 63` to
`2 ^ 64 - 1`, but for a zero with a minus sign; all else is a double. -/
def value? (n : Numeral) : Option Number :=
  let k := Nat.ofDigitChars 10 n.whole 0
  if n.isWhole && !n.negative && k < UInt64.size then some (.int k)
  else if n.isWhole && n.negative && 0 < k && k ≤ Nat.pow 2 63 then some (.int (-k))
  else n.toFloat?.map .float

/-- A whole number in digits. -/
def ofInt (n : Int) : Numeral := ⟨n < 0, Nat.toDigits 10 n.natAbs, [], none⟩

/-- Digits from the first one on, with the point after the first `place` of them; zeros fill what
is missing on either side, and something stands on both sides of the point. -/
def positional (negative : Bool) (digits : List Char) (place : Int) : Numeral :=
  if place ≤ 0 then ⟨negative, ['0'], List.replicate (-place).toNat '0' ++ digits, none⟩
  else
    let whole := digits.rightpad place.toNat '0'
    let fraction := whole.drop place.toNat
    ⟨negative, whole.take place.toNat, if fraction.isEmpty then ['0'] else fraction, none⟩

/-- Digits with the point after the first of them, and the power of ten that makes up for it. -/
def scientific (negative : Bool) (digits : List Char) (power : Int) : Numeral :=
  ⟨negative, digits.take 1, digits.drop 1,
    some ⟨power < 0, Nat.toDigits 10 power.natAbs⟩⟩

/-- The power of ten below which a double is written with an exponent. -/
def leastPositional : Int := -5

/-- The power of ten from which on a double is written with an exponent. -/
def positionalBound : Int := 16

/-- A finite double in the fewest digits that read back; `none` for the others. From `1e-5` to
below `1e16` it is positional, and it always shows a point or an exponent. -/
def ofFloat? (x : Float) : Option Numeral :=
  match Binary.ofFloat x with
  | .nan => none
  | .infinite _ => none
  | .finite negative 0 _ => some ⟨negative, ['0'], ['0'], none⟩
  | .finite negative m q =>
    let s := shortest m q
    let digits := Nat.toDigits 10 s.digits
    let power := s.exponent + digits.length - 1
    if leastPositional ≤ power ∧ power < positionalBound then
      some (positional negative digits (power + 1))
    else some (scientific negative digits power)

end Numeral

end EvmRisk.Json
