/-!
# Doubles in decimal

A double is not a number, infinite, or a sign, a significand `m` and an exponent `q` that stand for
`m · 2 ^ q` exactly. `Binary.ofFloat` reads the three fields of its bits; `timesTwoTo` and
`overTenTo` keep such values as fractions of whole numbers.

* Reading (`absorb`, `scale?`): the digits of a numeral are gathered into a significand of 64 bits,
  and digits for which there is no more room are left out; then the significand is multiplied or
  divided once by a power of ten, itself rounded to a double. A numeral whose double would be
  infinite has none.
* Writing with the fewest digits (`shortest`): every double is the nearest one to all the numbers of
  an interval around it. Of the decimal numbers in that interval, `shortest` takes one on the
  coarsest grid of multiples of a power of ten that has any. On that grid it takes the multiple
  nearest to the double, and of two equally near ones the even one.
* Writing with a fixed number of places (`fixed`): the nearest such number to the exact value, and
  of two equally near ones the one whose last digit is even (`roundHalfEven_near`). The sign of a
  negative zero is kept, and what is not a finite number is written as a word.
-/

namespace EvmRisk.Decimal

/-! ### What a double holds -/

/-- What a double holds. -/
inductive Binary where
  /-- No number at all. -/
  | nan
  /-- Beyond every number, on the side that the sign says. -/
  | infinite (negative : Bool)
  /-- `significand · 2 ^ exponent` with a sign, which a zero has too. -/
  | finite (negative : Bool) (significand : Nat) (exponent : Int)
  deriving DecidableEq, Repr

namespace Binary

/-- The content of a double given by its sign, its exponent field and its fraction field: a field
of zero holds the subnormal numbers, the largest one the infinities and what is not a number, and
any other has a hidden leading bit. -/
def ofFields (negative : Bool) (field fraction : Nat) : Binary :=
  if field = 0x7ff then
    if fraction = 0 then infinite negative else nan
  else if field = 0 then finite negative fraction (-1074)
  else finite negative (Nat.pow 2 52 + fraction) (field - 1075)

/-- The content of a double. -/
def ofFloat (x : Float) : Binary :=
  let bits := x.toBits.toNat
  ofFields (Nat.pow 2 63 ≤ bits) (bits / Nat.pow 2 52 % Nat.pow 2 11) (bits % Nat.pow 2 52)

end Binary

/-- The fraction `n · 2 ^ q` over `d`, as a numerator and a denominator. -/
def timesTwoTo (n d : Nat) (q : Int) : Nat × Nat :=
  if 0 ≤ q then (n * Nat.pow 2 q.toNat, d) else (n, d * Nat.pow 2 (-q).toNat)

/-- The fraction `n / 10 ^ k` over `d`, as a numerator and a denominator. -/
def overTenTo (n d : Nat) (k : Int) : Nat × Nat :=
  if 0 ≤ k then (n, d * Nat.pow 10 k.toNat) else (n * Nat.pow 10 (-k).toNat, d)

/-! ### Reading -/

/-- The room for a significand: it stays below this bound. -/
def significandBound : Nat := UInt64.size

/-- Appends digits to a significand as long as it stays below the bound. Gives the significand and
the number of digits that were left out: the first for which there was no room, and all after it. -/
def absorb (significand : Nat) : List Char → Nat × Nat
  | [] => (significand, 0)
  | c :: cs =>
    let next := 10 * significand + (c.toNat - '0'.toNat)
    if next < significandBound then absorb next cs else (significand, cs.length + 1)

/-- A power of ten as a double. -/
def tenTo (n : Nat) : Float := Float.ofScientific 1 false n

/-- The largest exponent of a power of ten that is a finite double. -/
def maxExponent : Nat := 308

/-- The double for `significand · 10 ^ exponent`; `none` if it is infinite. Below the least power
of ten that has a finite inverse the division is done in two steps, and below twice that exponent
nothing is left. -/
def scale? (significand : Nat) (exponent : Int) : Option Float :=
  let start := Float.ofNat significand
  if significand = 0 then some start
  else if (maxExponent : Int) < exponent then none
  else if 0 ≤ exponent then
    let x := start * tenTo exponent.toNat
    if x.isInf then none else some x
  else if -(maxExponent : Int) ≤ exponent then some (start / tenTo (-exponent).toNat)
  else if -(2 * maxExponent : Int) ≤ exponent then
    some (start / tenTo maxExponent / tenTo (-exponent - maxExponent).toNat)
  else some 0

/-! ### The fewest digits that read back -/

/-- The numbers that a double stands for, on a common denominator: those from `low` to `high`, the
ends included if `closed`, with the double itself at `value`. -/
structure Interval where
  /-- The numerator of the lower end. -/
  low : Nat
  /-- The numerator of the double itself. -/
  value : Nat
  /-- The numerator of the upper end. -/
  high : Nat
  /-- The common denominator. -/
  den : Nat
  /-- Whether the ends belong to the interval. -/
  closed : Bool

/-- The numbers nearest to the double `m · 2 ^ q`. The ends lie half way to its neighbours; the
lower neighbour of the least significand of a binade is only half as far away. The ends round to
the even significand, so they belong to the interval just when `m` is even. -/
def Interval.around (m : Nat) (q : Int) : Interval :=
  let below := if m = Nat.pow 2 52 ∧ -1074 < q then 4 * m - 1 else 4 * m - 2
  { low := (timesTwoTo below 4 q).1
    value := (timesTwoTo (4 * m) 4 q).1
    high := (timesTwoTo (4 * m + 2) 4 q).1
    den := (timesTwoTo 1 4 q).2
    closed := m % 2 == 0 }

/-- The interval with `10 ^ k` as the unit. -/
def Interval.inUnits (i : Interval) (k : Int) : Interval :=
  { low := (overTenTo i.low i.den k).1
    value := (overTenTo i.value i.den k).1
    high := (overTenTo i.high i.den k).1
    den := (overTenTo 1 i.den k).2
    closed := i.closed }

/-- Whether the whole number `c` lies in the interval. -/
def Interval.holds (i : Interval) (c : Nat) : Bool :=
  if i.closed then i.low ≤ c * i.den && c * i.den ≤ i.high
  else i.low < c * i.den && c * i.den < i.high

/-- The whole number in the interval that is nearest to the double, and of two the even one. Only
the two neighbours of the double come into question. -/
def Interval.nearest? (i : Interval) : Option Nat :=
  let below := i.value / i.den
  let above := below + 1
  match i.holds below, i.holds above with
  | false, false => none
  | true, false => some below
  | false, true => some above
  | true, true =>
    let rest := 2 * (i.value - below * i.den)
    if rest < i.den then some below
    else if i.den < rest then some above
    else some (if below % 2 = 0 then below else above)

/-- A decimal number `digits · 10 ^ exponent`. -/
structure Scaled where
  /-- The whole number that the digits spell. -/
  digits : Nat
  /-- The power of ten. -/
  exponent : Int
  deriving DecidableEq, Repr

/-- The exponents of the grids that are tried, the coarsest first: no double reaches `10 ^ 309`,
and all of them are multiples of `10 ^ (-1074)`. -/
def gridExponents : List Int := (List.range 1384).map fun (i : Nat) => 309 - (i : Int)

/-- The decimal number with the fewest digits that is nearest to the double `m · 2 ^ q`, for
`0 < m`. -/
def shortest (m : Nat) (q : Int) : Scaled :=
  let interval := Interval.around m q
  match gridExponents.findSome? fun k => (interval.inUnits k).nearest?.map (Scaled.mk · k) with
  | some s => s
  | none => ⟨0, 0⟩

/-! ### A fixed number of places -/

/-- The whole number nearest to `n / d`; half way between two, the even one. -/
def roundHalfEven (n d : Nat) : Nat :=
  let below := n / d
  let rest := 2 * (n % d)
  if rest < d then below
  else if d < rest then below + 1
  else if below % 2 = 0 then below else below + 1

/-- The digits of `n / 10 ^ places`, with that many places after the point. -/
def placesText (places n : Nat) : List Char :=
  let whole := Nat.toDigits 10 (n / Nat.pow 10 places)
  if places = 0 then whole
  else whole ++ ['.'] ++ (Nat.toDigits 10 (n % Nat.pow 10 places)).leftpad places '0'

/-- A double with `places` digits after the point. -/
def fixed (places : Nat) (x : Float) : List Char :=
  let sign (negative : Bool) : List Char := if negative then ['-'] else []
  match Binary.ofFloat x with
  | .nan => "NaN".toList
  | .infinite negative => sign negative ++ "inf".toList
  | .finite negative m q =>
    let v := timesTwoTo (m * Nat.pow 10 places) 1 q
    sign negative ++ placesText places (roundHalfEven v.1 v.2)

/-- `roundHalfEven` is off by half a unit at the most. -/
theorem roundHalfEven_near (n d : Nat) (h : 0 < d) :
    2 * (roundHalfEven n d * d) ≤ 2 * n + d ∧ 2 * n ≤ 2 * (roundHalfEven n d * d) + d := by
  have hn : d * (n / d) + n % d = n := Nat.div_add_mod n d
  have hr : n % d < d := Nat.mod_lt n h
  have hc : n / d * d = d * (n / d) := Nat.mul_comm _ _
  have hs : (n / d + 1) * d = d * (n / d) + d := by rw [Nat.add_mul, hc, Nat.one_mul]
  unfold roundHalfEven
  simp only
  split
  · rw [hc]; omega
  · split
    · rw [hs]; omega
    · split
      · rw [hc]; omega
      · rw [hs]; omega

end EvmRisk.Decimal
