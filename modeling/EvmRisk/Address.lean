import EvmRisk.Fault
import EvmRisk.Text.Basic
import EvmRisk.Text.Hex

/-!
# Addresses

An address is twenty bytes. It is read from forty digits of base sixteen in any case, with `0x` or
`0X` before them or not, and blanks around it do not matter (`Address.ofText?`); whatever else is
given for an address is a fault (`Address.ofRaw`). It is written with its checksum in the case of
the letters (`Address.text`): a letter is a capital where the same digit of the hash of the forty
small digits is 8 or more.

The hash is Keccak-256, a sponge over a state of twenty-five lanes of 64 bits. The lanes form a
square, five by five; `Keccak.State.lane s x y` is the lane in column `x` of row `y`. A message is
padded to whole blocks of 136 bytes, each block is added to the first seventeen lanes, and the state
is permuted after each one. The hash is the first four lanes. This is the function with the padding
byte `0x01`, as contracts and addresses use it.
-/

/-! ### The hash -/

namespace EvmRisk.Keccak

/-- The lanes, row after row. -/
abbrev State := Vector UInt64 25

/-- The lane in column `x` of row `y`. -/
def State.lane (s : State) (x y : Fin 5) : UInt64 := s[x.val + 5 * y.val]

/-- The state with the given lanes. -/
def State.ofLanes (f : Fin 5 → Fin 5 → UInt64) : State :=
  Vector.ofFn fun i => f ⟨i.val % 5, by omega⟩ ⟨i.val / 5, by omega⟩

/-- A lane turned to the left. -/
def rotate (x : UInt64) (n : Nat) : UInt64 :=
  if n = 0 then x else (x <<< n.toUInt64) ||| (x >>> (64 - n).toUInt64)

/-- By how much the lane in column `x` of row `y` is turned. -/
def turn (x y : Fin 5) : Nat :=
  [ 0,  1, 62, 28, 27,
   36, 44,  6, 55, 20,
    3, 10, 43, 25, 39,
   41, 45, 15, 21,  8,
   18,  2, 61, 56, 14].getD (x.val + 5 * y.val) 0

/-- Every lane takes up the parities of two columns near it. -/
def theta (s : State) : State :=
  let parity : Vector UInt64 5 := Vector.ofFn fun x =>
    s.lane x 0 ^^^ s.lane x 1 ^^^ s.lane x 2 ^^^ s.lane x 3 ^^^ s.lane x 4
  State.ofLanes fun x y => s.lane x y ^^^ parity[x + 4] ^^^ rotate parity[x + 1] 1

/-- The lanes are turned and change places. -/
def rhoPi (s : State) : State :=
  State.ofLanes fun x y => rotate (s.lane (x + 3 * y) x) (turn (x + 3 * y) x)

/-- Within a row, every lane takes up the next one's complement together with the one after. -/
def chi (s : State) : State :=
  State.ofLanes fun x y => s.lane x y ^^^ (~~~(s.lane (x + 1) y) &&& s.lane (x + 2) y)

/-- The constants that tell the rounds apart. -/
def roundConstants : List UInt64 :=
  [0x0000000000000001, 0x0000000000008082, 0x800000000000808a, 0x8000000080008000,
   0x000000000000808b, 0x0000000080000001, 0x8000000080008081, 0x8000000000008009,
   0x000000000000008a, 0x0000000000000088, 0x0000000080008009, 0x000000008000000a,
   0x000000008000808b, 0x800000000000008b, 0x8000000000008089, 0x8000000000008003,
   0x8000000000008002, 0x8000000000000080, 0x000000000000800a, 0x800000008000000a,
   0x8000000080008081, 0x8000000000008080, 0x0000000080000001, 0x8000000080008008]

/-- One round. -/
def round (s : State) (constant : UInt64) : State :=
  let s := chi (rhoPi (theta s))
  s.set 0 (s[0] ^^^ constant)

/-- The permutation of the state. -/
def permute (s : State) : State := roundConstants.foldl round s

/-- The number of bytes in a block. -/
def rate : Nat := 136

/-- The message filled up to whole blocks: a bit after its end, and one at the end of the block. -/
def pad (message : List UInt8) : List UInt8 :=
  let missing := rate - message.length % rate
  if missing = 1 then message ++ [0x81]
  else message ++ [0x01] ++ List.replicate (missing - 2) 0x00 ++ [0x80]

/-- Eight bytes, the lowest first, as a lane. -/
def laneOfBytes (bytes : List UInt8) : UInt64 :=
  bytes.foldr (fun b x => x <<< 8 ||| b.toUInt64) 0

/-- A lane as eight bytes, the lowest first. -/
def bytesOfLane (x : UInt64) : List UInt8 := (List.range 8).map fun i => (x >>> (8 * i).toUInt64).toUInt8

/-- The state after one more block. -/
def absorb (s : State) (block : List UInt8) : State :=
  permute <| Vector.ofFn fun i =>
    s[i] ^^^ if i.val < rate / 8 then laneOfBytes ((block.drop (8 * i.val)).take 8) else 0

/-- The hash of a message, 32 bytes. -/
def hash (message : List UInt8) : List UInt8 :=
  let padded := pad message
  let blocks := (List.range (padded.length / rate)).map fun i => (padded.drop (rate * i)).take rate
  let s := blocks.foldl absorb (Vector.replicate 25 0)
  (s.toList.take 4).flatMap bytesOfLane

end EvmRisk.Keccak

/-! ### Addresses -/

namespace EvmRisk

/-- Twenty bytes. -/
structure Address where
  /-- The bytes, the highest first. -/
  bytes : List UInt8
  /-- There are twenty of them. -/
  length_bytes : bytes.length = 20
  deriving DecidableEq

namespace Address

/-- The address of twenty bytes. -/
def ofBytes? (bytes : List UInt8) : Option Address :=
  if h : bytes.length = 20 then some ⟨bytes, h⟩ else none

/-- The address that a text gives. -/
def ofText? (cs : List Char) : Option Address :=
  (Text.Hex.toBytes? (Text.Hex.withoutMark (Text.trim cs))).bind ofBytes?

/-- The address that a text gives. The fault tells the text as it was given. -/
def ofRaw (raw : String) : Except Fault Address :=
  match ofText? raw.toList with
  | some a => .ok a
  | none => .error (.invalidAddress raw)

/-- Whether all bytes are zero. Nobody holds this address; it stands for none. -/
def isZero (a : Address) : Bool := a.bytes.all (· == 0)

/-- The digits of bytes, one at a time. -/
def nibbles (bytes : List UInt8) : List Nat := bytes.flatMap fun b => [b.toNat / 16, b.toNat % 16]

/-- The digits of an address with the checksum in their case. -/
def checksummed (a : Address) : List Char :=
  let small := Text.Hex.ofBytes a.bytes
  let sum := Keccak.hash (small.map fun c => c.toNat.toUInt8)
  List.zipWith (fun c n => if 8 ≤ n then c.toUpper else c) small (nibbles sum)

/-- An address as it is written. -/
def text (a : Address) : String := String.ofList ('0' :: 'x' :: a.checksummed)

end Address

end EvmRisk
