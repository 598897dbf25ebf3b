import EvmRisk.Json.Value

/-!
# Records

How a document gives the fields of a record. It may be an object, whose members are found by their
names, or an array, which gives the fields in the order in which the record declares them. Members
that the record does not know are passed over whatever they hold. A field that is known must not
come twice.

Each kind of field has its reader, which takes the part of the document that holds the field. An
absent field is up to the record: it may have a default (`Node.withDefault`) or be required
(`Node.required`).
-/

namespace EvmRisk.Json.Node

/-- The fields of a record, by name. The names come in the order of declaration; an array may leave
out fields from the end, but has `least` of them at least. -/
def fields? (names : List String) (least : Nat) : Node → Option (String → Option Node)
  | object members => do
    let named ← members.mapM fun m => m.1.map (·, m.2)
    if names.all fun name => named.countP (·.1 == name) ≤ 1 then some (named.lookup ·) else none
  | array items =>
    if least ≤ items.length ∧ items.length ≤ names.length then
      some ((names.zip items).lookup ·)
    else none
  | _ => none

/-- A field that has a default. -/
def withDefault {α : Type} (default : α) (reader : Node → Option α) : Option Node → Option α
  | some n => reader n
  | none => some default

/-- A field that must be there. -/
def required {α : Type} (reader : Node → Option α) (field : Option Node) : Option α :=
  field.bind reader

/-- A value that may be left empty. -/
def nullable {α : Type} (reader : Node → Option α) : Node → Option (Option α)
  | null => some none
  | n => (reader n).map some

/-- A field that may be absent or left empty. -/
def optional {α : Type} (reader : Node → Option α) : Option Node → Option (Option α) :=
  withDefault none (nullable reader)

/-- A truth value. -/
def toBool? : Node → Option Bool
  | bool b => some b
  | _ => none

/-- A text. -/
def toString? : Node → Option String
  | string s => s
  | _ => none

/-- A count that is below `bound`. -/
def toNatBelow? (bound : Nat) : Node → Option Nat
  | number n =>
    match n.value? with
    | some (.int k) => if 0 ≤ k ∧ k < bound then some k.toNat else none
    | _ => none
  | _ => none

/-- A double; a whole number will do. -/
def toFloat? : Node → Option Float
  | number n =>
    match n.value? with
    | some (.float x) => some x
    | some (.int k) => some (if k < 0 then -Float.ofNat k.natAbs else Float.ofNat k.natAbs)
    | none => none
  | _ => none

/-- A list, each of whose items is read the same way. -/
def toList? {α : Type} (reader : Node → Option α) : Node → Option (List α)
  | array items => items.mapM reader
  | _ => none

/-- A name, or an object that has it as the name of its one member, which holds no value. -/
def toTag? : Node → Option String
  | string s => s
  | object [(name, null)] => name
  | _ => none

/-- The members of an object with their names, each read the same way. They keep their order and
their repetitions. -/
def toMembers? {α : Type} (reader : Node → Option α) : Node → Option (List (String × α))
  | object members =>
    members.mapM fun m => do
      let name ← m.1
      let value ← reader m.2
      some (name, value)
  | _ => none

end EvmRisk.Json.Node
