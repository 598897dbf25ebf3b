import EvmRisk.Json.Node

/-!
# Values

What a document means: a tree of values with numbers instead of numerals and texts that are strings
of characters. Where a document is free in its form, it is read by `Value.ofNode?`: of members with
the same name the last one counts, the members come in the order of their names, and the nesting is
bounded. `Value.toNode` writes a value.
-/

namespace EvmRisk.Json

/-- A value. -/
inductive Value where
  | null
  | bool (b : Bool)
  | int (n : Int)
  | float (x : Float)
  | string (s : String)
  | array (items : List Value)
  | object (members : List (String × Value))

/-- How many brackets may be open at once in what is read. -/
def depthBound : Nat := 127

namespace Value

/-- A number as a value; what is no finite number has none. -/
def ofFloat (x : Float) : Value := if x.isFinite then .float x else .null

/-- A number as a value. -/
def ofNumber : Number → Value
  | .int n => .int n
  | .float x => .float x

/-- A text, or no value. -/
def ofString? : Option String → Value
  | some s => .string s
  | none => .null

/-- A count. -/
def ofNat (n : Nat) : Value := .int n

/-! ### Members by name -/

/-- Puts a member where its name belongs in the order of names, in place of one with that name. -/
def putMember {α : Type} (name : String) (value : α) : List (String × α) → List (String × α)
  | [] => [(name, value)]
  | (other, old) :: rest =>
    if name < other then (name, value) :: (other, old) :: rest
    else if name = other then (name, value) :: rest
    else (other, old) :: putMember name value rest

/-- Members in the order of their names; of those with the same name the last one. -/
def arrange {α : Type} (members : List (String × α)) : List (String × α) :=
  members.foldl (fun done m => putMember m.1 m.2 done) []

/-! ### From documents and back -/

mutual

/-- The value of a document in which at most `levels` brackets are open at once. -/
def ofNode? (levels : Nat) : Node → Option Value
  | .null => some null
  | .bool b => some (bool b)
  | .number n => n.value?.map ofNumber
  | .string s => s.map string
  | .array items => if levels = 0 then none else (ofItems? (levels - 1) items).map array
  | .object members =>
    if levels = 0 then none
    else (ofMembers? (levels - 1) members).map fun ms => object (arrange ms)

/-- The values of the items of an array. -/
def ofItems? (levels : Nat) : List Node → Option (List Value)
  | [] => some []
  | item :: items => do
    let v ← ofNode? levels item
    let vs ← ofItems? levels items
    some (v :: vs)

/-- The names and values of the members of an object. -/
def ofMembers? (levels : Nat) : List (Option String × Node) → Option (List (String × Value))
  | [] => some []
  | (name, member) :: members => do
    let s ← name
    let v ← ofNode? levels member
    let vs ← ofMembers? levels members
    some ((s, v) :: vs)

end

mutual

/-- A value as a document. -/
def toNode : Value → Node
  | null => .null
  | bool b => .bool b
  | int n => .number (Numeral.ofInt n)
  | float x =>
    match Numeral.ofFloat? x with
    | some n => .number n
    | none => .null
  | string s => .string (some s)
  | array items => .array (toItems items)
  | object members => .object (toMembers members)

/-- The items of an array as documents. -/
def toItems : List Value → List Node
  | [] => []
  | v :: vs => toNode v :: toItems vs

/-- The members of an object as documents. -/
def toMembers : List (String × Value) → List (Option String × Node)
  | [] => []
  | (name, v) :: vs => (some name, toNode v) :: toMembers vs

end

/-- A value on one line. -/
def compact (v : Value) : String := v.toNode.compact

/-- A value with a line for every part. -/
def pretty (v : Value) : String := v.toNode.pretty

end Value

end EvmRisk.Json
