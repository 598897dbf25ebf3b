import EvmRisk.Json.Record
import EvmRisk.Text.Basic
import EvmRisk.Text.Lowercase

/-!
# Interfaces

The interface of a contract is a list of entries, of which only the named functions matter. A
document holds it as an array, or as a text which holds that array; `Abi.ofValue?` reads both. One
entry that cannot be read spoils the whole interface.
-/

namespace EvmRisk

/-- What an entry describes. -/
inductive EntryKind where
  | function
  /-- An event, a constructor or whatever else. -/
  | other
  deriving DecidableEq, Repr

/-- A parameter of an entry. -/
structure AbiParameter where
  name : String := ""
  type : String := ""
  deriving DecidableEq, Repr

/-- An entry of an interface. -/
structure AbiEntry where
  kind : EntryKind
  name : Option String
  stateMutability : Option String
  inputs : List AbiParameter
  outputs : List AbiParameter
  deriving DecidableEq, Repr

/-- An interface. -/
abbrev Abi := List AbiEntry

open Json (Node Value)

namespace EntryKind

/-- A kind in documents. -/
def text : EntryKind → String
  | function => "function"
  | other => "other"

/-- The kind with a name; every name but that of functions is as good as any other. -/
def ofText (s : String) : EntryKind := if s = "function" then function else other

/-- The kind that a document names. -/
def ofNode? (n : Node) : Option EntryKind := n.toTag?.map ofText

end EntryKind

namespace AbiParameter

/-- The names of the fields, in their order. -/
def fieldNames : List String := ["name", "type"]

/-- The parameter of a document. Both fields may be missing. -/
def ofNode? (n : Node) : Option AbiParameter := do
  let field ← n.fields? fieldNames 0
  let name ← Node.withDefault "" Node.toString? (field "name")
  let type ← Node.withDefault "" Node.toString? (field "type")
  some ⟨name, type⟩

/-- A parameter as a value. -/
def toValue (p : AbiParameter) : Value :=
  .object [("name", .string p.name), ("type", .string p.type)]

end AbiParameter

namespace AbiEntry

/-- A function with a name and nothing else. -/
def ofFunction (name : String) : AbiEntry := ⟨.function, some name, some "nonpayable", [], []⟩

/-- The names of the fields, in their order. -/
def fieldNames : List String := ["type", "name", "stateMutability", "inputs", "outputs"]

/-- The entry of a document. All fields may be missing; an entry without a kind is a function. -/
def ofNode? (n : Node) : Option AbiEntry := do
  let field ← n.fields? fieldNames 0
  let kind ← Node.withDefault .function EntryKind.ofNode? (field "type")
  let name ← Node.optional Node.toString? (field "name")
  let stateMutability ← Node.optional Node.toString? (field "stateMutability")
  let inputs ← Node.withDefault [] (Node.toList? AbiParameter.ofNode?) (field "inputs")
  let outputs ← Node.withDefault [] (Node.toList? AbiParameter.ofNode?) (field "outputs")
  some ⟨kind, name, stateMutability, inputs, outputs⟩

/-- An entry as a value. -/
def toValue (e : AbiEntry) : Value :=
  .object [
    ("type", .string e.kind.text),
    ("name", .ofString? e.name),
    ("stateMutability", .ofString? e.stateMutability),
    ("inputs", .array (e.inputs.map AbiParameter.toValue)),
    ("outputs", .array (e.outputs.map AbiParameter.toValue))]

/-- The name of a function that has one that is not empty. -/
def functionName? (e : AbiEntry) : Option String :=
  match e.kind, e.name with
  | .function, some name => if name.isEmpty then none else some name
  | _, _ => none

end AbiEntry

namespace Abi

/-- The interface of a document, an array of entries. -/
def ofNode? (n : Node) : Option Abi := n.toList? AbiEntry.ofNode?

/-- The interface of a text, with blanks around it or not. -/
def ofText? (text : String) : Option Abi :=
  (Node.read? (Text.trim text.toList)).bind ofNode?

/-- The interface of a value: a text which holds it, or the interface itself. -/
def ofValue? : Value → Option Abi
  | .null => none
  | .string text => ofText? text
  | v => ofNode? v.toNode

/-- An interface as a value. -/
def toValue (abi : Abi) : Value := .array (abi.map AbiEntry.toValue)

/-- The names of the functions in lowercase. -/
def functionNames (abi : Abi) : List String :=
  (abi.filterMap AbiEntry.functionName?).map fun name => String.ofList (Text.lower name.toList)

end Abi

end EvmRisk
