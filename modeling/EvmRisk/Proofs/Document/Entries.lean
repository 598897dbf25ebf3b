import EvmRisk.Abi
import EvmRisk.Proofs.Json.Records
import EvmRisk.Proofs.Json.Strictness

/-!
# Which interfaces are read

The grammar of interfaces, apart from the reader: what stands for a parameter
(`AbiParameter.Stands`), for an entry (`AbiEntry.Stands`) and for an interface. The reader knows
nothing else (`AbiEntry.ofNode?_eq_some_iff`, `Abi.ofNode?_eq_some_iff`), so that an interface is
missing exactly if the value in its place is one of those that hold none (`Abi.Unusable`).
-/

namespace EvmRisk

open Json (Node Value Carries Defaulted IsList IsTag IsText)

/-! ### Parameters -/

/-- The tree `n` is a record with the fields of `p`. -/
def AbiParameter.Stands (p : AbiParameter) (n : Node) : Prop :=
  ∃ field, n.Gives fieldNames field ∧
    Defaulted "" IsText p.name (field "name") ∧ Defaulted "" IsText p.type (field "type")

/-- A parameter is read exactly from what stands for it. -/
theorem AbiParameter.ofNode?_eq_some_iff (p : AbiParameter) (n : Node) :
    ofNode? n = some p ↔ p.Stands n := by
  have text {s : String} {field : Option Node} :
      Node.withDefault "" Node.toString? field = some s ↔ Defaulted "" IsText s field :=
    Node.withDefault_eq_some_iff Node.toString?_eq_some_iff
  constructor
  · intro h
    obtain ⟨field, fields, h⟩ := Option.bind_eq_some_iff.mp h
    obtain ⟨name, hname, h⟩ := Option.bind_eq_some_iff.mp h
    obtain ⟨type, htype, h⟩ := Option.bind_eq_some_iff.mp h
    obtain rfl := Option.some.inj h
    exact ⟨field, Node.fields?_eq_some_iff.mp fields, text.mp hname, text.mp htype⟩
  · rintro ⟨field, fields, name, type⟩
    rw [ofNode?, Node.fields?_eq_some_iff.mpr fields, Option.bind_eq_bind, Option.bind_some,
      text.mpr name, Option.bind_eq_bind, Option.bind_some, text.mpr type]
    rfl

/-! ### Entries -/

/-- The tree `n` names `kind`. -/
def EntryKind.Stands (kind : EntryKind) (n : Node) : Prop :=
  ∃ name, IsTag name n ∧ ofText name = kind

theorem EntryKind.ofNode?_eq_some_iff (kind : EntryKind) (n : Node) :
    ofNode? n = some kind ↔ kind.Stands n := by
  simp only [ofNode?, Option.map_eq_some_iff, Node.toTag?_eq_some_iff, Stands]

namespace AbiEntry

/-- `field` has the fields of `e`, in which those with a default may be missing. -/
structure Given (e : AbiEntry) (field : String → Option Node) : Prop where
  kind : Defaulted .function EntryKind.Stands e.kind (field "type")
  name : Carries IsText e.name (field "name")
  stateMutability : Carries IsText e.stateMutability (field "stateMutability")
  inputs : Defaulted [] (IsList AbiParameter.Stands) e.inputs (field "inputs")
  outputs : Defaulted [] (IsList AbiParameter.Stands) e.outputs (field "outputs")

/-- The tree `n` is a record with the fields of `e`. -/
def Stands (e : AbiEntry) (n : Node) : Prop := ∃ field, n.Gives fieldNames field ∧ e.Given field

/-- **An entry is read exactly from what stands for it.** -/
theorem ofNode?_eq_some_iff (e : AbiEntry) (n : Node) : ofNode? n = some e ↔ e.Stands n := by
  have kind {k : EntryKind} {field : Option Node} :
      Node.withDefault .function EntryKind.ofNode? field = some k ↔
        Defaulted .function EntryKind.Stands k field :=
    Node.withDefault_eq_some_iff EntryKind.ofNode?_eq_some_iff
  have text {part : Option String} {field : Option Node} :
      Node.optional Node.toString? field = some part ↔ Carries IsText part field :=
    Node.optional_eq_some_iff Node.toString?_eq_some_iff rfl
  have list {ps : List AbiParameter} {field : Option Node} :
      Node.withDefault [] (Node.toList? AbiParameter.ofNode?) field = some ps ↔
        Defaulted [] (IsList AbiParameter.Stands) ps field :=
    Node.withDefault_eq_some_iff fun _ _ =>
      Node.toList?_eq_some_iff AbiParameter.ofNode?_eq_some_iff
  constructor
  · intro h
    obtain ⟨field, fields, h⟩ := Option.bind_eq_some_iff.mp h
    obtain ⟨k, hk, h⟩ := Option.bind_eq_some_iff.mp h
    obtain ⟨name, hname, h⟩ := Option.bind_eq_some_iff.mp h
    obtain ⟨mutability, hmutability, h⟩ := Option.bind_eq_some_iff.mp h
    obtain ⟨inputs, hinputs, h⟩ := Option.bind_eq_some_iff.mp h
    obtain ⟨outputs, houtputs, h⟩ := Option.bind_eq_some_iff.mp h
    obtain rfl := Option.some.inj h
    exact ⟨field, Node.fields?_eq_some_iff.mp fields, kind.mp hk, text.mp hname,
      text.mp hmutability, list.mp hinputs, list.mp houtputs⟩
  · rintro ⟨field, fields, given⟩
    simp only [ofNode?, Node.fields?_eq_some_iff.mpr fields, kind.mpr given.kind,
      text.mpr given.name, text.mpr given.stateMutability, list.mpr given.inputs,
      list.mpr given.outputs, Option.bind_eq_bind, Option.bind_some]

/-- The tree `n` stands for some entry. -/
def Acceptable (n : Node) : Prop := ∃ e : AbiEntry, e.Stands n

end AbiEntry

/-! ### Interfaces -/

namespace Abi

/-- **An interface is read exactly from the array of what stands for its entries.** -/
theorem ofNode?_eq_some_iff {abi : Abi} {n : Node} :
    ofNode? n = some abi ↔ IsList AbiEntry.Stands abi n :=
  Node.toList?_eq_some_iff AbiEntry.ofNode?_eq_some_iff

/-- An interface is read from an array iff every item stands for an entry. -/
theorem exists_ofNode?_array_iff {items : List Node} :
    (∃ abi, ofNode? (.array items) = some abi) ↔ ∀ item ∈ items, AbiEntry.Acceptable item := by
  simp only [ofNode?_eq_some_iff]
  constructor
  · rintro ⟨abi, _, ⟨⟩, stand⟩ item hi
    obtain ⟨e, -, stands⟩ := exists_of_forall₂_left stand item hi
    exact ⟨e, stands⟩
  · intro all
    obtain ⟨abi, stand⟩ := exists_forall₂ all
    exact ⟨abi, items, rfl, stand⟩

/-- Values that hold no interface. -/
inductive Unusable : Value → Prop where
  | null : Unusable .null
  | bool (b : Bool) : Unusable (.bool b)
  | int (n : Int) : Unusable (.int n)
  | float (x : Float) : Unusable (.float x)
  | object (members : List (String × Value)) : Unusable (.object members)
  /-- A text, unless an array of acceptable entries is written in it, with blanks around or not. -/
  | string {s : String} (h : ¬ ∃ items, (Node.array items).Written (Text.trim s.toList) ∧
      ∀ item ∈ items, AbiEntry.Acceptable item) : Unusable (.string s)
  /-- An array with an entry that is not acceptable. -/
  | array {items : List Value} {v : Value} (mem : v ∈ items)
    (h : ¬ AbiEntry.Acceptable v.toNode) : Unusable (.array items)

theorem ofValue?_array (items : List Value) :
    ofValue? (.array items) = ofNode? (.array (items.map Value.toNode)) := by
  rw [← Value.toItems_eq_map]
  rfl

/-- An interface is read from a text iff an array of acceptable items is written in it. -/
theorem exists_ofText?_iff {s : String} :
    (∃ abi, ofText? s = some abi) ↔ ∃ items, (Node.array items).Written (Text.trim s.toList) ∧
      ∀ item ∈ items, AbiEntry.Acceptable item := by
  constructor
  · rintro ⟨abi, h⟩
    obtain ⟨n, read, made⟩ := Option.bind_eq_some_iff.mp h
    obtain ⟨items, rfl, -⟩ := ofNode?_eq_some_iff.mp made
    exact ⟨items, Node.read?_eq_some_iff.mp read, exists_ofNode?_array_iff.mp ⟨abi, made⟩⟩
  · rintro ⟨items, written, all⟩
    obtain ⟨abi, made⟩ := exists_ofNode?_array_iff.mpr all
    exact ⟨abi, by rw [ofText?, Node.read?_of_written written, Option.bind_some, made]⟩

/-- **There is no interface iff the value in its place is `Unusable`.** -/
theorem ofValue?_eq_none_iff {v : Value} : ofValue? v = none ↔ Unusable v := by
  have none_iff {o : Option Abi} : o = none ↔ ¬ ∃ abi, o = some abi := by
    rw [← Option.isSome_iff_exists, Option.not_isSome_iff_eq_none]
  constructor
  · intro h
    cases v with
    | null => exact .null
    | bool b => exact .bool b
    | int n => exact .int n
    | float x => exact .float x
    | object members => exact .object members
    | string s => exact .string (exists_ofText?_iff.not.mp (none_iff.mp h))
    | array items =>
      rw [ofValue?_array, none_iff, exists_ofNode?_array_iff] at h
      push Not at h
      obtain ⟨_, listed, spoiled⟩ := h
      obtain ⟨v, mem, rfl⟩ := List.mem_map.mp listed
      exact .array mem spoiled
  · intro h
    cases h with
    | null => rfl
    | bool b => rfl
    | int n => rfl
    | float x =>
      -- A double is written as a numeral, or as no value.
      rw [ofValue?, Value.toNode]
      · split <;> rfl
      · simp
      · simp
    | object members => rfl
    | string h => exact none_iff.mpr (exists_ofText?_iff.not.mpr h)
    | array mem spoiled =>
      rw [ofValue?_array, none_iff, exists_ofNode?_array_iff]
      exact fun all => spoiled (all _ (List.mem_map_of_mem mem))

end Abi

end EvmRisk
