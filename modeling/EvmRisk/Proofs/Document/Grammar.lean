import EvmRisk.Proofs.Document.Entries
import EvmRisk.Proofs.Json.Fields

/-!
# The grammar of interfaces

What an interface may look like, told by its value alone: which values stand for a kind
(`EntryKind.DenotedBy`), for a parameter (`AbiParameter.DenotedBy`) and for an entry
(`AbiEntry.DenotedBy`), and which do so for any at all (`AbiEntry.Legible`). From an array the
interface is read that has the denoted entries in the order of the items, and one item that is not
legible spoils it (`Abi.ofValue?_array_spec`).

The trees that are written for such values stand for the same things, part by part, which is how the
grammar comes down to that of `Proofs/Document/Entries`.
-/

namespace EvmRisk

open Json (Node Value Carries Defaulted IsList IsTag IsText)

/-! ### Kinds -/

/-- The value `v` names `kind`, as a text or as the name of one member that holds no value. Only
functions have a name of their own. -/
def EntryKind.DenotedBy (kind : EntryKind) (v : Value) : Prop :=
  ∃ name, (v = .string name ∨ v = .object [(name, .null)]) ∧
    (kind = .function ↔ name = "function")

theorem EntryKind.ofText_eq_iff (kind : EntryKind) (name : String) :
    ofText name = kind ↔ (kind = .function ↔ name = "function") := by
  unfold ofText
  split_ifs with h
  · simp [h, eq_comm]
  · cases kind <;> simp [h]

/-- The tree of a value names the kind that the value denotes. -/
theorem EntryKind.stands_iff (kind : EntryKind) {v : Value} (sound : v.Sound) :
    kind.Stands v.toNode ↔ kind.DenotedBy v := by
  simp only [Stands, DenotedBy, sound.isTag_iff, ofText_eq_iff]

/-! ### Parameters -/

namespace AbiParameter

/-- The value `v` is a record with the fields of `p`. -/
structure DenotedBy (p : AbiParameter) (v : Value) : Prop where
  record : v.IsRecord fieldNames
  name : Value.OrDefault "" (fun s w => w = .string s) p.name (v.field? fieldNames "name")
  type : Value.OrDefault "" (fun s w => w = .string s) p.type (v.field? fieldNames "type")

/-- The tree of a value stands for the parameter that the value denotes. -/
theorem stands_iff (p : AbiParameter) {v : Value} (sound : v.Sound) :
    p.Stands v.toNode ↔ p.DenotedBy v := by
  have text (s name : String) :
      Defaulted "" IsText s ((v.field? fieldNames name).map Value.toNode) ↔
        Value.OrDefault "" (fun s w => w = .string s) s (v.field? fieldNames name) :=
    Value.defaulted_iff fun _ _ => Value.toNode_eq_string_iff
  constructor
  · rintro ⟨field, gives, name, type⟩
    obtain ⟨record, rfl⟩ := sound.gives_iff.mp gives
    exact ⟨record, (text _ _).mp name, (text _ _).mp type⟩
  · intro h
    exact ⟨_, sound.gives_iff.mpr ⟨h.record, rfl⟩, (text _ _).mpr h.name, (text _ _).mpr h.type⟩

end AbiParameter

/-! ### Entries -/

namespace AbiEntry

/-- The value `v` is a record with the fields of `e`. -/
structure DenotedBy (e : AbiEntry) (v : Value) : Prop where
  record : v.IsRecord fieldNames
  kind : Value.OrDefault .function EntryKind.DenotedBy e.kind (v.field? fieldNames "type")
  name : Value.OrDefault none (fun s w => w = .ofString? s) e.name (v.field? fieldNames "name")
  stateMutability : Value.OrDefault none (fun s w => w = .ofString? s) e.stateMutability
    (v.field? fieldNames "stateMutability")
  inputs : Value.OrDefault [] (Value.Lists AbiParameter.DenotedBy) e.inputs
    (v.field? fieldNames "inputs")
  outputs : Value.OrDefault [] (Value.Lists AbiParameter.DenotedBy) e.outputs
    (v.field? fieldNames "outputs")

/-- **The tree of a value stands for the entry that the value denotes.** -/
theorem stands_iff (e : AbiEntry) {v : Value} (sound : v.Sound) :
    e.Stands v.toNode ↔ e.DenotedBy v := by
  have kind (k : EntryKind) (name : String) :
      Defaulted .function EntryKind.Stands k ((v.field? fieldNames name).map Value.toNode) ↔
        Value.OrDefault .function EntryKind.DenotedBy k (v.field? fieldNames name) :=
    Value.defaulted_iff fun _ found => k.stands_iff (sound.field? found)
  have text (part : Option String) (name : String) :
      Carries IsText part ((v.field? fieldNames name).map Value.toNode) ↔
        Value.OrDefault none (fun s w => w = .ofString? s) part (v.field? fieldNames name) :=
    Value.carries_iff fun _ found => sound.field? found
  have list (ps : List AbiParameter) (name : String) :
      Defaulted [] (IsList AbiParameter.Stands) ps
          ((v.field? fieldNames name).map Value.toNode) ↔
        Value.OrDefault [] (Value.Lists AbiParameter.DenotedBy) ps (v.field? fieldNames name) :=
    Value.defaulted_iff fun _ found =>
      (sound.field? found).isList_iff fun p _ => p.stands_iff
  constructor
  · rintro ⟨field, gives, given⟩
    obtain ⟨record, rfl⟩ := sound.gives_iff.mp gives
    exact ⟨record, (kind _ _).mp given.kind, (text _ _).mp given.name,
      (text _ _).mp given.stateMutability, (list _ _).mp given.inputs,
      (list _ _).mp given.outputs⟩
  · intro h
    exact ⟨_, sound.gives_iff.mpr ⟨h.record, rfl⟩, (kind _ _).mpr h.kind, (text _ _).mpr h.name,
      (text _ _).mpr h.stateMutability, (list _ _).mpr h.inputs, (list _ _).mpr h.outputs⟩

end AbiEntry

/-! ### What can be read -/

/-- The values that name some kind. -/
def EntryKind.Legible (v : Value) : Prop := ∃ name, v = .string name ∨ v = .object [(name, .null)]

/-- The legible values are those that denote a kind. -/
theorem EntryKind.legible_iff {v : Value} : Legible v ↔ ∃ kind : EntryKind, kind.DenotedBy v := by
  constructor
  · rintro ⟨name, named⟩
    exact ⟨ofText name, name, named, (ofText_eq_iff _ _).mp rfl⟩
  · rintro ⟨kind, name, named, -⟩
    exact ⟨name, named⟩

/-- The values that stand for some parameter: a field that is there is a text. -/
structure AbiParameter.Legible (v : Value) : Prop where
  record : v.IsRecord fieldNames
  name : ∀ w ∈ v.field? fieldNames "name", ∃ s, w = .string s
  type : ∀ w ∈ v.field? fieldNames "type", ∃ s, w = .string s

/-- The legible values are those that denote a parameter. -/
theorem AbiParameter.legible_iff {v : Value} :
    Legible v ↔ ∃ p : AbiParameter, p.DenotedBy v := by
  constructor
  · rintro ⟨record, name, type⟩
    obtain ⟨name, hname⟩ := Value.exists_orDefault_iff.mpr name
    obtain ⟨type, htype⟩ := Value.exists_orDefault_iff.mpr type
    exact ⟨⟨name, type⟩, record, hname, htype⟩
  · rintro ⟨p, h⟩
    exact ⟨h.record, Value.exists_orDefault_iff.mp ⟨_, h.name⟩,
      Value.exists_orDefault_iff.mp ⟨_, h.type⟩⟩

namespace AbiEntry

/-- The values that stand for some entry. A name may be left empty, but no list and no kind. -/
structure Legible (v : Value) : Prop where
  record : v.IsRecord fieldNames
  kind : ∀ w ∈ v.field? fieldNames "type", EntryKind.Legible w
  name : ∀ w ∈ v.field? fieldNames "name", w = .null ∨ ∃ s, w = .string s
  stateMutability : ∀ w ∈ v.field? fieldNames "stateMutability", w = .null ∨ ∃ s, w = .string s
  inputs : ∀ w ∈ v.field? fieldNames "inputs",
    ∃ items, w = .array items ∧ ∀ item ∈ items, AbiParameter.Legible item
  outputs : ∀ w ∈ v.field? fieldNames "outputs",
    ∃ items, w = .array items ∧ ∀ item ∈ items, AbiParameter.Legible item

/-- **The legible values are those that denote an entry.** -/
theorem legible_iff {v : Value} : Legible v ↔ ∃ e : AbiEntry, e.DenotedBy v := by
  have kind (name : String) : (∀ w ∈ v.field? fieldNames name, EntryKind.Legible w) ↔
      ∃ k, Value.OrDefault .function EntryKind.DenotedBy k (v.field? fieldNames name) := by
    simp only [Value.exists_orDefault_iff, EntryKind.legible_iff]
  have text (name : String) :
      (∀ w ∈ v.field? fieldNames name, w = .null ∨ ∃ s, w = .string s) ↔
        ∃ s, Value.OrDefault none (fun s w => w = .ofString? s) s (v.field? fieldNames name) := by
    simp only [Value.exists_orDefault_iff, Option.exists, Value.ofString?]
  have list (name : String) : (∀ w ∈ v.field? fieldNames name,
      ∃ items, w = .array items ∧ ∀ item ∈ items, AbiParameter.Legible item) ↔
        ∃ ps, Value.OrDefault [] (Value.Lists AbiParameter.DenotedBy) ps
          (v.field? fieldNames name) := by
    simp only [Value.exists_orDefault_iff, Value.exists_lists_iff, AbiParameter.legible_iff]
  constructor
  · intro h
    obtain ⟨k, hkind⟩ := (kind _).mp h.kind
    obtain ⟨name, hname⟩ := (text _).mp h.name
    obtain ⟨mutability, hmutability⟩ := (text _).mp h.stateMutability
    obtain ⟨inputs, hinputs⟩ := (list _).mp h.inputs
    obtain ⟨outputs, houtputs⟩ := (list _).mp h.outputs
    exact ⟨⟨k, name, mutability, inputs, outputs⟩, h.record, hkind, hname, hmutability, hinputs,
      houtputs⟩
  · rintro ⟨e, h⟩
    exact ⟨h.record, (kind _).mpr ⟨_, h.kind⟩, (text _).mpr ⟨_, h.name⟩,
      (text _).mpr ⟨_, h.stateMutability⟩, (list _).mpr ⟨_, h.inputs⟩, (list _).mpr ⟨_, h.outputs⟩⟩

end AbiEntry

/-! ### Interfaces -/

namespace Abi

/-- An array is read as the entries that its items denote, in their order. -/
theorem ofValue?_array_eq_some_iff {items : List Value} (sound : ∀ v ∈ items, v.Sound)
    {abi : Abi} : ofValue? (.array items) = some abi ↔
      List.Forall₂ (fun v e => AbiEntry.DenotedBy e v) items abi := by
  have whole : (Value.array items).Sound := .array sound
  have same : IsList AbiEntry.Stands abi (Value.array items).toNode ↔
      Value.Lists AbiEntry.DenotedBy abi (.array items) :=
    whole.isList_iff fun e _ => e.stands_iff
  have tree : (Value.array items).toNode = .array (items.map Value.toNode) := by
    rw [Value.toNode, Value.toItems_eq_map]
  rw [ofValue?_array, ofNode?_eq_some_iff, ← tree, same]
  constructor
  · rintro ⟨_, ⟨⟩, denoted⟩
    exact denoted
  · intro denoted
    exact ⟨items, rfl, denoted⟩

/-- An array is read iff all of its items are legible. -/
theorem exists_ofValue?_array_iff {items : List Value} (sound : ∀ v ∈ items, v.Sound) :
    (∃ abi, ofValue? (.array items) = some abi) ↔ ∀ v ∈ items, AbiEntry.Legible v := by
  simp only [ofValue?_array_eq_some_iff sound, AbiEntry.legible_iff]
  constructor
  · rintro ⟨abi, denoted⟩ v hv
    obtain ⟨e, -, denotes⟩ := exists_of_forall₂_left denoted v hv
    exact ⟨e, denotes⟩
  · exact exists_forall₂

/-- **An array is read iff all of its items are legible**, and then as the entries that they denote,
in their order. -/
theorem ofValue?_array_spec {items : List Value} (sound : ∀ v ∈ items, v.Sound) :
    (∀ abi, ofValue? (.array items) = some abi ↔
      List.Forall₂ (fun v e => AbiEntry.DenotedBy e v) items abi) ∧
    ((∃ abi, ofValue? (.array items) = some abi) ↔ ∀ v ∈ items, AbiEntry.Legible v) ∧
    (ofValue? (.array items) = none ↔ ∃ v ∈ items, ¬ AbiEntry.Legible v) := by
  have readable := exists_ofValue?_array_iff sound
  refine ⟨fun abi => ofValue?_array_eq_some_iff sound, readable, ?_⟩
  rw [Option.eq_none_iff_forall_ne_some, ← not_exists, readable]
  push Not
  rfl

/-- Entries in both forms, and one item that is no entry because a list is no value there. -/
theorem ofValue?_array_spec_mixed :
    ofValue? (.array [
      .object [("anonymous", .bool false), ("name", .string "mint"), ("stateMutability", .null),
        ("inputs", .array [.array [.string "to"], .object [("type", .string "uint256")]]),
        ("type", .object [("function", .null)])],
      .array [.string "event"]]) =
    some [⟨.function, some "mint", none, [⟨"to", ""⟩, ⟨"", "uint256"⟩], []⟩,
      ⟨.other, none, none, [], []⟩] ∧
    ofValue? (.array [.array [.string "event"], .object [("inputs", .null)]]) = none := by
  have both : ∀ v ∈ [Value.array [.string "event"], .object [("inputs", .null)]], v.Sound := by
    simp
  have first : AbiParameter.DenotedBy ⟨"to", ""⟩ (.array [.string "to"]) :=
    ⟨by decide, rfl, rfl⟩
  have second : AbiParameter.DenotedBy ⟨"", "uint256"⟩ (.object [("type", .string "uint256")]) :=
    ⟨by decide, rfl, rfl⟩
  refine ⟨((ofValue?_array_spec (by simp)).1 _).mpr (.cons ?_ (.cons ?_ .nil)),
    (ofValue?_array_spec both).2.2.mpr ⟨.object [("inputs", .null)], by simp, fun legible => ?_⟩⟩
  · exact ⟨by decide, ⟨"function", .inr rfl, by decide⟩, rfl, rfl,
      ⟨_, rfl, .cons first (.cons second .nil)⟩, rfl⟩
  · exact ⟨by decide, ⟨"event", .inl rfl, by decide⟩, rfl, rfl, rfl, rfl⟩
  · obtain ⟨items, list, -⟩ := legible.inputs .null rfl
    exact absurd list (by simp)

end Abi

end EvmRisk
