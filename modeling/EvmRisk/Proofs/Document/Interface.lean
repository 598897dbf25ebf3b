import EvmRisk.Abi
import EvmRisk.Proofs.Json.Records

/-!
# Reading interfaces

A document may hold an interface as its array, or as a text in which that array is written, with
blanks around it or not (`Abi.Encoded`). Either way the same interface is read
(`Abi.exists_value_of_encoded`). The array goes through a value on its way, where the members of an
entry are put in the order of their names. This does not change what is read, because an entry is
read by the names of its fields (`AbiEntry.Described`).

Beyond the arrays that are written for interfaces, any value that is not a text may stand for one,
inline or laid out in a text, compact or pretty and with any blanks around it
(`Json.Value.LaidOut`). From both forms the same entries are read in the same order, or both hold no
interface (`Abi.ofValue?_string`). A text is unwrapped once only (`Abi.ofValue?_string_of_quoted`).
-/

namespace EvmRisk

open Json (Node Value Carries IsText)

/-! ### Parameters -/

/-- **A parameter is read back** from what is written for it. -/
theorem AbiParameter.ofNode?_toValue (p : AbiParameter) : ofNode? p.toValue.toNode = some p := by
  have fields := Value.fields?_object [("name", .string p.name), ("type", .string p.type)]
    (by simp) fieldNames 0
  rw [ofNode?, toValue, fields]
  rfl

/-- The tree of a list of parameters. -/
def AbiParameter.listNode (ps : List AbiParameter) : Node :=
  .array (ps.map fun p => p.toValue.toNode)

theorem AbiParameter.toList?_listNode (ps : List AbiParameter) :
    (listNode ps).toList? ofNode? = some ps :=
  Node.toList?_array fun p _ => p.ofNode?_toValue

theorem AbiParameter.plain_toValue (p : AbiParameter) : p.toValue.Plain 1 :=
  .object (Value.arranged_of_names (by simp only [List.map]; decide)) (by simp [Value.Plain.string])

/-! ### Entries -/

namespace AbiEntry

/-- `field` has the fields of `e`, all of them written. -/
structure Described (e : AbiEntry) (field : String → Option Node) : Prop where
  kind : field "type" = some (.string (some e.kind.text))
  name : Carries IsText e.name (field "name")
  stateMutability : Carries IsText e.stateMutability (field "stateMutability")
  inputs : field "inputs" = some (AbiParameter.listNode e.inputs)
  outputs : field "outputs" = some (AbiParameter.listNode e.outputs)

/-- An entry is read from the fields that describe it. -/
theorem ofNode?_of_described {e : AbiEntry} {n : Node} {field : String → Option Node}
    (fields : n.fields? fieldNames 0 = some field) (h : e.Described field) :
    ofNode? n = some e := by
  have kind : EntryKind.ofNode? (.string (some e.kind.text)) = some e.kind := by
    cases e.kind <;> rfl
  simp only [ofNode?, fields, h.kind, h.name.optional_text, h.stateMutability.optional_text,
    h.inputs, h.outputs, Node.withDefault, kind, AbiParameter.toList?_listNode,
    Option.bind_eq_bind, Option.bind_some]

/-- The members of an entry in the order of their names. -/
def arrangedMembers (e : AbiEntry) : List (String × Value) :=
  [("inputs", .array (e.inputs.map AbiParameter.toValue)),
   ("name", .ofString? e.name),
   ("outputs", .array (e.outputs.map AbiParameter.toValue)),
   ("stateMutability", .ofString? e.stateMutability),
   ("type", .string e.kind.text)]

/-- **An entry is read back** from what is written for it. -/
theorem ofNode?_toValue (e : AbiEntry) : ofNode? e.toValue.toNode = some e := by
  refine ofNode?_of_described (Value.fields?_object _ (by simp) fieldNames 0) ?_
  exact ⟨rfl, Json.carries_ofString? _, Json.carries_ofString? _,
    congrArg some (Value.toNode_array _ _), congrArg some (Value.toNode_array _ _)⟩

/-- An entry is read back with its members in the order of their names. -/
theorem ofNode?_arrangedMembers (e : AbiEntry) :
    ofNode? (Value.object e.arrangedMembers).toNode = some e := by
  refine ofNode?_of_described (Value.fields?_object _ (by simp [arrangedMembers]) fieldNames 0) ?_
  exact ⟨rfl, Json.carries_ofString? _, Json.carries_ofString? _,
    congrArg some (Value.toNode_array _ _), congrArg some (Value.toNode_array _ _)⟩

/-- The value of what is written for an entry has the members in the order of their names. -/
theorem valueOfNode?_toValue (e : AbiEntry) (levels : Nat) :
    Value.ofNode? (levels + 3) e.toValue.toNode = some (.object e.arrangedMembers) := by
  have text (s : String) : (Value.string s).Plain (levels + 2) := .string s
  have optional (s : Option String) : (Value.ofString? s).Plain (levels + 2) := by
    cases s with
    | none => exact .null
    | some s => exact .string s
  have list (ps : List AbiParameter) :
      (Value.array (ps.map AbiParameter.toValue)).Plain (levels + 2) := by
    refine .array fun v hv => ?_
    obtain ⟨p, -, rfl⟩ := List.mem_map.mp hv
    exact p.plain_toValue.mono (by omega)
  -- The order of declaration is not that of the names.
  have arranged : Value.arrange [("type", .string e.kind.text), ("name", .ofString? e.name),
      ("stateMutability", .ofString? e.stateMutability),
      ("inputs", .array (e.inputs.map AbiParameter.toValue)),
      ("outputs", .array (e.outputs.map AbiParameter.toValue))] = e.arrangedMembers := by
    simp only [Value.arrange, List.foldl, Value.putMember, String.reduceLT, String.reduceEq,
      if_true, if_false, arrangedMembers]
  rw [toValue, Value.ofNode?_object, arranged]
  intro m hm
  simp only [List.mem_cons, List.not_mem_nil, or_false] at hm
  rcases hm with rfl | rfl | rfl | rfl | rfl
  · exact (text _).ofNode?_toNode
  · exact (optional _).ofNode?_toNode
  · exact (optional _).ofNode?_toNode
  · exact (list _).ofNode?_toNode
  · exact (list _).ofNode?_toNode

end AbiEntry

/-! ### Interfaces -/

namespace Abi

/-- How a tree stands for an interface: it is the array of its entries, or a text in which that
array is written, with blanks around it or not. -/
inductive Encoded (abi : Abi) : Node → Prop where
  | inline : Encoded abi abi.toValue.toNode
  | text {before body after : List Char} (written : abi.toValue.toNode.Written body)
    (blanks : ∀ c ∈ before, Text.isBlank c = true) (others : ∀ c ∈ after, Text.isBlank c = true) :
    Encoded abi (.string (some (String.ofList (before ++ body ++ after))))

theorem toNode_toValue (abi : Abi) :
    abi.toValue.toNode = .array (abi.map fun e => e.toValue.toNode) :=
  Value.toNode_array _ _

/-- **An interface is read back** from what is written for it. -/
theorem ofNode?_toValue (abi : Abi) : ofNode? abi.toValue.toNode = some abi := by
  rw [toNode_toValue]
  exact Node.toList?_array fun e _ => e.ofNode?_toValue

/-- A text in which a tree is written is read as that tree. -/
theorem ofText?_of_written {n : Node} {before body after : List Char} (written : n.Written body)
    (blanks : ∀ c ∈ before, Text.isBlank c = true) (others : ∀ c ∈ after, Text.isBlank c = true) :
    ofText? (String.ofList (before ++ body ++ after)) = ofNode? n := by
  have read : Node.read? (Text.trim (before ++ body ++ after)) = some n :=
    Node.read?_of_written (Node.written_trim written blanks others)
  rw [ofText?, String.toList_ofList, read, Option.bind_some]

theorem valueOfNode?_toValue (abi : Abi) (levels : Nat) :
    Value.ofNode? (levels + 4) abi.toValue.toNode =
      some (.array (abi.map fun e => .object e.arrangedMembers)) := by
  rw [toNode_toValue]
  exact Value.ofNode?_array fun e _ => e.valueOfNode?_toValue levels

/-- An interface is read from the array of its entries with their members in order. -/
theorem ofValue?_arranged (abi : Abi) :
    ofValue? (.array (abi.map fun e => .object e.arrangedMembers)) = some abi := by
  rw [ofValue?, Value.toNode_array]
  · exact Node.toList?_array fun e _ => e.ofNode?_arrangedMembers
  · simp
  · simp

/-- **An interface is read back through a value**, however it is encoded. -/
theorem exists_value_of_encoded {abi : Abi} {n : Node} (h : abi.Encoded n) (levels : Nat) :
    ∃ v, Value.ofNode? (levels + 4) n = some v ∧ ofValue? v = some abi := by
  cases h with
  | inline => exact ⟨_, abi.valueOfNode?_toValue levels, abi.ofValue?_arranged⟩
  | text written blanks others =>
    exact ⟨_, rfl, (ofText?_of_written written blanks others).trans abi.ofNode?_toValue⟩

end Abi

/-! ### The two forms of an interface -/

/-- The texts in which a value is laid out. -/
inductive Json.Value.LaidOut (v : Value) : String → Prop where
  | compact {before after : List Char} (blanks : ∀ c ∈ before, Text.isBlank c = true)
    (others : ∀ c ∈ after, Text.isBlank c = true) :
    LaidOut v (String.ofList (before ++ v.compact.toList ++ after))
  | pretty {before after : List Char} (blanks : ∀ c ∈ before, Text.isBlank c = true)
    (others : ∀ c ∈ after, Text.isBlank c = true) :
    LaidOut v (String.ofList (before ++ v.pretty.toList ++ after))

namespace Abi

/-- A text in which a value is laid out is read as the tree of the value. -/
theorem ofText?_of_laidOut {v : Value} {text : String} (h : v.LaidOut text) :
    ofText? text = ofNode? v.toNode := by
  have proper := v.proper_toNode
  cases h with
  | compact blanks others => exact ofText?_of_written (Node.written_compact proper) blanks others
  | pretty blanks others => exact ofText?_of_written (Node.written_pretty proper) blanks others

/-- A value that is no text is read as its tree. -/
theorem ofValue?_eq_ofNode? {v : Value} (inline : ∀ s, v ≠ .string s) :
    ofValue? v = ofNode? v.toNode := by
  cases v with
  | string s => exact absurd rfl (inline s)
  | _ => rfl

/-- **A value and a text in which it is laid out give the same interface**, or both give none. -/
theorem ofValue?_string {v : Value} {text : String} (inline : ∀ s, v ≠ .string s)
    (h : v.LaidOut text) : ofValue? (.string text) = ofValue? v := by
  rw [ofValue?, ofText?_of_laidOut h, ofValue?_eq_ofNode? inline]

/-- An entry by its names, with a member that nobody knows, and an entry in the order of its fields,
between blanks that no document may have around it. -/
theorem ofValue?_string_mixed :
    ofValue? (.string (String.ofList (['\u00a0', '\n'] ++ (Value.array [
      .object [("inputs", .array [.array [.string "to"]]),
        ("notice", .array [.object [("type", .int 1)], .float 0.5]),
        ("type", .object [("function", .null)]), ("name", .string "mint")],
      .array [.string "event", .null]]).pretty.toList ++ ['\u3000']))) =
    some [⟨.function, some "mint", none, [⟨"to", ""⟩], []⟩, ⟨.other, none, none, [], []⟩] :=
  (ofValue?_string (by simp) (.pretty (by simp [Text.isBlank]) (by simp [Text.isBlank]))).trans
    (by rfl)

/-- A text in which a text is laid out gives no interface: it is unwrapped once only. -/
theorem ofValue?_string_of_quoted {s text : String} (h : (Value.string s).LaidOut text) :
    ofValue? (.string text) = none := by
  rw [ofValue?, ofText?_of_laidOut h]
  rfl

end Abi

end EvmRisk
