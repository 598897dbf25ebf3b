import EvmRisk.Assessment
import EvmRisk.Snapshot
import EvmRisk.Proofs.Document.Entries

/-!
# Putting an interface into a document

Whatever stands in the place of the interface, the rest of a document is read as before. In a
document whose interface is no value, any value may be put in its place (`Snapshot.read?_replace`):
the document is still read, its other parts are the same, and its interface is the one that the
value holds. Where the value holds none, it does not even matter that it is there.
-/

namespace EvmRisk

open Json (Node Member Value)

/-! ### Values in the place of no value -/

/-- A text in which `null` stands for a member can have any other value there. -/
theorem Json.Node.Written.exists_null {before after : List Member} {name : Option String}
    {text : List Char} (h : (Node.object (before ++ (name, .null) :: after)).Written text) :
    ∃ front back, text = front ++ ("null".toList ++ back) ∧ ∀ n value, n.Written value →
      (Node.object (before ++ (name, n) :: after)).Written (front ++ (value ++ back)) := by
  obtain ⟨front, _, back, rfl, none, replace⟩ := h.exists_replace
  obtain ⟨b, _, a, rfl, ⟨⟩, blanks, others⟩ := Json.Spaced.single none
  refine ⟨front ++ b, a ++ back, by simp, fun n value written => ?_⟩
  -- The blanks around the word are blanks around what comes in its place.
  have spaced := (blanks.append written).append others
  rw [List.nil_append, List.append_nil] at spaced
  simpa using replace n _ spaced

namespace Snapshot

/-- The field of the interface is read from the value `v` as `Abi.ofValue? v`. -/
theorem optional_value {levels : Nat} {n : Node} {v : Value} (h : Value.ofNode? levels n = some v) :
    ∃ part, Node.optional (Value.ofNode? levels) (some n) = some part ∧
      part.bind Abi.ofValue? = Abi.ofValue? v := by
  cases n with
  | null =>
    obtain rfl := Option.some.inj h
    exact ⟨none, rfl, rfl⟩
  | _ => exact ⟨some v, by simp [Node.optional, Node.withDefault, Node.nullable, h], rfl⟩

/-- **Only the interface depends on the value in its place.** -/
theorem ofNode?_replace {levels : Nat} {before after : List Member} {old : Node} {s : Snapshot}
    (h : ofNode? levels (.object (before ++ (some "abi", old) :: after)) = some s) {n : Node}
    {v : Value} (value : Value.ofNode? (levels - 1) n = some v) :
    ofNode? levels (.object (before ++ (some "abi", n) :: after)) =
      some { s with abi := Abi.ofValue? v } := by
  obtain ⟨field, fields, h⟩ := Option.bind_eq_some_iff.mp h
  obtain ⟨bytecode, hbytecode, h⟩ := Option.bind_eq_some_iff.mp h
  obtain ⟨abi, habi, h⟩ := Option.bind_eq_some_iff.mp h
  obtain ⟨explorer, hexplorer, h⟩ := Option.bind_eq_some_iff.mp h
  obtain ⟨market, hmarket, h⟩ := Option.bind_eq_some_iff.mp h
  obtain rfl := Option.some.inj h
  have known : "abi" ∈ fieldNames := by decide
  obtain ⟨-, replaced⟩ := (Node.fields?_eq_some_iff.mp fields).replace known n
  obtain ⟨part, read, same⟩ := optional_value value
  simp only [ofNode?, Node.fields?_eq_some_iff.mpr replaced, Option.bind_eq_bind, Option.bind_some,
    Function.update_self, Function.update_of_ne, ne_eq, String.reduceEq, not_false_eq_true,
    hbytecode, read, hexplorer, hmarket, same]

/-- With `null` in its place there is no interface. -/
theorem abi_eq_none {levels : Nat} {before after : List Member} {s : Snapshot}
    (h : ofNode? levels (.object (before ++ (some "abi", .null) :: after)) = some s) :
    s.abi = none := by
  have null : Value.ofNode? (levels - 1) .null = some .null := rfl
  have same := h.symm.trans (ofNode?_replace h null)
  exact congrArg Snapshot.abi (Option.some.inj same)

/-- **No value in the place of the interface makes a document unreadable**, and the other parts of
the snapshot do not depend on it. A value that is `Unusable` changes nothing at all. -/
theorem read?_replace {text : String} {before after : List Member} {s : Snapshot}
    (document : Node.read? text.toList = some (.object (before ++ (some "abi", .null) :: after)))
    (accepted : read? text = some s) :
    ∃ front back : String, text = front ++ "null" ++ back ∧ ∀ n : Node, n.Meaningful 100 →
      (∀ value : String, n.Written value.toList →
        (Node.object (before ++ (some "abi", n) :: after)).Written
          (front ++ value ++ back).toList) ∧
      ∃ v, Value.ofNode? 100 n = some v ∧ ∀ text' : String,
        (Node.object (before ++ (some "abi", n) :: after)).Written text'.toList →
          read? text' = some { s with abi := Abi.ofValue? v } ∧
          (Abi.Unusable v → Abi.ofValue? v = none ∧ read? text' = read? text ∧
            (read? text').map analyze = (read? text).map analyze) := by
  obtain ⟨front, back, split, replace⟩ := (Node.read?_eq_some_iff.mp document).exists_null
  have made :
      ofNode? Json.depthBound (.object (before ++ (some "abi", .null) :: after)) = some s := by
    rw [read?, document, Option.bind_some] at accepted
    exact accepted
  refine ⟨String.ofList front, String.ofList back, ?_, fun n meaningful => ⟨?_, ?_⟩⟩
  · rw [← String.toList_inj]
    simpa using split
  · intro value written
    simpa using replace n _ written
  · obtain ⟨v, value⟩ := Node.meaningful_iff.mp meaningful
    refine ⟨v, value, fun text' written => ?_⟩
    -- Inside the document one bracket more is open, which still leaves room enough.
    have deep : Value.ofNode? (Json.depthBound - 1) n = some v :=
      Value.ofNode?_mono (by decide) value
    have read : read? text' = some { s with abi := Abi.ofValue? v } := by
      rw [read?, Node.read?_of_written written, Option.bind_some]
      exact ofNode?_replace made deep
    refine ⟨read, fun unusable => ?_⟩
    have missing : Abi.ofValue? v = none := Abi.ofValue?_eq_none_iff.mpr unusable
    have same : read? text' = read? text := by
      rw [read, accepted, missing, ← abi_eq_none made]
    exact ⟨missing, same, by rw [same]⟩

/-- A document into which an interface is put, and a list with an entry whose name is a number. -/
theorem read?_replace_misnamed :
    let members (abi : Node) : List Member :=
      [(some "note", .string none)] ++
        (some "abi", abi) :: [(some "bytecode", .string (some "0X6080"))]
    let list (name : Node) : Node := .array [.object [(some "name", name)]]
    let text (abi : Node) : String := (Node.object (members abi)).pretty
    let s : Snapshot := { bytecode := some ⟨"6080"⟩ }
    Node.read? (text .null).toList = some (.object (members .null)) ∧
      read? (text .null) = some s ∧
      read? (text (list (.string (some "mint")))) =
        some { s with abi := some [⟨.function, some "mint", none, [], []⟩] } ∧
      read? (text (list (.number (Json.Numeral.ofInt 7)))) = some s := by
  intro members list text s
  have written (abi : Node) (proper : abi.Proper) :
      (Node.object (members abi)).Written (text abi).toList := by
    refine Node.written_pretty (.object ?_)
    simp [members, proper, Node.Proper.string]
  have listed (name : Node) (proper : name.Proper) : (list name).Proper :=
    .array (List.forall_mem_singleton.mpr (.object (List.forall_mem_singleton.mpr proper)))
  have meaningful (name : Node) (single : name.Meaningful 98) : (list name).Meaningful 100 :=
    .array (List.forall_mem_singleton.mpr
      (.object (List.forall_mem_singleton.mpr rfl) (List.forall_mem_singleton.mpr single)))
  have document := Node.read?_of_written (written .null .null)
  have accepted : read? (text .null) = some s := by
    rw [read?, document, Option.bind_some]
    rfl
  obtain ⟨front, back, -, put⟩ := read?_replace document accepted
  refine ⟨document, accepted, ?_, ?_⟩
  · obtain ⟨-, v, value, outcome⟩ := put _ (meaningful (.string (some "mint")) (.string _))
    obtain rfl := Option.some.inj value
    exact (outcome _ (written _ (listed _ (.string _)))).1
  · have seven : Json.NumeralSpelling (Json.Numeral.ofInt 7) (Json.Numeral.ofInt 7).text :=
      Json.numeralSpelling_ofInt 7
    obtain ⟨-, v, value, outcome⟩ := put _ (meaningful (.number (.ofInt 7)) (.number rfl))
    obtain rfl := Option.some.inj value
    have unusable : Abi.Unusable (.array [.object [("name", .int 7)]]) := by
      refine .array List.mem_cons_self fun ⟨e, stands⟩ => ?_
      exact absurd ((AbiEntry.ofNode?_eq_some_iff e _).mpr stands) (by rintro ⟨⟩)
    rw [((outcome _ (written _ (listed _ (.number seven)))).2 unusable).2.1, accepted]

end Snapshot

end EvmRisk
