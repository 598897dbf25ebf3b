import EvmRisk.Assessment
import EvmRisk.Snapshot
import EvmRisk.Proofs.Document.Interface

/-!
# Reading snapshots

`Snapshot.Document` says what the members of an object must be for the object to hold the code, the
interface and the words of an explorer: each under its name, in any order and among any others, left
out or without a value where the part is missing. Whatever text the object is written in, the
snapshot of those parts is read from it (`Snapshot.read?_of_document`).
-/

namespace EvmRisk

open Json (Node Value Carries IsText)

/-! ### What an explorer says -/

namespace Explorer

/-- How a field stands for a truth value: as that value, or left out where it does not hold. -/
inductive Flag : Bool → Option Node → Prop where
  | given (b : Bool) : Flag b (some (.bool b))
  | omitted : Flag false none

theorem Flag.withDefault {b : Bool} {field : Option Node} (h : Flag b field) :
    Node.withDefault false Node.toBool? field = some b := by
  cases h <;> rfl

/-- `members` are those of `e`, in any order and among any others. -/
structure Described (e : Explorer) (members : List (String × Node)) : Prop where
  distinct : Node.Distinct fieldNames members
  isVerified : Flag e.isVerified (members.lookup "isVerified")
  proxy : Flag e.proxy (members.lookup "proxy")
  implementation : Carries IsText e.implementation (members.lookup "implementation")
  proxyAdmin : Carries IsText e.proxyAdmin (members.lookup "proxyAdmin")
  contractCreator : Carries IsText e.contractCreator (members.lookup "contractCreator")
  contractName : Carries IsText e.contractName (members.lookup "contractName")
  sourceCode : Carries IsText e.sourceCode (members.lookup "sourceCode")

/-- The tree `n` is an object with the members of `e`. -/
def Encoded (e : Explorer) (n : Node) : Prop :=
  ∃ members, n = .ofNamed members ∧ e.Described members

/-- **An explorer is read back** from any tree that encodes it. -/
theorem ofNode?_of_encoded {e : Explorer} {n : Node} (h : e.Encoded n) : ofNode? n = some e := by
  obtain ⟨members, rfl, described⟩ := h
  simp only [ofNode?, Node.fields?_ofNamed described.distinct, described.isVerified.withDefault,
    described.proxy.withDefault, described.implementation.optional_text,
    described.proxyAdmin.optional_text, described.contractCreator.optional_text,
    described.contractName.optional_text, described.sourceCode.optional_text,
    Option.bind_eq_bind, Option.bind_some]

end Explorer

/-! ### The parts of a snapshot -/

namespace Snapshot

/-- `members` are those of a snapshot without a market, in any order and among any others. -/
structure Document (code : Option String) (abi : Option Abi) (explorer : Option Explorer)
    (members : List (String × Node)) : Prop where
  distinct : Node.Distinct fieldNames members
  bytecode : Carries IsText code (members.lookup "bytecode")
  abi : Carries Abi.Encoded abi (members.lookup "abi")
  explorer : Carries Explorer.Encoded explorer (members.lookup "explorerInfo")
  market : members.lookup "market" = none

/-- The interface goes through a value, which is missing only if the interface is. -/
theorem exists_abiValue {abi : Option Abi} {field : Option Node} (h : Carries Abi.Encoded abi field)
    (levels : Nat) :
    ∃ v, Node.optional (Value.ofNode? (levels + 4)) field = some v ∧ v.bind Abi.ofValue? = abi := by
  cases h with
  | omitted => exact ⟨none, rfl, rfl⟩
  | null => exact ⟨none, rfl, rfl⟩
  | @present abi n encoded =>
    obtain ⟨v, read, same⟩ := Abi.exists_value_of_encoded encoded levels
    refine ⟨some v, ?_, same⟩
    cases n with
    | null =>
      -- No interface stands as no value, since that is the value it would go through.
      obtain rfl : Value.null = v := Option.some.inj read
      exact absurd same (by simp [Abi.ofValue?])
    | _ => simp only [Node.optional, Node.withDefault, Node.nullable, read, Option.map_some]

/-- The tree of a document is read as the snapshot of its parts. -/
theorem ofNode?_of_document {code : Option String} {abi : Option Abi} {explorer : Option Explorer}
    {members : List (String × Node)} (h : Document code abi explorer members) (levels : Nat) :
    ofNode? (levels + 5) (.ofNamed members) = some (ofParts code abi explorer) := by
  obtain ⟨v, read, same⟩ := exists_abiValue h.abi levels
  have words := h.explorer.optional (fun _ _ => Explorer.ofNode?_of_encoded) rfl
  simp only [ofNode?, Node.fields?_ofNamed h.distinct, h.bytecode.optional_text, words, h.market,
    Nat.add_succ_sub_one, read, same, Option.bind_eq_bind, Option.bind_some]
  rfl

/-- **A document is read as the snapshot of the parts that it holds**, in whatever text it is
written, and so it is assessed like its parts. -/
theorem read?_of_document {code : Option String} {abi : Option Abi} {explorer : Option Explorer}
    {members : List (String × Node)} (document : Document code abi explorer members) {text : String}
    (written : (Node.ofNamed members).Written text.toList) :
    read? text = some (ofParts code abi explorer) ∧
      (read? text).map analyze = some (ofParts code abi explorer).analyze := by
  have read : read? text = some (ofParts code abi explorer) := by
    rw [read?, Node.read?_of_written written, Option.bind_some]
    exact ofNode?_of_document document 122
  exact ⟨read, by rw [read, Option.map_some]⟩

/-- A document on many lines, with a member besides that names half of a character; its interface is
a text with blanks around it. -/
theorem read?_of_document_mint :
    let abi : Abi := [.ofFunction "mint"]
    let members : List (String × Node) := [
      ("note", .string none),
      ("abi", .string (some (String.ofList ([' '] ++ abi.toValue.compact.toList ++ ['\n'])))),
      ("explorerInfo", .null),
      ("bytecode", .string (some "0xFF"))]
    let text := (Node.ofNamed members).pretty
    Document (some "0xFF") (some abi) none members ∧
      (Node.ofNamed members).Written text.toList ∧
      read? text = some (ofParts (some "0xFF") (some abi) none) ∧
      (read? text).map analyze = some (ofParts (some "0xFF") (some abi) none).analyze := by
  intro abi members text
  have document : Document (some "0xFF") (some abi) none members := by
    refine ⟨Node.distinct_of_nodup (by decide), .present rfl, .present ?_, .null, rfl⟩
    exact .text (Node.written_compact abi.toValue.proper_toNode)
      (List.forall_mem_singleton.mpr rfl) (List.forall_mem_singleton.mpr rfl)
  have written : (Node.ofNamed members).Written text.toList := by
    refine Node.written_pretty (.object ?_)
    simp [members, Node.Proper.string, Node.Proper.null]
  exact ⟨document, written, read?_of_document document written⟩

end Snapshot

end EvmRisk
