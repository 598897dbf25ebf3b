import EvmRisk.Proofs.Scoring.Agreement
import EvmRisk.Proofs.Text.Hexadecimal
import Mathlib.Data.List.Forall2

/-!
# The same facts in other words

Code may be handed over in any case, with a mark in front and with blanks around it
(`Bytecode.Respelled`), and so may the addresses of an explorer, where an address of zeros, a text
which is none and a blank one say no more than nothing (`Explorer.SameAddress`). The ASCII names of
an interface may come in any case (`AbiEntry.Recased`). The assessment does not tell such snapshots
apart, down to its evidence (`Snapshot.analyze_presentation`).
-/

namespace EvmRisk

open Text (asciiLower)
open Text.Hex (IsDigits Spells)

/-! ### Code -/

/-- Texts of code that are the same, or that spell the same digits, of which there is one at
least. -/
inductive Bytecode.Respelled : (raw raw' : Option String) → Prop
  | same (raw : Option String) : Respelled raw raw
  | digits (ds : List Char) {raw raw' : String} (nonempty : ds ≠ []) (digits : IsDigits ds)
      (h : Spells ds raw.toList) (h' : Spells ds raw'.toList) : Respelled (some raw) (some raw')

/-- Respelled code has the same normal form. -/
theorem Bytecode.Respelled.bind_ofRaw? {raw raw' : Option String} (h : Respelled raw raw') :
    raw.bind ofRaw? = raw'.bind ofRaw? := by
  cases h with
  | same => rfl
  | digits ds nonempty digits h h' =>
    rw [Option.bind_some, Option.bind_some, ofRaw?_of_spells h digits nonempty,
      ofRaw?_of_spells h' digits nonempty]

/-! ### Interfaces -/

namespace AbiEntry

/-- Names of ASCII characters. -/
def IsAscii (name : String) : Prop := ∀ c ∈ name.toList, c.toNat < 0x80

instance (name : String) : Decidable (IsAscii name) :=
  decidable_of_iff (name.toList.all fun c => c.toNat < 0x80) (by simp [IsAscii])

/-- Names that are the same, or that are ASCII and differ in the case of their letters only. -/
inductive SameName : (name name' : Option String) → Prop
  | same (name : Option String) : SameName name name
  | recased {name name' : String} (ascii : IsAscii name) (ascii' : IsAscii name')
      (h : asciiLower name.toList = asciiLower name'.toList) : SameName (some name) (some name')

/-- Entries that differ in the case of their names only. -/
structure Recased (e f : AbiEntry) : Prop where
  name : SameName e.name f.name
  others : f = { e with name := f.name }

/-- The lowercase of a name. -/
def lowerName (name : String) : String := String.ofList (Text.lower name.toList)

theorem functionNames_eq (abi : Abi) :
    abi.functionNames = abi.filterMap fun e => e.functionName?.map lowerName := by
  rw [Abi.functionNames, List.map_filterMap]
  rfl

theorem isEmpty_iff_asciiLower {name : String} :
    name.isEmpty = true ↔ asciiLower name.toList = [] := by
  rw [String.isEmpty_iff, ← String.toList_eq_nil_iff, asciiLower, List.map_eq_nil_iff]

/-- An entry with the same name in another case has the same function name in lowercase. -/
theorem SameName.functionName? {name name' : Option String} (h : SameName name name')
    (e : AbiEntry) : { e with name }.functionName?.map lowerName =
      { e with name := name' }.functionName?.map lowerName := by
  cases h with
  | same => rfl
  | @recased a b ascii ascii' h =>
    -- The lowercase of whole texts is that of single letters here, as no letter is beyond ASCII.
    have lower : lowerName a = lowerName b := by
      rw [lowerName, Text.lower_eq_asciiLower _ ascii, h, ← Text.lower_eq_asciiLower _ ascii',
        lowerName]
    have empty : a.isEmpty = b.isEmpty := by
      rw [Bool.eq_iff_iff, isEmpty_iff_asciiLower, h, ← isEmpty_iff_asciiLower]
    unfold AbiEntry.functionName?
    cases e.kind with
    | other => rfl
    | function =>
      simp only [empty]
      split
      · rfl
      · exact congrArg some lower

theorem Recased.functionName? {e f : AbiEntry} (h : Recased e f) :
    e.functionName?.map lowerName = f.functionName?.map lowerName := by
  rw [h.others]
  exact h.name.functionName? e

/-- Recased interfaces have the same function names. -/
theorem functionNames_eq_of_recased {abi abi' : Abi} (h : List.Forall₂ Recased abi abi') :
    abi.functionNames = abi'.functionNames := by
  rw [functionNames_eq, functionNames_eq]
  induction h with
  | nil => rfl
  | cons first _ ih => rw [List.filterMap_cons, List.filterMap_cons, first.functionName?, ih]

end AbiEntry

/-! ### Addresses -/

namespace Explorer

/-- Fields that name nobody. -/
inductive NamesNobody : (field : Option String) → Prop
  | missing : NamesNobody none
  | blank {raw : String} (h : ∀ c ∈ raw.toList, Text.isBlank c = true) : NamesNobody (some raw)
  /-- The text does not spell forty digits. -/
  | noAddress {raw : String} (h : ¬∃ ds, Spells ds raw.toList ∧ IsDigits ds ∧ ds.length = 40) :
      NamesNobody (some raw)
  | zero {raw : String} (h : Spells (List.replicate 40 '0') raw.toList) : NamesNobody (some raw)

/-- Fields that are the same, that spell the same digits, or that both name nobody. -/
inductive SameAddress : (field field' : Option String) → Prop
  | same (field : Option String) : SameAddress field field
  | respelled (ds : List Char) {raw raw' : String} (digits : IsDigits ds)
      (h : Spells ds raw.toList) (h' : Spells ds raw'.toList) : SameAddress (some raw) (some raw')
  | nobody {field field' : Option String} (h : NamesNobody field) (h' : NamesNobody field') :
      SameAddress field field'

/-- Explorers that differ in the spelling of the two addresses only. -/
structure Readdressed (e f : Explorer) : Prop where
  proxyAdmin : SameAddress e.proxyAdmin f.proxyAdmin
  implementation : SameAddress e.implementation f.implementation
  others : f = { e with proxyAdmin := f.proxyAdmin, implementation := f.implementation }

/-- No address is known from a text that is none. -/
theorem knownAddress?_of_ofText? {raw : String} (h : Address.ofText? raw.toList = none) :
    knownAddress? (some raw) = none := by
  rw [knownAddress?, Option.bind_some, h, Option.filter_none]

/-- A field that names nobody has no known address. -/
theorem NamesNobody.knownAddress? {field : Option String} (h : NamesNobody field) :
    knownAddress? field = none := by
  cases h with
  | missing => rfl
  | @blank raw h =>
    -- Blanks spell no digits at all, which is not twenty bytes.
    exact knownAddress?_of_ofText? (Address.ofText?_of_spells (Text.Hex.spells_nil h) nofun)
  | @noAddress raw h =>
    refine knownAddress?_of_ofText? (Option.eq_none_iff_forall_ne_some.mpr fun a read => ?_)
    obtain ⟨ds, spelling, digits, forty, -⟩ := Address.ofText?_eq_some_iff.mp read
    exact h ⟨ds, spelling, digits, forty⟩
  | @zero raw h =>
    have zero : Address.ofText? raw.toList = some ⟨List.replicate 20 0, rfl⟩ :=
      Address.ofText?_of_spells h (by decide)
    rw [Explorer.knownAddress?, Option.bind_some, zero]
    decide

/-- Respelled fields have the same known address. -/
theorem SameAddress.knownAddress? {field field' : Option String} (h : SameAddress field field') :
    knownAddress? field = knownAddress? field' := by
  cases h with
  | same => rfl
  | respelled ds digits h h' =>
    simp only [Explorer.knownAddress?, Option.bind_some, Address.ofText?_of_spells h digits,
      Address.ofText?_of_spells h' digits]
  | nobody h h' => rw [h.knownAddress?, h'.knownAddress?]

/-- Explorers that are `Readdressed` agree. -/
theorem Readdressed.agree {e f : Explorer} (h : Readdressed e f) : Agree e f where
  isVerified := by rw [h.others]
  proxy := by rw [h.others]
  contractName := by rw [h.others]
  admin? := h.proxyAdmin.knownAddress?
  implementation? := h.implementation.knownAddress?

end Explorer

/-! ### The assessment -/

namespace Snapshot

/-- **How the facts are put does not matter.** The assessment is the same with the digits of the
code and of the addresses spelled in another way, with the names of the functions in another case,
and with addresses that name nobody left out. -/
theorem analyze_presentation {raw raw' : Option String} {abi abi' : Option Abi}
    {explorer explorer' : Option Explorer} (code : Bytecode.Respelled raw raw')
    (names : Option.Rel (List.Forall₂ AbiEntry.Recased) abi abi')
    (addresses : Option.Rel Explorer.Readdressed explorer explorer') (market : Option Market) :
    ({ ofParts raw abi explorer with market } : Snapshot).analyze =
      ({ ofParts raw' abi' explorer' with market } : Snapshot).analyze := by
  refine Agree.analyze_eq ⟨code.bind_ofRaw?, ?abiLength, ?functionNames, ?explorer, rfl⟩
  case abiLength =>
    cases names with
    | none => rfl
    | some entries => exact congrArg some entries.length_eq
  case functionNames =>
    cases names with
    | none => rfl
    | some entries => exact AbiEntry.functionNames_eq_of_recased entries
  case explorer =>
    cases addresses with
    | none => exact .none
    | some said => exact .some said.agree

/-- Code, a name and two addresses that are put in two ways. -/
theorem analyze_presentation_respelled :
    let abi : Abi := [.ofFunction "setTaxFee"]
    let abi' : Abi := [.ofFunction "SETTAXFEE"]
    let e : Explorer := ⟨true, true, some "0x0000000000000000000000000000000000000000",
      some "5FbDB2315678afecb367f032d93F642f64180aa3", none, some "Vault", none⟩
    let e' : Explorer := { e with
      implementation := none
      proxyAdmin := some "\u3000 0X5fbdb2315678AFECB367f032d93f642f64180aa3\n" }
    (Bytecode.Respelled (some "f2FDE38b") (some "\u2003 0Xf2fde38B\t") ∧
        Option.Rel (List.Forall₂ AbiEntry.Recased) (some abi) (some abi') ∧
        Option.Rel Explorer.Readdressed (some e) (some e')) ∧
      (ofParts (some "f2FDE38b") (some abi) (some e)).analyze =
        (ofParts (some "\u2003 0Xf2fde38B\t") (some abi') (some e')).analyze := by
  intro abi abi' e e'
  have code : Bytecode.Respelled (some "f2FDE38b") (some "\u2003 0Xf2fde38B\t") :=
    .digits "f2fde38b".toList (by decide) (by decide) (.of_asciiLower (by decide))
      (.of_asciiLower (by decide))
  have name : AbiEntry.SameName (some "setTaxFee") (some "SETTAXFEE") :=
    .recased (by decide) (by decide) (by decide)
  have names : Option.Rel (List.Forall₂ AbiEntry.Recased) (some abi) (some abi') :=
    .some (.cons ⟨name, rfl⟩ .nil)
  have admin : Explorer.SameAddress e.proxyAdmin e'.proxyAdmin :=
    .respelled "5fbdb2315678afecb367f032d93f642f64180aa3".toList (by decide)
      (.of_asciiLower (by decide)) (.of_asciiLower (by decide))
  have implementation : Explorer.SameAddress e.implementation e'.implementation :=
    .nobody (.zero (.of_asciiLower (by decide))) .missing
  have addresses : Option.Rel Explorer.Readdressed (some e) (some e') :=
    .some ⟨admin, implementation, rfl⟩
  exact ⟨⟨code, names, addresses⟩, analyze_presentation code names addresses none⟩

end Snapshot

end EvmRisk
