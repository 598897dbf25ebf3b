import EvmRisk.Proofs.Scoring.Signs
import EvmRisk.Proofs.Text.Addresses

/-!
# What makes a proxy

The ladder of proxies, by what the explorer says and what stands in the code
(`ProxyVerdict.weighs_iff_replaceable`). A contract is taken for a proxy because of one of three
signs, and an admin alone is none of them. How grave that is depends on a function that replaces the
code, which is itself a sign, and on an admin who is known: the address of one is known just when
the field of the explorer spells forty digits that are not all zero
(`Explorer.isSome_knownAddress?_iff`). The evidence lists the signs that are there and no others.
-/

namespace EvmRisk

open Signature (proxySelectors upgradeMarkers)
open Text.Hex (IsDigits Spells)

/-! ### Addresses that are known -/

namespace Explorer

/-- `field` spells the forty digits of an address other than zero. -/
def Known (field : Option String) : Prop :=
  ∃ raw ds, field = some raw ∧ Spells ds raw.toList ∧ IsDigits ds ∧ ds.length = 40 ∧
    ∃ d ∈ ds, d ≠ '0'

/-- `field` spells the forty digits of the address `a`, which is not zero. -/
def Names (field : Option String) (a : Address) : Prop :=
  ∃ raw ds, field = some raw ∧ Spells ds raw.toList ∧ IsDigits ds ∧ ds.length = 40 ∧
    Text.Hex.toBytes? ds = some a.bytes ∧ ∃ d ∈ ds, d ≠ '0'

/-- An address is zero iff all its digits are `'0'`. -/
theorem isZero_iff_of_toBytes? {ds : List Char} {a : Address}
    (h : Text.Hex.toBytes? ds = some a.bytes) : a.isZero = true ↔ ∀ d ∈ ds, d = '0' := by
  rw [← Text.Hex.forall_zero_iff_of_toBytes? h]
  simp [Address.isZero]

/-- **The address of a field is the one that its digits denote**: `knownAddress? field` is `some a`
iff `Names field a`. -/
theorem knownAddress?_eq_some_iff {field : Option String} {a : Address} :
    knownAddress? field = some a ↔ Names field a := by
  have notZero {ds : List Char} (read : Text.Hex.toBytes? ds = some a.bytes) :
      (!a.isZero) = true ↔ ∃ d ∈ ds, d ≠ '0' := by
    rw [Bool.not_eq_true', ← Bool.not_eq_true, isZero_iff_of_toBytes? read]
    push Not
    rfl
  rw [knownAddress?, Option.filter_eq_some_iff, Option.bind_eq_some_iff]
  constructor
  · rintro ⟨⟨raw, given, address⟩, solid⟩
    obtain ⟨ds, spelling, digits, forty, read⟩ := Address.ofText?_eq_some_iff.mp address
    exact ⟨raw, ds, given, spelling, digits, forty, read, (notZero read).mp solid⟩
  · rintro ⟨raw, ds, given, spelling, digits, forty, read, solid⟩
    have address : Address.ofText? raw.toList = some a :=
      Address.ofText?_eq_some_iff.mpr ⟨ds, spelling, digits, forty, read⟩
    exact ⟨⟨raw, given, address⟩, (notZero read).mpr solid⟩

/-- **There is an address just when the field spells one other than zero.** -/
theorem isSome_knownAddress?_iff {field : Option String} :
    (knownAddress? field).isSome = true ↔ Known field := by
  rw [Option.isSome_iff_exists]
  constructor
  · rintro ⟨a, known⟩
    obtain ⟨raw, ds, given, spelling, digits, forty, -, solid⟩ := knownAddress?_eq_some_iff.mp known
    exact ⟨raw, ds, given, spelling, digits, forty, solid⟩
  · rintro ⟨raw, ds, given, spelling, digits, forty, solid⟩
    -- Forty digits always denote twenty bytes.
    obtain ⟨bytes, read, twenty⟩ := Text.Hex.exists_toBytes? digits (n := 20) forty
    exact ⟨⟨bytes, twenty⟩,
      knownAddress?_eq_some_iff.mpr ⟨raw, ds, given, spelling, digits, forty, read, solid⟩⟩

/-- How an address stands in evidence: as `0x` and its forty digits with the checksum in their case
if `field` spells one other than zero, and as `null` if not. -/
inductive Shown (field : Option String) : Json.Value → Prop
  | unknown (h : ¬ Known field) : Shown field .null
  | known {a : Address} {ds : List Char} (h : Names field a) (written : a.Checksummed ds) :
    Shown field (.string (String.ofList ('0' :: 'x' :: ds)))

/-- The value made of `knownAddress? field` is the one that `Shown` describes. -/
theorem shown_knownAddress? (field : Option String) :
    Shown field (.ofString? ((knownAddress? field).map Address.text)) := by
  cases address : knownAddress? field with
  | none =>
    refine .unknown fun known => ?_
    rw [← isSome_knownAddress?_iff, address] at known
    cases known
  | some a => exact .known (knownAddress?_eq_some_iff.mp address) a.checksummed_checksummed

end Explorer

/-! ### Signs of a proxy -/

namespace Snapshot

/-- `digits` stand in the code as one piece, at any place. -/
def HasDigits (s : Snapshot) (digits : String) : Prop :=
  ∃ code, s.bytecode = some code ∧ digits.toList <:+: code.hex.toList

/-- The explorer takes the contract for a proxy. -/
def Flagged (s : Snapshot) : Prop := ∃ e, s.explorer = some e ∧ e.proxy = true

/-- The code shows a function that proxies have. -/
def HasProxyFunction (s : Snapshot) : Prop := ∃ e ∈ proxySelectors, s.Shows e.marker

/-- The code has the storage slot of the standard kind of proxies. -/
def HasSlot (s : Snapshot) : Prop := s.HasDigits "360894a13ba1a3210667c828492db98d"

/-- At least one of the three signs of a proxy is there. -/
def SeemsProxy (s : Snapshot) : Prop := s.Flagged ∨ s.HasProxyFunction ∨ s.HasSlot

/-- The names of the three signs. -/
def proxySignNames : List String := ["explorerFlag", "proxySelectors", "eip1967Slot"]

/-- `name` is that of a sign which is there. -/
def Fires (s : Snapshot) (name : String) : Prop :=
  (name = "explorerFlag" ∧ s.Flagged) ∨ (name = "proxySelectors" ∧ s.HasProxyFunction) ∨
    (name = "eip1967Slot" ∧ s.HasSlot)

/-- The code shows one of the two functions that replace it. -/
def Replaceable (s : Snapshot) : Prop := s.HasDigits "3659cfe6" ∨ s.HasDigits "4f1ef286"

/-- The text that the explorer has in a field. -/
def explorerField (s : Snapshot) (field : Explorer → Option String) : Option String :=
  s.explorer.bind field

/-- The explorer names an admin. -/
def HasAdmin (s : Snapshot) : Prop := Explorer.Known (s.explorerField Explorer.proxyAdmin)

/-- Without explorer data no address is known. -/
theorem knownAddress?_explorerField (s : Snapshot) (field : Explorer → Option String) :
    (s.explorer.bind fun e => Explorer.knownAddress? (field e)) =
      Explorer.knownAddress? (s.explorerField field) := by
  unfold explorerField
  cases s.explorer <;> rfl

end Snapshot

namespace ProxySigns

variable {s : Snapshot}

theorem explorerFlag_iff : (ofSnapshot s).explorerFlag = true ↔ s.Flagged :=
  Option.any_eq_true _ _

/-- The list `selectors` is not empty iff `s.HasProxyFunction`. -/
theorem selectors_isEmpty_iff :
    (ofSnapshot s).selectors.isEmpty = false ↔ s.HasProxyFunction := by
  rw [List.isEmpty_eq_false_iff_exists_mem]
  exact exists_congr fun e => Snapshot.mem_detect_iff_shows

theorem implementationSlot_iff : (ofSnapshot s).implementationSlot = true ↔ s.HasSlot := by
  rw [ofSnapshot, Option.any_eq_true]
  exact exists_congr fun code => and_congr_right fun _ => Text.occursIn_iff

theorem isProxy_iff : (ofSnapshot s).isProxy = true ↔ s.SeemsProxy := by
  rw [isProxy, Bool.or_eq_true, Bool.or_eq_true, Bool.not_eq_true', explorerFlag_iff,
    selectors_isEmpty_iff, implementationSlot_iff, Snapshot.SeemsProxy, or_assoc]

/-- `isUpgradeable` holds iff the code has the digits of `upgradeTo` or of `upgradeToAndCall`. -/
theorem isUpgradeable_iff : (ofSnapshot s).isUpgradeable = true ↔ s.Replaceable := by
  have listed : ∀ m ∈ upgradeMarkers, ∃ e ∈ proxySelectors, e.marker = m := by decide
  have two : (∃ m ∈ upgradeMarkers, s.Shows m) ↔ s.Replaceable := by
    simp only [upgradeMarkers, List.exists_mem_cons_iff, List.not_mem_nil, false_and, exists_false,
      or_false]
    rfl
  rw [isUpgradeable, List.any_eq_true, ← two]
  constructor
  · rintro ⟨e, found, upgrades⟩
    obtain ⟨-, shown⟩ := Snapshot.mem_detect_iff_shows.mp found
    exact ⟨e.marker, List.contains_iff_mem.mp upgrades, shown⟩
  · rintro ⟨m, upgrades, shown⟩
    obtain ⟨e, table, rfl⟩ := listed m upgrades
    exact ⟨e, Snapshot.mem_detect_iff_shows.mpr ⟨table, shown⟩, List.contains_iff_mem.mpr upgrades⟩

theorem admin_ofSnapshot (s : Snapshot) :
    (ofSnapshot s).admin = Explorer.knownAddress? (s.explorerField Explorer.proxyAdmin) :=
  s.knownAddress?_explorerField Explorer.proxyAdmin

theorem implementation_ofSnapshot (s : Snapshot) : (ofSnapshot s).implementation =
    Explorer.knownAddress? (s.explorerField Explorer.implementation) :=
  s.knownAddress?_explorerField Explorer.implementation

theorem isSome_admin_iff : (ofSnapshot s).admin.isSome = true ↔ s.HasAdmin := by
  rw [admin_ofSnapshot]
  exact Explorer.isSome_knownAddress?_iff

/-! ### The signs that are listed -/

/-- `fired` has names of `proxySignNames`, in their order and each one once. -/
theorem fired_sublist (p : ProxySigns) : p.fired.Sublist Snapshot.proxySignNames := by
  unfold fired
  split_ifs <;> decide

/-- A name is in `fired` iff its sign is there. -/
theorem mem_fired_iff {name : String} : name ∈ (ofSnapshot s).fired ↔ s.Fires name := by
  have present (b : Bool) (sign : String) :
      name ∈ (if b then [sign] else []) ↔ name = sign ∧ b = true := by cases b <;> simp
  have absent (b : Bool) (sign : String) :
      name ∈ (if b then [] else [sign]) ↔ name = sign ∧ b = false := by cases b <;> simp
  rw [fired, List.mem_append, List.mem_append, present, absent, present, explorerFlag_iff,
    selectors_isEmpty_iff, implementationSlot_iff, or_assoc, Snapshot.Fires]

theorem fired_eq_nil_iff (p : ProxySigns) : p.fired = [] ↔ p.isProxy = false := by
  unfold fired isProxy
  cases p.explorerFlag <;> cases p.selectors.isEmpty <;> cases p.implementationSlot <;> decide

end ProxySigns

namespace ProxyVerdict

variable {s : Snapshot}

/-- The condition on `s` for each verdict on a proxy. -/
def Fits (s : Snapshot) : ProxyVerdict → Prop
  | notProxy => ¬ s.SeemsProxy
  | upgradeableWithAdmin => s.SeemsProxy ∧ s.Replaceable ∧ s.HasAdmin
  | upgradeable => s.SeemsProxy ∧ s.Replaceable ∧ ¬ s.HasAdmin
  | passiveWithAdmin => s.SeemsProxy ∧ ¬ s.Replaceable ∧ s.HasAdmin
  | passive => s.SeemsProxy ∧ ¬ s.Replaceable ∧ ¬ s.HasAdmin

theorem ofSigns_ofSnapshot_eq_iff {v : ProxyVerdict} : ofSigns (.ofSnapshot s) = v ↔ Fits s v := by
  rw [ofSigns_eq_iff]
  cases v <;> simp only [ProxySigns.Reaches, Fits, ProxySigns.isProxy_iff,
    ProxySigns.isUpgradeable_iff, ProxySigns.isSome_admin_iff]

/-- The status and the penalty of `finding s` are those of the verdict, which no bound cuts down. -/
theorem weighs_finding_iff {status : Status} {penalty : UInt8} :
    (finding s).Weighs status penalty ↔
      (ofSigns (.ofSnapshot s)).status = status ∧ (ofSigns (.ofSnapshot s)).penalty = penalty :=
  Finding.weighs_make_iff (ofSigns (.ofSnapshot s)).graded.le_maxPenalty

/-- Status and penalty determine the verdict, except that `upgradeable` and `passiveWithAdmin` have
the same. -/
theorem graded_iff (v : ProxyVerdict) :
    (v.status = .pass ∧ v.penalty = 0 ↔ v = notProxy) ∧
      (v.status = .warn ∧ v.penalty = 15 ↔ v = upgradeableWithAdmin) ∧
      (v.status = .warn ∧ v.penalty = 12 ↔ v = upgradeable ∨ v = passiveWithAdmin) ∧
      (v.status = .warn ∧ v.penalty = 5 ↔ v = passive) := by
  cases v <;> decide

theorem status_eq_pass_iff (v : ProxyVerdict) : v.status = .pass ↔ v = notProxy := by
  cases v <;> decide

end ProxyVerdict

/-- The status and the penalty of `ProxyVerdict.finding s`, for each pair that it can have, and its
evidence. -/
structure Snapshot.ProxyLadder (s : Snapshot) : Prop where
  /-- `Status.pass` and `0` without a sign of a proxy, whatever addresses the explorer names. -/
  pass_iff : (ProxyVerdict.finding s).Weighs .pass 0 ↔ ¬ s.SeemsProxy
  /-- `Status.warn` and `15` for a proxy that can be replaced and has a known admin. -/
  fifteen_iff : (ProxyVerdict.finding s).Weighs .warn 15 ↔
    s.SeemsProxy ∧ s.Replaceable ∧ s.HasAdmin
  /-- `Status.warn` and `12` for a proxy with one of the two. -/
  twelve_iff : (ProxyVerdict.finding s).Weighs .warn 12 ↔
    s.SeemsProxy ∧ (s.Replaceable ∧ ¬ s.HasAdmin ∨ ¬ s.Replaceable ∧ s.HasAdmin)
  /-- `Status.warn` and `5` for a proxy with neither. -/
  five_iff : (ProxyVerdict.finding s).Weighs .warn 5 ↔
    s.SeemsProxy ∧ ¬ s.Replaceable ∧ ¬ s.HasAdmin
  /-- A function that replaces the code is a sign of a proxy. -/
  seemsProxy_of_replaceable : s.Replaceable → s.SeemsProxy
  /-- `"signals"` lists the names of the signs that are there, in the order of `proxySignNames`; it
  is empty iff the status is `Status.pass`. -/
  signals : ∃ names : List String,
    (ProxyVerdict.finding s).Gives "signals" (.array (names.map .string)) ∧
      names.Sublist proxySignNames ∧ (∀ name, name ∈ names ↔ s.Fires name) ∧
      (names = [] ↔ (ProxyVerdict.finding s).status = .pass)
  /-- `"upgradeable"` is `true` iff `s.Replaceable`. -/
  upgradeable : ∃ b, (ProxyVerdict.finding s).Gives "upgradeable" (.bool b) ∧
    (b = true ↔ s.Replaceable)
  /-- `"proxyAdmin"` is the known admin with its checksum, or `null`. -/
  proxyAdmin : ∃ v, (ProxyVerdict.finding s).Gives "proxyAdmin" v ∧
    Explorer.Shown (s.explorerField Explorer.proxyAdmin) v
  /-- `"implementation"` is the known address of the code with its checksum, or `null`. -/
  implementation : ∃ v, (ProxyVerdict.finding s).Gives "implementation" v ∧
    Explorer.Shown (s.explorerField Explorer.implementation) v

/-- **The ladder of proxies**: each status and penalty of `finding s` in terms of `s.SeemsProxy`,
`s.Replaceable` and `s.HasAdmin`, and the evidence that goes with it. -/
theorem ProxyVerdict.weighs_iff_replaceable (s : Snapshot) : s.ProxyLadder := by
  have fits {v : ProxyVerdict} : ofSigns (.ofSnapshot s) = v ↔ Fits s v := ofSigns_ofSnapshot_eq_iff
  obtain ⟨pass, fifteen, twelve, five⟩ := graded_iff (ofSigns (.ofSnapshot s))
  constructor
  case pass_iff => rw [weighs_finding_iff, pass, fits, Fits]
  case fifteen_iff => rw [weighs_finding_iff, fifteen, fits, Fits]
  case twelve_iff => rw [weighs_finding_iff, twelve, fits, fits, Fits, Fits, ← and_or_left]
  case five_iff => rw [weighs_finding_iff, five, fits, Fits]
  case seemsProxy_of_replaceable =>
    intro replaceable
    obtain ⟨e, found, -⟩ := List.any_eq_true.mp (ProxySigns.isUpgradeable_iff.mpr replaceable)
    exact ProxySigns.isProxy_iff.mp (ProxySigns.isProxy_of_mem found)
  case signals =>
    refine ⟨(ProxySigns.ofSnapshot s).fired, rfl, ProxySigns.fired_sublist _,
      fun _ => ProxySigns.mem_fired_iff, ?_⟩
    have status : (finding s).status = (ofSigns (.ofSnapshot s)).status := rfl
    rw [ProxySigns.fired_eq_nil_iff, ← Bool.not_eq_true, ProxySigns.isProxy_iff, status,
      status_eq_pass_iff, fits, Fits]
  case upgradeable => exact ⟨_, rfl, ProxySigns.isUpgradeable_iff⟩
  case proxyAdmin =>
    refine ⟨_, rfl, ?_⟩
    rw [ProxySigns.admin_ofSnapshot]
    exact Explorer.shown_knownAddress? _
  case implementation =>
    refine ⟨_, rfl, ?_⟩
    rw [ProxySigns.implementation_ofSnapshot]
    exact Explorer.shown_knownAddress? _

end EvmRisk
