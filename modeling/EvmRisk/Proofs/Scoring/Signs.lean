import EvmRisk.Proofs.Scoring.Blind

/-!
# What signs are signs of

The ladders of owners and of danger look at lists of signs, and at how long they are. Here the signs
are traced back to what a snapshot holds. Of a table those signatures are found whose markers the
code shows (`Snapshot.Shows`, `Snapshot.detect_eq_filter`). A word is found just when a function of
the interface has a name with it (`Snapshot.HasName`), where the names that are left out, the empty
ones, have no word in them anyway (`Snapshot.hasName_iff_functionNames`).
-/

namespace EvmRisk

/-- `f` has the status `status` and takes `penalty` off the score. -/
def Finding.Weighs (f : Finding) (status : Status) (penalty : UInt8) : Prop :=
  f.status = status ∧ f.penalty = penalty

/-- A finding made with a penalty within the bound has just this status and this penalty. -/
theorem Finding.weighs_make_iff {i : Indicator} {v status : Status} {p penalty : UInt8}
    (h : p ≤ i.maxPenalty) {reason : String} {evidence : Json.Value} :
    (make i v reason p evidence).Weighs status penalty ↔ v = status ∧ p = penalty := by
  rw [Weighs, penalty_make_of_le h]
  rfl

/-- The member of an object under `name`. -/
def Json.Value.member? (name : String) : Json.Value → Option Json.Value
  | .object members => members.lookup name
  | _ => none

/-- The evidence of `f` has `v` under `name`. -/
def Finding.Gives (f : Finding) (name : String) (v : Json.Value) : Prop :=
  f.evidence.member? name = some v

theorem Place.finds_anywhere_iff {word name : String} :
    Place.anywhere.finds word name = true ↔ word.toList <:+: name.toList := Text.occursIn_iff

theorem Place.finds_atStart_iff {word name : String} :
    Place.atStart.finds word name = true ↔ word.toList <+: name.toList := Text.startsWith_iff

/-- `e.functionName?` is the name of `e` if `e` is a function and the name is not empty. -/
theorem AbiEntry.functionName?_eq_some_iff {e : AbiEntry} {name : String} :
    e.functionName? = some name ↔ e.kind = .function ∧ e.name = some name ∧ name ≠ "" := by
  unfold functionName?
  split
  · next kind other =>
    rw [kind, other]
    split_ifs with empty
    · rw [String.isEmpty_iff] at empty
      simp [empty, eq_comm]
    · rw [String.isEmpty_iff] at empty
      simp only [Option.some.injEq, true_and]
      exact ⟨fun h => ⟨h, h ▸ empty⟩, And.left⟩
  · next unnamed =>
    refine ⟨fun h => absurd h (by simp), fun ⟨kind, name, _⟩ => (unnamed _ kind name).elim⟩

namespace Signature

/-- No two signatures of a part of the tables have the same marker. -/
theorem nodup_markers_of_sublist {table : List Signature} (h : table.Sublist all) :
    (table.map marker).Nodup := nodup_markers.sublist (h.map _)

theorem dangers_sublist_all : (dangerousSelectors ++ dangerousOpcodes).Sublist all :=
  (List.sublist_append_right (proxySelectors ++ ownerSelectors) dangerousSelectors).append_right
    dangerousOpcodes

theorem ownerSelectors_sublist_all : ownerSelectors.Sublist all := by
  have front : ownerSelectors.Sublist (proxySelectors ++ ownerSelectors) :=
    List.sublist_append_right _ _
  exact (front.trans (List.sublist_append_left _ _)).trans (List.sublist_append_left _ _)

end Signature

namespace Snapshot

variable {s : Snapshot}

/-! ### Signatures in the code -/

/-- The digits of the marker `m` stand in the code as one piece, at any digit. -/
def Shows (s : Snapshot) (m : Marker) : Prop :=
  ∃ code, s.bytecode = some code ∧ m.hex <:+: code.hex.toList

/-- The search for the digits of `m` succeeds just when `s.Shows m`. -/
theorem any_occursIn_iff {m : Marker} : s.bytecode.any m.occursIn = true ↔ s.Shows m := by
  rw [Option.any_eq_true]
  exact exists_congr fun code => and_congr_right fun _ => Text.occursIn_iff

instance (s : Snapshot) (m : Marker) : Decidable (s.Shows m) :=
  decidable_of_iff _ any_occursIn_iff

/-- How many signatures of a table the code shows. -/
def shown (s : Snapshot) (table : List Signature) : Nat := table.countP fun e => s.Shows e.marker

/-- `s.shown table` depends on the bytecode of `s` only. -/
theorem shown_congr {t : Snapshot} (h : s.bytecode = t.bytecode) (table : List Signature) :
    s.shown table = t.shown table := by
  refine List.countP_congr fun e _ => ?_
  rw [decide_eq_true_iff, decide_eq_true_iff, Shows, Shows, h]

/-- `Signature.detect` keeps the signatures of `table` whose markers `s` shows, in their order. -/
theorem detect_eq_filter (table : List Signature) :
    Signature.detect s.bytecode table = table.filter fun e => s.Shows e.marker := by
  have same (e : Signature) : decide (s.Shows e.marker) = s.bytecode.any e.marker.occursIn := by
    rw [Bool.eq_iff_iff, decide_eq_true_iff, any_occursIn_iff]
  simp only [same]
  cases s.bytecode with
  | none => simp [Signature.detect]
  | some code => rfl

theorem mem_detect_iff_shows {table : List Signature} {e : Signature} :
    e ∈ Signature.detect s.bytecode table ↔ e ∈ table ∧ s.Shows e.marker := by
  rw [detect_eq_filter, List.mem_filter, decide_eq_true_iff]

/-- A blind snapshot has no bytecode, so it shows no marker. -/
theorem not_shows_of_blind (h : s.Blind) (m : Marker) : ¬ s.Shows m := by
  rintro ⟨code, some, -⟩
  exact absurd (h.1.symm.trans some) (by simp)

theorem shown_of_blind (h : s.Blind) (table : List Signature) : s.shown table = 0 :=
  List.countP_eq_zero.mpr fun e _ => by simpa using not_shows_of_blind h e.marker

/-! ### Words in the names of functions -/

/-- Some function of the interface has a name whose lowercase satisfies `p`. -/
def HasName (s : Snapshot) (p : List Char → Prop) : Prop :=
  ∃ abi, s.abi = some abi ∧
    ∃ e ∈ abi, e.kind = .function ∧ ∃ name, e.name = some name ∧ p (Text.lower name.toList)

/-- `s.HasName p` can be checked on `s.functionNames`, if `p` does not hold of the empty name. -/
theorem hasName_iff_functionNames {p : List Char → Prop} (nonempty : ¬ p []) :
    s.HasName p ↔ ∃ name ∈ s.functionNames, p name.toList := by
  unfold functionNames
  constructor
  · rintro ⟨abi, habi, e, mem, kind, name, named, hp⟩
    have solid : name ≠ "" := by
      rintro rfl
      exact nonempty hp
    have found := AbiEntry.functionName?_eq_some_iff.mpr ⟨kind, named, solid⟩
    refine ⟨_, List.mem_map_of_mem (List.mem_filterMap.mpr ⟨e, ?_, found⟩), ?_⟩
    · rwa [habi, Option.getD_some]
    · rwa [String.toList_ofList]
  · rintro ⟨_, lowered, hp⟩
    obtain ⟨name, found, rfl⟩ := List.mem_map.mp lowered
    obtain ⟨e, mem, found⟩ := List.mem_filterMap.mp found
    obtain ⟨kind, named, -⟩ := AbiEntry.functionName?_eq_some_iff.mp found
    rw [String.toList_ofList] at hp
    cases habi : s.abi with
    | none => exact absurd mem (by simp [habi])
    | some abi =>
      rw [habi, Option.getD_some] at mem
      exact ⟨abi, habi, e, mem, kind, name, named, hp⟩

/-- A blind snapshot has no interface with an entry, so it has no function names. -/
theorem not_hasName_of_blind (h : s.Blind) (p : List Char → Prop) : ¬ s.HasName p := by
  rintro ⟨abi, some, e, mem, -⟩
  rcases h.2 with none | empty
  · exact absurd (none.symm.trans some) (by simp)
  · obtain rfl := Option.some.inj (empty.symm.trans some)
    exact absurd mem List.not_mem_nil

/-- `Keyword.hits` is not empty iff some word stands in some name of `s.functionNames`. -/
theorem hits_ne_nil_iff {place : Place} {words : List String} :
    Keyword.hits place words s.functionNames ≠ [] ↔
      ∃ word ∈ words, ∃ name ∈ s.functionNames, place.finds word name = true := by
  constructor
  · intro some
    obtain ⟨hit, mem⟩ := List.exists_mem_of_ne_nil _ some
    obtain ⟨named, listed, found⟩ := Keyword.mem_hits_iff.mp mem
    exact ⟨_, listed, _, named, found⟩
  · rintro ⟨word, listed, name, named, found⟩
    have mem : (⟨name, word⟩ : KeywordHit) ∈ Keyword.hits place words s.functionNames :=
      Keyword.mem_hits_iff.mpr ⟨named, listed, found⟩
    exact List.ne_nil_of_mem mem

end Snapshot

end EvmRisk
