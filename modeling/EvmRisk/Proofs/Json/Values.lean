import EvmRisk.Json.Value
import EvmRisk.Proofs.Json.Numerals
import EvmRisk.Proofs.Json.Tree
import EvmRisk.Proofs.Lists
import Mathlib.Tactic.SplitIfs

/-!
# Reading values

The texts that are written for a value are read back to its tree (`Value.read?_compact`,
`Value.read?_pretty`); every value will do, also one with doubles. The tree means the value again if
it is `Plain`: its whole numbers fit into 64 bits, the members of its objects come in the order of
their names, it is not nested too deep, and it holds no double. Apart from the doubles this is so of
everything that is read (`plain_iff`). The other way round, a tree has a value if nothing in it is
infinite, half a character or nested too deep (`Node.meaningful_iff`).
-/

namespace EvmRisk.Json.Value

/-- Induction over values, with what holds of every part of an array or an object. -/
@[elab_as_elim, induction_eliminator]
theorem induct {motive : Value → Prop} (null : motive .null) (bool : ∀ b, motive (.bool b))
    (int : ∀ n, motive (.int n)) (float : ∀ x, motive (.float x))
    (string : ∀ s, motive (.string s))
    (array : ∀ items, (∀ item ∈ items, motive item) → motive (.array items))
    (object : ∀ members : List (String × Value), (∀ m ∈ members, motive m.2) →
      motive (.object members)) :
    ∀ v, motive v
  | .null => null
  | .bool b => bool b
  | .int n => int n
  | .float x => float x
  | .string s => string s
  | .array items =>
    array items fun item _ => induct null bool int float string array object item
  | .object members =>
    object members fun m _ => induct null bool int float string array object m.2
termination_by v => sizeOf v
decreasing_by
  · next mem =>
    have := List.sizeOf_lt_of_mem mem
    simp only [Value.array.sizeOf_spec]
    omega
  · next mem =>
    obtain ⟨name, value⟩ := m
    have := List.sizeOf_lt_of_mem mem
    simp only [Value.object.sizeOf_spec, Prod.mk.sizeOf_spec] at this ⊢
    omega

/-! ### The tree of a value -/

theorem toItems_eq_map (vs : List Value) : toItems vs = vs.map toNode := by
  induction vs with
  | nil => rfl
  | cons v vs ih => rw [toItems, ih, List.map_cons]

theorem toMembers_eq_map (ms : List (String × Value)) :
    toMembers ms = ms.map fun m => (some m.1, m.2.toNode) := by
  induction ms with
  | nil => rfl
  | cons m ms ih => rw [toMembers, ih, List.map_cons]

/-- The tree of a value is proper. -/
theorem proper_toNode (v : Value) : v.toNode.Proper := by
  induction v with
  | null => exact .null
  | bool b => exact .bool b
  | int n => exact .number (numeralSpelling_ofInt n)
  | float x =>
    rw [toNode]
    split
    · next n written => exact .number (numeralSpelling_ofFloat? written)
    · exact .null
  | string s => exact .string (some s)
  | array items ih =>
    rw [toNode, toItems_eq_map]
    exact .array fun item h => by
      obtain ⟨v, mem, rfl⟩ := List.mem_map.mp h
      exact ih v mem
  | object members ih =>
    rw [toNode, toMembers_eq_map]
    exact .object fun m h => by
      obtain ⟨m, mem, rfl⟩ := List.mem_map.mp h
      exact ih m mem

/-- **A value on one line is read back.** -/
theorem read?_compact (v : Value) : Node.read? v.compact.toList = some v.toNode :=
  Node.read?_of_written (Node.written_compact v.proper_toNode)

/-- **A value on many lines is read back.** -/
theorem read?_pretty (v : Value) : Node.read? v.pretty.toList = some v.toNode :=
  Node.read?_of_written (Node.written_pretty v.proper_toNode)

/-! ### Members in the order of their names -/

/-- The members come in the order of their names, each name once. -/
def Arranged {α : Type} (members : List (String × α)) : Prop :=
  members.Pairwise fun m n => m.1 < n.1

theorem arranged_of_names {α : Type} {members : List (String × α)}
    (h : (members.map Prod.fst).Pairwise (· < ·)) : Arranged members :=
  List.pairwise_map.mp h

/-- A member whose name is behind all others is put at the end. -/
theorem putMember_of_forall_lt {α : Type} {name : String} {members : List (String × α)}
    (h : ∀ m ∈ members, m.1 < name) (value : α) :
    putMember name value members = members ++ [(name, value)] := by
  induction members with
  | nil => rfl
  | cons m members ih =>
    obtain ⟨first, others⟩ := List.forall_mem_cons.mp h
    have notBefore : ¬ name < m.1 := String.lt_asymm first
    have notSame : ¬ name = m.1 := fun same => String.ne_of_lt first same.symm
    rw [putMember, if_neg notBefore, if_neg notSame, ih others, List.cons_append]

/-- **`arrange` leaves members in the order of their names as they are.** -/
theorem arrange_of_arranged {α : Type} {members : List (String × α)} (h : Arranged members) :
    arrange members = members := by
  -- The members put so far come before all that are still to be put.
  suffices ∀ done, Arranged (done ++ members) →
      members.foldl (fun done m => putMember m.1 m.2 done) done = done ++ members from this [] h
  intro done arranged
  induction members generalizing done with
  | nil => rw [List.foldl_nil, List.append_nil]
  | cons m members ih =>
    have before : ∀ d ∈ done, d.1 < m.1 := fun d hd =>
      (List.pairwise_append.mp arranged).2.2 d hd m List.mem_cons_self
    have moved : done ++ m :: members = (done ++ [m]) ++ members := by simp
    rw [moved] at arranged ⊢
    rw [List.foldl_cons, putMember_of_forall_lt before]
    exact ih (List.pairwise_cons.mp h).2 _ arranged

/-- `putMember` adds no member but the one it puts. -/
theorem mem_putMember {α : Type} {name : String} {value : α} {members : List (String × α)}
    {m : String × α} (h : m ∈ putMember name value members) : m = (name, value) ∨ m ∈ members := by
  induction members with
  | nil => exact Or.inl (List.mem_singleton.mp h)
  | cons n members ih =>
    unfold putMember at h
    split_ifs at h with before same
    · exact List.mem_cons.mp h
    · rcases List.mem_cons.mp h with rfl | h
      · exact Or.inl rfl
      · exact Or.inr (List.mem_cons_of_mem _ h)
    · rcases List.mem_cons.mp h with rfl | h
      · exact Or.inr List.mem_cons_self
      · exact (ih h).imp_right (List.mem_cons_of_mem _)

/-- `putMember` keeps the order of the names. -/
theorem arranged_putMember {α : Type} (name : String) (value : α) {members : List (String × α)}
    (h : Arranged members) : Arranged (putMember name value members) := by
  induction members with
  | nil => exact List.pairwise_singleton _ _
  | cons m members ih =>
    obtain ⟨first, others⟩ := List.pairwise_cons.mp h
    unfold putMember
    split_ifs with before same
    · refine List.pairwise_cons.mpr ⟨fun n hn => ?_, h⟩
      rcases List.mem_cons.mp hn with rfl | hn
      · exact before
      · exact String.lt_trans before (first n hn)
    · rw [same]
      exact List.pairwise_cons.mpr ⟨first, others⟩
    · refine List.pairwise_cons.mpr ⟨fun n hn => ?_, ih others⟩
      rcases mem_putMember hn with rfl | hn
      · exact Std.lt_of_le_of_ne (String.not_lt.mp before) (Ne.symm same)
      · exact first n hn

/-- **`arrange` gives members in the order of their names**, and all of them are members given. -/
theorem arrange_spec {α : Type} (members : List (String × α)) :
    Arranged (arrange members) ∧ ∀ m ∈ arrange members, m ∈ members := by
  -- Whatever has been put so far is in order and stays so.
  suffices ∀ done : List (String × α), Arranged done →
      Arranged (members.foldl (fun done m => putMember m.1 m.2 done) done) ∧
        ∀ m ∈ members.foldl (fun done m => putMember m.1 m.2 done) done, m ∈ done ∨ m ∈ members by
    obtain ⟨arranged, mem⟩ := this [] List.Pairwise.nil
    exact ⟨arranged, fun m hm => (mem m hm).resolve_left List.not_mem_nil⟩
  induction members with
  | nil => exact fun done h => ⟨h, fun m hm => Or.inl hm⟩
  | cons n members ih =>
    intro done h
    obtain ⟨arranged, mem⟩ := ih _ (arranged_putMember n.1 n.2 h)
    refine ⟨arranged, fun m hm => ?_⟩
    rcases mem m hm with put | hm
    · rcases mem_putMember put with rfl | hm
      · exact Or.inr List.mem_cons_self
      · exact Or.inl hm
    · exact Or.inr (List.mem_cons_of_mem _ hm)

theorem perm_putMember {α : Type} {name : String} {members : List (String × α)}
    (h : ∀ m ∈ members, m.1 ≠ name) (value : α) :
    (putMember name value members).Perm ((name, value) :: members) := by
  induction members with
  | nil => exact .refl _
  | cons m members ih =>
    obtain ⟨first, others⟩ := List.forall_mem_cons.mp h
    unfold putMember
    split_ifs with before same
    · exact .refl _
    · exact absurd same.symm first
    · exact ((ih others).cons m).trans (.swap _ _ _)

/-- `arrange` keeps all members of different names. -/
theorem perm_arrange {α : Type} {members : List (String × α)}
    (h : (members.map Prod.fst).Nodup) : (arrange members).Perm members := by
  -- Whatever is still to be put has none of the names put so far.
  suffices ∀ done : List (String × α), ((done ++ members).map Prod.fst).Nodup →
      (members.foldl (fun done m => putMember m.1 m.2 done) done).Perm (done ++ members) from
    this [] h
  intro done distinct
  induction members generalizing done with
  | nil => rw [List.foldl_nil, List.append_nil]
  | cons m members ih =>
    have moved : (done ++ m :: members).Perm (m :: done ++ members) := List.perm_middle
    have distinct' : ((m :: done ++ members).map Prod.fst).Nodup :=
      (moved.map Prod.fst).nodup_iff.mp distinct
    have fresh : ∀ d ∈ done, d.1 ≠ m.1 := by
      intro d hd same
      refine (List.nodup_cons.mp distinct').1 (List.mem_map.mpr ⟨d, ?_, same⟩)
      exact List.mem_append_left _ hd
    have put : (putMember m.1 m.2 done).Perm (m :: done) := perm_putMember fresh m.2
    have whole := put.append_right members
    exact ((ih (List.nodup_cons.mp h).2 _ ((whole.map Prod.fst).nodup_iff.mpr distinct')).trans
      whole).trans moved.symm

/-! ### Values that keep their meaning -/

/-- The values of documents in which at most `levels` brackets are open at once, as far as they
hold no doubles. -/
inductive Plain : Nat → Value → Prop where
  | null {levels : Nat} : Plain levels .null
  | bool {levels : Nat} (b : Bool) : Plain levels (.bool b)
  /-- A whole number of 64 bits. -/
  | int {levels : Nat} {n : Int} (low : -2 ^ 63 ≤ n) (high : n < 2 ^ 64) : Plain levels (.int n)
  | string {levels : Nat} (s : String) : Plain levels (.string s)
  | array {levels : Nat} {items : List Value} (all : ∀ v ∈ items, Plain levels v) :
    Plain (levels + 1) (.array items)
  | object {levels : Nat} {members : List (String × Value)} (arranged : Arranged members)
    (all : ∀ m ∈ members, Plain levels m.2) : Plain (levels + 1) (.object members)

/-- A plain value is plain for more levels. -/
theorem Plain.mono {levels more : Nat} {v : Value} (h : Plain levels v) (le : levels ≤ more) :
    Plain more v := by
  induction h generalizing more with
  | null => exact .null
  | bool b => exact .bool b
  | int low high => exact .int low high
  | string s => exact .string s
  | array _ ih =>
    obtain ⟨more, rfl⟩ := Nat.exists_eq_add_of_lt le
    exact .array fun v hv => ih v hv (Nat.le_add_right _ _)
  | object arranged _ ih =>
    obtain ⟨more, rfl⟩ := Nat.exists_eq_add_of_lt le
    exact .object arranged fun m hm => ih m hm (Nat.le_add_right _ _)

/-- The items of an array are read one by one. -/
theorem ofItems?_eq_some_iff {levels : Nat} {items : List Node} {vs : List Value} :
    ofItems? levels items = some vs ↔
      List.Forall₂ (fun n v => ofNode? levels n = some v) items vs := by
  have eq : ofItems? levels items = items.mapM (ofNode? levels) := by
    induction items with
    | nil => rfl
    | cons item items ih =>
      rw [ofItems?, List.mapM_cons, ih]
      rfl
  rw [eq, mapM_eq_some_iff]

/-- The members of an object are read one by one. -/
theorem ofMembers?_eq_some_iff {levels : Nat} {members : List Member}
    {ms : List (String × Value)} :
    ofMembers? levels members = some ms ↔
      List.Forall₂ (fun n m => n.1 = some m.1 ∧ ofNode? levels n.2 = some m.2) members ms := by
  induction members generalizing ms with
  | nil =>
    rw [List.forall₂_nil_left_iff]
    exact ⟨fun h => (Option.some.inj h).symm, fun h => h ▸ rfl⟩
  | cons n members ih =>
    obtain ⟨name, node⟩ := n
    rw [List.forall₂_cons_left_iff]
    constructor
    · intro h
      obtain ⟨s, named, h⟩ := Option.bind_eq_some_iff.mp h
      obtain ⟨v, first, h⟩ := Option.bind_eq_some_iff.mp h
      obtain ⟨vs, others, h⟩ := Option.bind_eq_some_iff.mp h
      exact ⟨(s, v), vs, ⟨named, first⟩, ih.mp others, (Option.some.inj h).symm⟩
    · rintro ⟨⟨s, v⟩, vs, ⟨⟨⟩, first⟩, others, rfl⟩
      rw [ofMembers?, show ofNode? levels node = some v from first, ih.mpr others]
      rfl

theorem ofItems?_map {α : Type} {levels : Nat} {f : α → Node} {g : α → Value} {xs : List α}
    (h : ∀ x ∈ xs, ofNode? levels (f x) = some (g x)) :
    ofItems? levels (xs.map f) = some (xs.map g) := by
  rw [ofItems?_eq_some_iff, List.forall₂_map_left_iff, List.forall₂_map_right_iff]
  exact List.forall₂_same.mpr h

theorem ofMembers?_toMembers {levels : Nat} {ms : List (String × Value)}
    (h : ∀ m ∈ ms, ofNode? levels m.2.toNode = some m.2) :
    ofMembers? levels (toMembers ms) = some ms := by
  rw [ofMembers?_eq_some_iff, toMembers_eq_map, List.forall₂_map_left_iff]
  exact List.forall₂_same.mpr fun m hm => ⟨rfl, h m hm⟩

/-- An array is read as the array of what its items are read as. -/
theorem ofNode?_array {α : Type} {levels : Nat} {f : α → Node} {g : α → Value} {xs : List α}
    (h : ∀ x ∈ xs, ofNode? levels (f x) = some (g x)) :
    ofNode? (levels + 1) (.array (xs.map f)) = some (.array (xs.map g)) := by
  rw [ofNode?, if_neg (Nat.succ_ne_zero _), Nat.add_sub_cancel, ofItems?_map h]
  rfl

/-- The tree of an object is read as the object with its members in order. -/
theorem ofNode?_object {levels : Nat} {ms : List (String × Value)}
    (h : ∀ m ∈ ms, ofNode? levels m.2.toNode = some m.2) :
    ofNode? (levels + 1) (object ms).toNode = some (object (arrange ms)) := by
  rw [toNode, ofNode?, if_neg (Nat.succ_ne_zero _), Nat.add_sub_cancel, ofMembers?_toMembers h]
  rfl

/-- **The tree of a plain value is read as that value.** -/
theorem Plain.ofNode?_toNode {levels : Nat} {v : Value} (h : Plain levels v) :
    ofNode? levels v.toNode = some v := by
  induction h with
  | null => rfl
  | bool b => rfl
  | int low high =>
    rw [toNode, ofNode?, Numeral.value?_ofInt _ low high]
    rfl
  | string s => rfl
  | array _ ih =>
    rw [toNode, toItems_eq_map, ofNode?_array (g := fun v => v) ih, List.map_id']
  | object arranged _ ih => rw [ofNode?_object ih, arrange_of_arranged arranged]

/-! ### Values that can be read -/

/-- Values without doubles. -/
inductive Exact : Value → Prop where
  | null : Exact .null
  | bool (b : Bool) : Exact (.bool b)
  | int (n : Int) : Exact (.int n)
  | string (s : String) : Exact (.string s)
  | array {items : List Value} (all : ∀ v ∈ items, Exact v) : Exact (.array items)
  | object {members : List (String × Value)} (all : ∀ m ∈ members, Exact m.2) :
    Exact (.object members)

theorem Plain.exact {levels : Nat} {v : Value} (h : Plain levels v) : v.Exact := by
  induction h with
  | null => exact .null
  | bool b => exact .bool b
  | int => exact .int _
  | string s => exact .string s
  | array _ ih => exact .array ih
  | object _ _ ih => exact .object ih

/-- A value without doubles that is read from a tree is plain. -/
theorem Exact.plain_of_ofNode? {v : Value} (exact : v.Exact) {levels : Nat} {n : Node}
    (h : ofNode? levels n = some v) : Plain levels v := by
  induction n generalizing levels v with
  | null =>
    obtain rfl := Option.some.inj h
    exact .null
  | bool b =>
    obtain rfl := Option.some.inj h
    exact .bool b
  | number n =>
    obtain ⟨k, value, rfl⟩ := Option.map_eq_some_iff.mp h
    cases k with
    | int k =>
      obtain ⟨low, high⟩ := Numeral.bounds_of_value? value
      exact .int low high
    | float x => cases exact
  | string s =>
    obtain ⟨t, -, rfl⟩ := Option.map_eq_some_iff.mp h
    exact .string t
  | array items ih =>
    rw [ofNode?] at h
    cases levels with
    | zero => exact absurd h (by simp)
    | succ levels =>
      obtain ⟨vs, read, rfl⟩ := Option.map_eq_some_iff.mp h
      cases exact with
      | array all =>
        refine .array fun v hv => ?_
        obtain ⟨item, mem, read⟩ :=
          exists_of_forall₂_left (ofItems?_eq_some_iff.mp read).flip v hv
        exact ih item mem (all v hv) read
  | object members ih =>
    rw [ofNode?] at h
    cases levels with
    | zero => exact absurd h (by simp)
    | succ levels =>
      obtain ⟨ms, read, rfl⟩ := Option.map_eq_some_iff.mp h
      obtain ⟨arranged, mem⟩ := arrange_spec ms
      cases exact with
      | object all =>
        refine .object arranged fun m hm => ?_
        obtain ⟨n, mem, -, read⟩ :=
          exists_of_forall₂_left (ofMembers?_eq_some_iff.mp read).flip m (mem m hm)
        exact ih n mem (all m hm) read

/-- **The plain values are those without doubles that can be read.** -/
theorem plain_iff {levels : Nat} {v : Value} :
    v.Plain levels ↔ v.Exact ∧ ∃ n, ofNode? levels n = some v :=
  ⟨fun h => ⟨h.exact, v.toNode, h.ofNode?_toNode⟩, fun ⟨exact, _, h⟩ => exact.plain_of_ofNode? h⟩

/-! ### Trees that mean something -/

/-- A tree that is read as a value is read as this value for more levels. -/
theorem ofNode?_mono {levels more : Nat} {n : Node} {v : Value} (le : levels ≤ more)
    (h : ofNode? levels n = some v) : ofNode? more n = some v := by
  induction n generalizing levels more v with
  | null => exact h
  | bool b => exact h
  | number n => exact h
  | string s => exact h
  | array items ih =>
    rw [ofNode?] at h ⊢
    split_ifs at h with none
    obtain ⟨vs, read, rfl⟩ := Option.map_eq_some_iff.mp h
    have items' : ofItems? (more - 1) items = some vs := by
      rw [ofItems?_eq_some_iff] at read ⊢
      have both := (List.forall₂_and_left _ _).mpr ⟨ih, read⟩
      exact both.imp fun item v ⟨same, read⟩ => same (by omega) read
    rw [if_neg (by omega), items', Option.map_some]
  | object members ih =>
    rw [ofNode?] at h ⊢
    split_ifs at h with none
    obtain ⟨ms, read, rfl⟩ := Option.map_eq_some_iff.mp h
    have members' : ofMembers? (more - 1) members = some ms := by
      rw [ofMembers?_eq_some_iff] at read ⊢
      have both := (List.forall₂_and_left _ _).mpr ⟨ih, read⟩
      exact both.imp fun m w ⟨same, named, read⟩ => ⟨named, same (by omega) read⟩
    rw [if_neg (by omega), members', Option.map_some]

end EvmRisk.Json.Value

namespace EvmRisk.Json.Node

/-- Trees with finite numbers, whole texts and whole names, in which at most `levels` brackets are
open at once. -/
inductive Meaningful : Nat → Node → Prop where
  | null {levels : Nat} : Meaningful levels .null
  | bool {levels : Nat} (b : Bool) : Meaningful levels (.bool b)
  | number {levels : Nat} {n : Numeral} (finite : n.value?.isSome) : Meaningful levels (.number n)
  | string {levels : Nat} (s : String) : Meaningful levels (.string (some s))
  | array {levels : Nat} {items : List Node} (all : ∀ item ∈ items, Meaningful levels item) :
    Meaningful (levels + 1) (.array items)
  | object {levels : Nat} {members : List Member} (whole : ∀ m ∈ members, m.1.isSome)
    (all : ∀ m ∈ members, Meaningful levels m.2) : Meaningful (levels + 1) (.object members)

/-- **The meaningful trees are those that have a value.** -/
theorem meaningful_iff {levels : Nat} {n : Node} :
    n.Meaningful levels ↔ ∃ v, Value.ofNode? levels n = some v := by
  constructor
  · intro h
    induction h with
    | null => exact ⟨_, rfl⟩
    | bool b => exact ⟨_, rfl⟩
    | number finite =>
      obtain ⟨k, value⟩ := Option.isSome_iff_exists.mp finite
      exact ⟨.ofNumber k, by rw [Value.ofNode?, value, Option.map_some]⟩
    | string s => exact ⟨_, rfl⟩
    | array _ ih =>
      obtain ⟨vs, read⟩ := exists_forall₂ ih
      refine ⟨.array vs, ?_⟩
      rw [Value.ofNode?, if_neg (Nat.succ_ne_zero _), Nat.add_sub_cancel,
        Value.ofItems?_eq_some_iff.mpr read, Option.map_some]
    | @object levels members whole _ ih =>
      have parts : ∀ m ∈ members, ∃ w : String × Value,
          m.1 = some w.1 ∧ Value.ofNode? levels m.2 = some w.2 := by
        intro m hm
        obtain ⟨name, named⟩ := Option.isSome_iff_exists.mp (whole m hm)
        obtain ⟨v, read⟩ := ih m hm
        exact ⟨(name, v), named, read⟩
      obtain ⟨ms, read⟩ := exists_forall₂ parts
      refine ⟨.object (Value.arrange ms), ?_⟩
      rw [Value.ofNode?, if_neg (Nat.succ_ne_zero _), Nat.add_sub_cancel,
        Value.ofMembers?_eq_some_iff.mpr read, Option.map_some]
  · rintro ⟨v, h⟩
    induction n generalizing levels v with
    | null => exact .null
    | bool b => exact .bool b
    | number n =>
      obtain ⟨k, value, -⟩ := Option.map_eq_some_iff.mp h
      exact .number (Option.isSome_of_eq_some value)
    | string s =>
      obtain ⟨t, rfl, -⟩ := Option.map_eq_some_iff.mp h
      exact .string t
    | array items ih =>
      rw [Value.ofNode?] at h
      cases levels with
      | zero => exact absurd h (by simp)
      | succ levels =>
        obtain ⟨vs, read, -⟩ := Option.map_eq_some_iff.mp h
        refine .array fun item hi => ?_
        obtain ⟨w, -, read⟩ := exists_of_forall₂_left (Value.ofItems?_eq_some_iff.mp read) item hi
        exact ih item hi w read
    | object members ih =>
      rw [Value.ofNode?] at h
      cases levels with
      | zero => exact absurd h (by simp)
      | succ levels =>
        obtain ⟨ms, read, -⟩ := Option.map_eq_some_iff.mp h
        have parts := exists_of_forall₂_left (Value.ofMembers?_eq_some_iff.mp read)
        refine .object (fun m hm => ?_) fun m hm => ?_
        · obtain ⟨w, -, named, -⟩ := parts m hm
          exact Option.isSome_of_eq_some named
        · obtain ⟨w, -, -, read⟩ := parts m hm
          exact ih m hm w.2 read

end EvmRisk.Json.Node
