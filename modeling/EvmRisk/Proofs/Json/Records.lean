import EvmRisk.Json.Record
import EvmRisk.Proofs.Json.Values
import EvmRisk.Proofs.Lists

/-!
# Reading records

An object whose names are all whole gives the fields of a record by those names, in whatever order
its members come and whatever else it has, as long as no field comes twice
(`Node.fields?_ofNamed`). A part of a record that may be missing is left out, or no value, or stands
there (`Carries`).
-/

namespace EvmRisk.Json

/-! ### Objects by the names of their members -/

namespace Node

/-- An object whose names are all whole. -/
def ofNamed (members : List (String × Node)) : Node := object (members.map fun m => (some m.1, m.2))

/-- No name of `names` is the name of two members. -/
def Distinct (names : List String) (members : List (String × Node)) : Prop :=
  ∀ name ∈ names, members.countP (fun m => m.1 == name) ≤ 1

/-- Members of different names are `Distinct`. -/
theorem distinct_of_nodup {names : List String} {members : List (String × Node)}
    (h : (members.map Prod.fst).Nodup) : Distinct names members := by
  intro name _
  have count : members.countP (fun m => m.1 == name) = (members.map Prod.fst).count name := by
    rw [List.count, List.countP_map]
    rfl
  rw [count]
  exact List.nodup_iff_count.mp h name

/-- **The fields of an object are its members by their names**, if none of them comes twice. -/
theorem fields?_ofNamed {names : List String} {members : List (String × Node)}
    (distinct : Distinct names members) (least : Nat) :
    (ofNamed members).fields? names least = some (members.lookup ·) := by
  have whole : (members.map fun m => (some m.1, m.2)).mapM
      (fun m : Member => m.1.map (·, m.2)) = some members :=
    mapM_map_eq_some fun _ _ => rfl
  have once : (names.all fun name => members.countP (·.1 == name) ≤ 1) = true := by
    simpa [Distinct] using distinct
  simp only [fields?, ofNamed, whole, Option.bind_eq_bind, Option.bind_some, once, if_true]

/-- Members that are read back one by one are read back as an object. -/
theorem toMembers?_ofNamed {α : Type} {reader : Node → Option α} {f : α → Node}
    {members : List (String × α)} (h : ∀ m ∈ members, reader (f m.2) = some m.2) :
    (ofNamed (members.map fun m => (m.1, f m.2))).toMembers? reader = some members := by
  simp only [ofNamed, List.map_map, toMembers?]
  refine mapM_map_eq_some fun m hm => ?_
  simp only [Function.comp_apply, Option.bind_eq_bind, Option.bind_some, h m hm]

end Node

/-! ### The trees of values -/

namespace Value

theorem toNode_object (members : List (String × Value)) :
    (object members).toNode = .ofNamed (members.map fun m => (m.1, m.2.toNode)) := by
  rw [toNode, toMembers_eq_map, Node.ofNamed, List.map_map]
  rfl

theorem lookup_map_toNode (members : List (String × Value)) (name : String) :
    (members.map fun m => (m.1, m.2.toNode)).lookup name = (members.lookup name).map toNode := by
  induction members with
  | nil => rfl
  | cons m members ih =>
    rw [List.map_cons, List.lookup_cons, List.lookup_cons, ih]
    cases name == m.1 <;> rfl

/-- **The tree of an object gives the fields that its members hold**, if no name comes twice. -/
theorem fields?_object (members : List (String × Value)) (nodup : (members.map Prod.fst).Nodup)
    (names : List String) (least : Nat) :
    (object members).toNode.fields? names least =
      some fun name => (members.lookup name).map toNode := by
  have distinct : Node.Distinct names (members.map fun m => (m.1, m.2.toNode)) :=
    Node.distinct_of_nodup (by simpa [List.map_map, Function.comp_def] using nodup)
  rw [toNode_object, Node.fields?_ofNamed distinct]
  exact congrArg some (funext fun name => lookup_map_toNode members name)

theorem toNode_array {α : Type} (f : α → Value) (xs : List α) :
    (array (xs.map f)).toNode = .array (xs.map fun x => (f x).toNode) := by
  rw [toNode, toItems_eq_map, List.map_map]
  rfl

end Value

theorem Node.toList?_array {α : Type} {reader : Node → Option α} {f : α → Node} {xs : List α}
    (h : ∀ x ∈ xs, reader (f x) = some x) :
    (Node.array (xs.map f)).toList? reader = some xs :=
  mapM_map_eq_some h

/-! ### Parts that may be missing -/

/-- How a member stands for a part that may be missing: a part that is there stands as `stands`
says, and one that is missing is left out or is no value. -/
inductive Carries {α : Type} (stands : α → Node → Prop) : Option α → Option Node → Prop where
  | omitted : Carries stands none none
  | null : Carries stands none (some .null)
  | present {a : α} {n : Node} (h : stands a n) : Carries stands (some a) (some n)

/-- A part that may be missing is read from the member that carries it. -/
theorem Carries.optional {α : Type} {stands : α → Node → Prop} {reader : Node → Option α}
    {part : Option α} {field : Option Node} (h : Carries stands part field)
    (read : ∀ a n, stands a n → reader n = some a) (empty : reader .null = none) :
    Node.optional reader field = some part := by
  cases h with
  | omitted => rfl
  | null => rfl
  | @present a n stand =>
    have value := read a n stand
    cases n with
    | null => exact absurd value (by simp [empty])
    | _ => simp [Node.optional, Node.withDefault, Node.nullable, value]

/-- The tree `n` is the text `s`. -/
def IsText (s : String) (n : Node) : Prop := n = .string (some s)

theorem Carries.optional_text {part : Option String} {field : Option Node}
    (h : Carries IsText part field) : Node.optional Node.toString? field = some part :=
  h.optional (fun _ _ text => by rw [text]; rfl) rfl

theorem carries_ofString? (part : Option String) :
    Carries IsText part (some (Value.ofString? part).toNode) := by
  cases part with
  | none => exact .null
  | some s => exact .present rfl

/-! ### What can be read as a record -/

/-- The ways to give the fields of a record, all of which may be missing: by their names, none of
which comes twice, or in the order of declaration. -/
inductive Node.Gives (names : List String) : Node → (String → Option Node) → Prop where
  | byName {members : List (String × Node)} (distinct : Distinct names members) :
    Gives names (.ofNamed members) (members.lookup ·)
  | inOrder {items : List Node} (short : items.length ≤ names.length) :
    Gives names (.array items) ((names.zip items).lookup ·)

/-- An object whose names are all whole is `ofNamed`. -/
theorem Node.object_eq_ofNamed {members : List Member} {named : List (String × Node)}
    (h : members.mapM (fun m => m.1.map (·, m.2)) = some named) :
    object members = ofNamed named := by
  have same : members = named.map fun m => (some m.1, m.2) := by
    rw [mapM_eq_some_iff] at h
    induction h with
    | nil => rfl
    | @cons m n _ _ first _ ih =>
      obtain ⟨name, whole, rfl⟩ := Option.map_eq_some_iff.mp first
      rw [List.map_cons, ← ih, ← whole]
  rw [ofNamed, same]

/-- **Fields are read exactly where they are given.** -/
theorem Node.fields?_eq_some_iff {names : List String} {n : Node} {field : String → Option Node} :
    n.fields? names 0 = some field ↔ n.Gives names field := by
  constructor
  · intro h
    unfold fields? at h
    split at h
    · next members =>
      obtain ⟨named, whole, h⟩ := Option.bind_eq_some_iff.mp h
      split_ifs at h with once
      obtain rfl := Option.some.inj h
      rw [object_eq_ofNamed whole]
      exact .byName (by simpa [Distinct] using once)
    · split_ifs at h with short
      obtain rfl := Option.some.inj h
      exact .inOrder short.2
    · exact absurd h (by simp)
  · rintro (distinct | short)
    · exact fields?_ofNamed distinct 0
    · rw [fields?, if_pos ⟨Nat.zero_le _, short⟩]

theorem Node.gives_object_iff {names : List String} {members : List Member}
    {field : String → Option Node} :
    (object members).Gives names field ↔ ∃ named : List (String × Node),
      members = named.map (fun m => (some m.1, m.2)) ∧ Distinct names named ∧
        field = (named.lookup ·) := by
  constructor
  · intro h
    generalize tree : object members = n at h
    cases h with
    | @byName named distinct => exact ⟨named, Node.object.inj tree, distinct, rfl⟩
    | inOrder => exact absurd tree (by simp)
  · rintro ⟨named, rfl, distinct, rfl⟩
    exact .byName distinct

/-- **A member can be replaced** by another one of its name: no other field changes. -/
theorem Node.Gives.replace {names : List String} {key : String} (known : key ∈ names)
    {before after : List Member} {old : Node} {field : String → Option Node}
    (h : (object (before ++ (some key, old) :: after)).Gives names field) (new : Node) :
    field key = some old ∧ (object (before ++ (some key, new) :: after)).Gives names
      (Function.update field key (some new)) := by
  obtain ⟨named, whole, distinct, rfl⟩ := gives_object_iff.mp h
  obtain ⟨b, rest, rfl, rfl, others⟩ := List.map_eq_append_iff.mp whole.symm
  obtain ⟨m, a, rfl, first, rfl⟩ := List.map_eq_cons_iff.mp others
  obtain ⟨name, value⟩ := Prod.mk.inj first
  obtain rfl : m = (key, old) := Prod.ext (Option.some.inj name) value
  -- The name comes once, so not before this member.
  have fresh : b.lookup key = none := by
    have once := distinct key known
    rw [List.countP_append, List.countP_cons_of_pos (by simp)] at once
    have absent : b.countP (fun m => m.1 == key) = 0 := by omega
    rw [List.lookup_eq_none_iff]
    intro m hm
    have other := List.countP_eq_zero.mp absent m hm
    rw [BEq.comm, Bool.not_eq_true] at other
    rw [bne, other]
    rfl
  have found (n : Node) : (b ++ (key, n) :: a).lookup key = some n := by
    rw [List.lookup_append, fresh, List.lookup_cons_self, Option.none_or]
  have others (n : Node) {name : String} (ne : name ≠ key) :
      (b ++ (key, n) :: a).lookup name = (b ++ a).lookup name := by
    rw [List.lookup_append, List.lookup_append, List.lookup_cons, beq_false_of_ne ne]
  refine ⟨found old, gives_object_iff.mpr ⟨b ++ (key, new) :: a, ?_, ?_, ?_⟩⟩
  · rw [List.map_append, List.map_cons]
  · intro name hname
    have once := distinct name hname
    rw [List.countP_append, List.countP_cons] at once ⊢
    exact once
  · funext name
    by_cases same : name = key
    · rw [same, Function.update_self, found]
    · rw [Function.update_of_ne same, others old same, others new same]

/-- The ways to give a part that has a default. -/
inductive Defaulted {α : Type} (default : α) (stands : α → Node → Prop) :
    α → Option Node → Prop where
  | omitted : Defaulted default stands default none
  | given {a : α} {n : Node} (h : stands a n) : Defaulted default stands a (some n)

/-- A field with a default is read exactly from what is `Defaulted`. -/
theorem Node.withDefault_eq_some_iff {α : Type} {default : α} {stands : α → Node → Prop}
    {reader : Node → Option α} (read : ∀ a n, reader n = some a ↔ stands a n) {a : α}
    {field : Option Node} :
    withDefault default reader field = some a ↔ Defaulted default stands a field := by
  constructor
  · intro h
    cases field with
    | none =>
      obtain rfl := Option.some.inj h
      exact .omitted
    | some n => exact .given ((read a n).mp h)
  · rintro (_ | stand)
    · rfl
    · exact (read _ _).mpr stand

/-- A field that may be missing is read exactly from what `Carries` it. -/
theorem Node.optional_eq_some_iff {α : Type} {stands : α → Node → Prop}
    {reader : Node → Option α} (read : ∀ a n, reader n = some a ↔ stands a n)
    (empty : reader .null = none) {part : Option α} {field : Option Node} :
    optional reader field = some part ↔ Carries stands part field := by
  constructor
  · intro h
    cases field with
    | none =>
      obtain rfl := Option.some.inj h
      exact .omitted
    | some n =>
      change nullable reader n = some part at h
      unfold nullable at h
      split at h
      · obtain rfl := Option.some.inj h
        exact .null
      · obtain ⟨a, value, rfl⟩ := Option.map_eq_some_iff.mp h
        exact .present ((read a n).mp value)
  · intro h
    exact h.optional (fun a n => (read a n).mpr) empty

/-- The tree `n` is an array whose items stand for those of `xs`, in their order. -/
def IsList {α : Type} (stands : α → Node → Prop) (xs : List α) (n : Node) : Prop :=
  ∃ items, n = .array items ∧ List.Forall₂ (fun n x => stands x n) items xs

/-- A list is read exactly from the array of what stands for its items. -/
theorem Node.toList?_eq_some_iff {α : Type} {stands : α → Node → Prop}
    {reader : Node → Option α} (read : ∀ a n, reader n = some a ↔ stands a n) {xs : List α}
    {n : Node} : n.toList? reader = some xs ↔ IsList stands xs n := by
  constructor
  · intro h
    unfold toList? at h
    split at h
    · next items => exact ⟨items, rfl, (mapM_eq_some_iff.mp h).imp fun n x => (read x n).mp⟩
    · exact absurd h (by simp)
  · rintro ⟨items, rfl, stand⟩
    exact mapM_eq_some_iff.mpr (stand.imp fun n x => (read x n).mpr)

theorem Node.toString?_eq_some_iff (s : String) (n : Node) :
    n.toString? = some s ↔ IsText s n := by
  unfold toString? IsText
  cases n <;> simp

/-- The ways to give one of several names: as a text, or as the name of a member without a value. -/
inductive IsTag : String → Node → Prop where
  | text (name : String) : IsTag name (.string (some name))
  | member (name : String) : IsTag name (.object [(some name, .null)])

/-- A name is read exactly from a tag. -/
theorem Node.toTag?_eq_some_iff {name : String} {n : Node} :
    n.toTag? = some name ↔ IsTag name n := by
  constructor
  · intro h
    unfold toTag? at h
    split at h
    · obtain rfl := h
      exact .text name
    · obtain rfl := h
      exact .member name
    · exact absurd h (by simp)
  · rintro (_ | _) <;> rfl

end EvmRisk.Json
