import EvmRisk.Proofs.Json.Records

/-!
# Records in values

What the fields of a record are can be told from a value without the tree that is written for it:
the value is an object or a short array (`Value.IsRecord`), and a field is the member of that name,
or the item in that place (`Value.field?`). The reader of trees finds the same fields
(`Value.Sound.gives_iff`), and what it makes of a field depends on the value in the same way, be it
a field with a default (`Value.defaulted_iff`), one that may be left empty (`Value.carries_iff`), a
list (`Value.Sound.isList_iff`) or a name (`Value.Sound.isTag_iff`).

All of this is about values as documents have them (`Value.Sound`). A tree keeps neither a double
that is no finite number nor the difference between two members of one name.
-/

namespace EvmRisk.Json

/-- A finite double has a numeral. -/
theorem Numeral.exists_ofFloat?_eq_some {x : Float} {negative : Bool} {m : Nat} {q : Int}
    (finite : Decimal.Binary.ofFloat x = .finite negative m q) : ∃ n, ofFloat? x = some n := by
  unfold ofFloat?
  rw [finite]
  cases m with
  | zero => exact ⟨_, rfl⟩
  | succ m =>
    simp only
    split_ifs
    · exact ⟨_, rfl⟩
    · exact ⟨_, rfl⟩

namespace Value

/-- Values as documents have them: all numbers are finite, and the members of an object have
different names. -/
inductive Sound : Value → Prop where
  | null : Sound .null
  | bool (b : Bool) : Sound (.bool b)
  | int (n : Int) : Sound (.int n)
  | float {x : Float} {negative : Bool} {m : Nat} {q : Int}
    (finite : Decimal.Binary.ofFloat x = .finite negative m q) : Sound (.float x)
  | string (s : String) : Sound (.string s)
  | array {items : List Value} (all : ∀ v ∈ items, Sound v) : Sound (.array items)
  | object {members : List (String × Value)} (nodup : (members.map Prod.fst).Nodup)
    (all : ∀ m ∈ members, Sound m.2) : Sound (.object members)

attribute [simp] Sound.null Sound.bool Sound.int Sound.string

@[simp] theorem sound_array_iff {items : List Value} :
    (array items).Sound ↔ ∀ v ∈ items, v.Sound :=
  ⟨fun | .array all => all, .array⟩

@[simp] theorem sound_object_iff {members : List (String × Value)} :
    (object members).Sound ↔ (members.map Prod.fst).Nodup ∧ ∀ m ∈ members, m.2.Sound :=
  ⟨fun | .object nodup all => ⟨nodup, all⟩, fun ⟨nodup, all⟩ => .object nodup all⟩

/-- Plain values are sound. -/
theorem Plain.sound {levels : Nat} {v : Value} (h : Plain levels v) : v.Sound := by
  induction h with
  | null => exact .null
  | bool b => exact .bool b
  | int => exact .int _
  | string s => exact .string s
  | array _ ih => exact .array ih
  | object arranged _ ih =>
    have nodup := List.pairwise_map.mpr (arranged.imp String.ne_of_lt)
    exact .object nodup ih

/-! ### What kind of value a tree is from -/

theorem toNode_float (x : Float) :
    (float x).toNode = .null ∨ ∃ n, (float x).toNode = .number n := by
  unfold toNode
  split
  · exact Or.inr ⟨_, rfl⟩
  · exact Or.inl rfl

/-- Only a text has the tree of a text. -/
theorem toNode_eq_string_iff {v : Value} {s : String} :
    v.toNode = .string (some s) ↔ v = .string s := by
  cases v with
  | float x => rcases toNode_float x with h | ⟨n, h⟩ <;> simp [h]
  | _ => simp [toNode]

/-- Only an array has the tree of an array. -/
theorem toNode_eq_array_iff {v : Value} {ns : List Node} :
    v.toNode = .array ns ↔ ∃ items, v = .array items ∧ items.map toNode = ns := by
  cases v with
  | float x => rcases toNode_float x with h | ⟨n, h⟩ <;> simp [h]
  | array items => simp [toNode, toItems_eq_map]
  | _ => simp [toNode]

/-- Of the sound values only `null` has the tree `.null`. -/
theorem Sound.toNode_eq_null_iff {v : Value} (h : v.Sound) : v.toNode = .null ↔ v = .null := by
  cases h with
  | float finite =>
    obtain ⟨n, written⟩ := Numeral.exists_ofFloat?_eq_some finite
    simp [toNode, written]
  | _ => simp [toNode]

/-- The tree of `v` is a tag iff `v` is a text, or an object of one member that holds no value. -/
theorem Sound.isTag_iff {v : Value} (h : v.Sound) {name : String} :
    IsTag name v.toNode ↔ v = .string name ∨ v = .object [(name, .null)] := by
  have cases_iff : IsTag name v.toNode ↔
      v.toNode = .string (some name) ∨ v.toNode = .object [(some name, .null)] := by
    constructor
    · intro tag
      generalize v.toNode = n at tag
      cases tag with
      | text => exact Or.inl rfl
      | member => exact Or.inr rfl
    · rintro (same | same) <;> rw [same]
      · exact .text name
      · exact .member name
  have member_iff : v.toNode = .object [(some name, .null)] ↔ v = .object [(name, .null)] := by
    cases h with
    | @float x => rcases toNode_float x with h | ⟨n, h⟩ <;> simp [h]
    | @object members _ all =>
      -- The one member has its value in a tree, which is none only if the value is none.
      rcases members with _ | ⟨⟨other, w⟩, _ | _⟩
      · simp [toNode, toMembers]
      · have value := (all (other, w) List.mem_cons_self).toNode_eq_null_iff
        simp [toNode, toMembers, value]
      · simp [toNode, toMembers]
    | _ => simp [toNode]
  rw [cases_iff, toNode_eq_string_iff, member_iff]

/-! ### Fields -/

/-- The value has the form of a record with the fields `names`: an object, or an array with no more
items than fields. -/
def IsRecord (names : List String) : Value → Prop
  | object _ => True
  | array items => items.length ≤ names.length
  | _ => False

instance (names : List String) : ∀ v : Value, Decidable (v.IsRecord names)
  | object _ => inferInstanceAs (Decidable True)
  | array items => inferInstanceAs (Decidable (items.length ≤ names.length))
  | null => inferInstanceAs (Decidable False)
  | bool _ => inferInstanceAs (Decidable False)
  | int _ => inferInstanceAs (Decidable False)
  | float _ => inferInstanceAs (Decidable False)
  | string _ => inferInstanceAs (Decidable False)

/-- A field of a record: the member of that name, or the item in the place that the name has in the
order of declaration. -/
def field? (names : List String) (name : String) : Value → Option Value
  | object members => members.lookup name
  | array items => items[names.idxOf name]?
  | _ => none

/-- Names paired with nodes give each name the node at its place. -/
theorem lookup_zip {names : List String} {ns : List Node} (short : ns.length ≤ names.length)
    (name : String) : (names.zip ns).lookup name = ns[names.idxOf name]? := by
  induction names generalizing ns with
  | nil =>
    obtain rfl := List.length_eq_zero_iff.mp (Nat.le_zero.mp short)
    rfl
  | cons first names ih =>
    cases ns with
    | nil => rfl
    | cons n ns =>
      by_cases same : name = first
      · subst same
        rw [List.zip_cons_cons, List.lookup_cons_self, List.idxOf_cons_self]
        rfl
      · have before := List.idxOf_cons_ne names (Ne.symm same)
        rw [List.zip_cons_cons, List.lookup_cons, beq_false_of_ne same, before,
          List.getElem?_cons_succ, ih (Nat.le_of_succ_le_succ short)]

/-- **The tree of a value gives the fields that the value has.** -/
theorem Sound.gives_iff {v : Value} (h : v.Sound) {names : List String}
    {field : String → Option Node} : v.toNode.Gives names field ↔
      v.IsRecord names ∧ field = fun name => (v.field? names name).map toNode := by
  rw [← Node.fields?_eq_some_iff]
  cases h with
  | @float x => rcases toNode_float x with h | ⟨n, h⟩ <;> simp [h, Node.fields?, IsRecord]
  | @object members nodup =>
    rw [fields?_object members nodup, Option.some_inj]
    exact ⟨fun same => ⟨trivial, same.symm⟩, fun given => given.2.symm⟩
  | @array items =>
    have fields (short : items.length ≤ names.length) :
        (fun name => (names.zip (items.map toNode)).lookup name) =
          fun name => ((Value.array items).field? names name).map toNode := by
      funext name
      rw [lookup_zip (by simpa using short), List.getElem?_map, field?]
    simp only [toNode, toItems_eq_map, Node.fields?, Nat.zero_le, true_and, List.length_map,
      Option.ite_none_right_eq_some, Option.some_inj, IsRecord]
    constructor
    · rintro ⟨short, rfl⟩
      exact ⟨short, fields short⟩
    · rintro ⟨short, rfl⟩
      exact ⟨short, fields short⟩
  | _ => simp [toNode, Node.fields?, IsRecord]

/-- The fields of a sound value are sound. -/
theorem Sound.field? {v w : Value} (h : v.Sound) {names : List String} {name : String}
    (found : v.field? names name = some w) : w.Sound := by
  cases h with
  | object _ all =>
    obtain ⟨before, after, rfl, -⟩ := List.lookup_eq_some_iff.mp found
    exact all (name, w) (by simp)
  | array all => exact all w (List.mem_of_getElem? found)
  | _ => exact absurd found (by simp [Value.field?])

/-! ### What a field stands for -/

/-- A field that is there means `a`, and one that is missing stands for `default`, which is `a`. -/
def OrDefault {α : Type} (default : α) (means : α → Value → Prop) (a : α) : Option Value → Prop
  | some v => means a v
  | none => a = default

/-- The value `v` is an array whose items mean those of `xs`, in their order. -/
def Lists {α : Type} (means : α → Value → Prop) (xs : List α) (v : Value) : Prop :=
  ∃ items, v = .array items ∧ List.Forall₂ (fun v x => means x v) items xs

variable {α : Type} {stands : α → Node → Prop} {means : α → Value → Prop}

/-- With a default, a field means something iff it is missing or its value means something. -/
theorem exists_orDefault_iff {default : α} {field : Option Value} :
    (∃ a, OrDefault default means a field) ↔ ∀ v ∈ field, ∃ a, means a v := by
  cases field with
  | none => exact ⟨fun _ v hv => absurd hv (by simp), fun _ => ⟨default, rfl⟩⟩
  | some v =>
    constructor
    · rintro mean w ⟨⟩
      exact mean
    · exact fun mean => mean v rfl

/-- A value lists something iff it is an array of values that mean something. -/
theorem exists_lists_iff {v : Value} :
    (∃ xs, Lists means xs v) ↔ ∃ items, v = .array items ∧ ∀ w ∈ items, ∃ x, means x w := by
  constructor
  · rintro ⟨xs, items, rfl, mean⟩
    refine ⟨items, rfl, fun w hw => ?_⟩
    obtain ⟨x, -, means⟩ := exists_of_forall₂_left mean w hw
    exact ⟨x, means⟩
  · rintro ⟨items, rfl, mean⟩
    obtain ⟨xs, means⟩ := exists_forall₂ mean
    exact ⟨xs, items, rfl, means⟩

/-- A field of the tree is `Defaulted` as the field of the value is `OrDefault`. -/
theorem defaulted_iff {default a : α} {field : Option Value}
    (same : ∀ v, field = some v → (stands a v.toNode ↔ means a v)) :
    Defaulted default stands a (field.map toNode) ↔ OrDefault default means a field := by
  cases field with
  | none =>
    constructor
    · rintro ⟨⟩
      rfl
    · rintro rfl
      exact .omitted
  | some v =>
    constructor
    · rintro (_ | stand)
      exact (same v rfl).mp stand
    · intro mean
      exact .given ((same v rfl).mpr mean)

theorem carries_iff {part : Option String} {field : Option Value}
    (sound : ∀ v, field = some v → v.Sound) : Carries IsText part (field.map toNode) ↔
      OrDefault none (fun part v => v = ofString? part) part field := by
  cases field with
  | none =>
    constructor
    · rintro ⟨⟩
      rfl
    · rintro rfl
      exact .omitted
  | some v =>
    have null := (sound v rfl).toNode_eq_null_iff
    constructor
    · intro carried
      generalize tree : (some v).map toNode = n at carried
      cases carried with
      | omitted => exact absurd tree (by simp)
      | null => exact null.mp (Option.some.inj tree)
      | present text => exact toNode_eq_string_iff.mp ((Option.some.inj tree).trans text)
    · intro same
      obtain rfl : v = ofString? part := same
      exact carries_ofString? part

/-- The tree of `v` is a list as `v` is one. -/
theorem Sound.isList_iff {v : Value} (h : v.Sound)
    (same : ∀ x w, w.Sound → (stands x w.toNode ↔ means x w)) {xs : List α} :
    IsList stands xs v.toNode ↔ Lists means xs v := by
  have item {items : List Value} (sound : (Value.array items).Sound) :
      List.Forall₂ (fun n x => stands x n) (items.map toNode) xs ↔
        List.Forall₂ (fun w x => means x w) items xs := by
    rw [List.forall₂_map_left_iff]
    exact forall₂_congr_of_mem fun w hw x => same x w (sound_array_iff.mp sound w hw)
  constructor
  · rintro ⟨ns, tree, stand⟩
    obtain ⟨items, rfl, rfl⟩ := toNode_eq_array_iff.mp tree
    exact ⟨items, rfl, (item h).mp stand⟩
  · rintro ⟨items, rfl, mean⟩
    exact ⟨items.map toNode, toNode_eq_array_iff.mpr ⟨items, rfl, rfl⟩, (item h).mpr mean⟩

end Value

end EvmRisk.Json
