import EvmRisk.Proofs.Scoring.Signs
import Mathlib.Data.List.Count
import Mathlib.Data.List.Flatten
import Mathlib.Data.List.Forall2

/-!
# The hits of words in names

`Keyword.hits` goes through the names and, for each of them, through the words. So what it lists are
the pairs of a place in the names and a place in the words at which the word stands in the name, all
of them and each one once, in the order of these places (`Keyword.Enumerates`). A name that is given
twice has its hits twice, and so has a word (`Keyword.count_hits`).

The proof goes through the hits with their places (`Keyword.placed`), since the list of hits itself
does not tell equal names apart.
-/

namespace EvmRisk

/-- `word` stands in `name` at such a place. -/
def Place.Admits : Place → (word name : String) → Prop
  | .anywhere, word, name => word.toList <:+: name.toList
  | .atStart, word, name => word.toList <+: name.toList

/-- `place.finds` decides `place.Admits`. -/
theorem Place.finds_iff {place : Place} {word name : String} :
    place.finds word name = true ↔ place.Admits word name := by
  cases place with
  | anywhere => exact finds_anywhere_iff
  | atStart => exact finds_atStart_iff

theorem Place.admits_anywhere {word name : String} (h : atStart.Admits word name) :
    anywhere.Admits word name := List.IsPrefix.isInfix h

namespace Keyword

/-! ### Places of hits -/

/-- `hits` are those at `places`, which are all pairs of a place in `names` and one in `words` such
that the word stands in the name. -/
structure Enumerates (place : Place) (words names : List String) (places : List (Nat × Nat))
    (hits : List KeywordHit) : Prop where
  /-- The names are gone through first, and for each of them the words. -/
  ordered : places.Pairwise (Prod.Lex (· < ·) (· < ·))
  mem_iff : ∀ i j, (i, j) ∈ places ↔
    ∃ name word, names[i]? = some name ∧ words[j]? = some word ∧ place.Admits word name
  /-- Each hit is the name and the word at its places. -/
  tells : List.Forall₂
    (fun p hit => names[p.1]? = some hit.function ∧ words[p.2]? = some hit.keyword) places hits

/-- The hits with the places of their names and words. -/
def placed (place : Place) (words names : List String) : List ((Nat × Nat) × KeywordHit) :=
  names.zipIdx.flatMap fun name =>
    (words.zipIdx.filter fun word => place.finds word.1 name.1).map fun word =>
      ((name.2, word.2), ⟨name.1, word.1⟩)

variable {place : Place} {words names : List String}

/-- `placed` without the places is `hits`. -/
theorem map_snd_placed : (placed place words names).map Prod.snd = hits place words names := by
  have single (name : String × Nat) :
      ((words.zipIdx.filter fun word => place.finds word.1 name.1).map fun word =>
          (((name.2, word.2), ⟨name.1, word.1⟩) : (Nat × Nat) × KeywordHit)).map Prod.snd =
        (words.filter fun word => place.finds word name.1).map fun word => ⟨name.1, word⟩ := by
    conv_rhs => rw [← List.zipIdx_map_fst 0 words, List.filter_map, List.map_map]
    rw [List.map_map]
    rfl
  rw [placed, List.map_flatMap, hits]
  conv_rhs => rw [← List.zipIdx_map_fst 0 names, List.flatMap_map]
  simp only [single]

/-- A hit is placed at `(i, j)` iff its name is at `i` in `names`, its word at `j` in `words`, and
the word stands in the name. -/
theorem mem_placed_iff {i j : Nat} {hit : KeywordHit} :
    ((i, j), hit) ∈ placed place words names ↔ names[i]? = some hit.function ∧
      words[j]? = some hit.keyword ∧ place.Admits hit.keyword hit.function := by
  constructor
  · intro mem
    obtain ⟨name, named, mem⟩ := List.mem_flatMap.mp mem
    obtain ⟨word, mem, same⟩ := List.mem_map.mp mem
    obtain ⟨listed, found⟩ := List.mem_filter.mp mem
    obtain ⟨⟨rfl, rfl⟩, rfl⟩ : (name.2 = i ∧ word.2 = j) ∧ ⟨name.1, word.1⟩ = hit := by
      simpa using same
    exact ⟨List.mem_zipIdx_iff_getElem?.mp named, List.mem_zipIdx_iff_getElem?.mp listed,
      Place.finds_iff.mp found⟩
  · rintro ⟨named, listed, stands⟩
    have name : (hit.function, i) ∈ names.zipIdx := List.mem_zipIdx_iff_getElem?.mpr named
    have word : (hit.keyword, j) ∈ words.zipIdx := List.mem_zipIdx_iff_getElem?.mpr listed
    exact List.mem_flatMap.mpr ⟨_, name, List.mem_map.mpr
      ⟨_, List.mem_filter.mpr ⟨word, Place.finds_iff.mpr stands⟩, rfl⟩⟩

/-- The places in `l.zipIdx` increase. -/
theorem pairwise_snd_zipIdx {α : Type} (l : List α) :
    l.zipIdx.Pairwise fun a b => a.2 < b.2 := by
  rw [← List.pairwise_map (f := Prod.snd) (R := (· < ·)), List.zipIdx_map_snd]
  exact List.pairwise_lt_range' 1

/-- The places in `placed` increase in the lexicographic order. -/
theorem pairwise_placed :
    (placed place words names).Pairwise fun a b => Prod.Lex (· < ·) (· < ·) a.1 b.1 := by
  rw [placed, List.pairwise_flatMap]
  constructor
  · -- In one name the words come in their order.
    intro name _
    rw [List.pairwise_map]
    refine ((pairwise_snd_zipIdx words).filter _).imp ?_
    intro a b later
    exact Prod.Lex.right _ later
  · refine (pairwise_snd_zipIdx names).imp fun later p hp q hq => Prod.Lex.left _ _ ?_
    obtain ⟨_, -, rfl⟩ := List.mem_map.mp hp
    obtain ⟨_, -, rfl⟩ := List.mem_map.mp hq
    exact later

/-- `hits` enumerates the words in names, at the places that `placed` records. -/
theorem enumerates_hits (place : Place) (words names : List String) :
    Enumerates place words names ((placed place words names).map Prod.fst)
      (hits place words names) where
  ordered := List.pairwise_map.mpr pairwise_placed
  mem_iff i j := by
    rw [List.mem_map]
    constructor
    · rintro ⟨⟨_, hit⟩, mem, rfl⟩
      exact ⟨_, _, mem_placed_iff.mp mem⟩
    · rintro ⟨name, word, stands⟩
      exact ⟨((i, j), ⟨name, word⟩), mem_placed_iff.mpr stands, rfl⟩
  tells := by
    rw [← map_snd_placed, List.forall₂_map_left_iff, List.forall₂_map_right_iff, List.forall₂_same]
    rintro ⟨⟨i, j⟩, hit⟩ mem
    obtain ⟨named, listed, -⟩ := mem_placed_iff.mp mem
    exact ⟨named, listed⟩

/-! ### Names and words that come again -/

/-- `hits` of more names come behind those of the names before. -/
theorem hits_append (place : Place) (words names more : List String) :
    hits place words (names ++ more) = hits place words names ++ hits place words more :=
  List.flatMap_append

/-- The words at the start of the names are some of those in them, in the same order. -/
theorem hits_atStart_sublist (words names : List String) :
    (hits .atStart words names).Sublist (hits .anywhere words names) := by
  refine List.Sublist.flatMap_right names fun name _ => ?_
  refine (List.monotone_filter_right words fun word found => ?_).map _
  exact Place.finds_iff.mpr (Place.admits_anywhere (Place.finds_iff.mp found))

/-- **A hit is listed once for each place of its name and each place of its word.** -/
theorem count_hits {word name : String} (stands : place.Admits word name) :
    (hits place words names).count ⟨name, word⟩ = names.count name * words.count word := by
  have single (other : String) :
      ((words.filter fun w => place.finds w other).map fun w =>
        (⟨other, w⟩ : KeywordHit)).count ⟨name, word⟩ =
          if other = name then words.count word else 0 := by
    split_ifs with same
    · subst same
      have injective : Function.Injective fun w => (⟨other, w⟩ : KeywordHit) :=
        fun _ _ same => congrArg KeywordHit.keyword same
      have kept : (words.filter fun w => place.finds w other).count word = words.count word :=
        List.count_filter (p := fun w => place.finds w other) (Place.finds_iff.mpr stands)
      exact (List.count_map_of_injective _ _ injective word).trans kept
    · refine List.count_eq_zero.mpr fun mem => same ?_
      obtain ⟨_, -, made⟩ := List.mem_map.mp mem
      exact congrArg KeywordHit.function made
  induction names with
  | nil => rw [List.count_nil, Nat.zero_mul]; rfl
  | cons other names ih =>
    show (((words.filter fun w => place.finds w other).map fun w => (⟨other, w⟩ : KeywordHit)) ++
      hits place words names).count ⟨name, word⟩ = _
    rw [List.count_append, single, ih, List.count_cons, Nat.add_mul, Nat.add_comm]
    by_cases same : other = name <;> simp [same]

/-- **The hits are enumerated exactly**: all the places at which a word stands in a name, in the
order of the names and then of the words. So the hits in more names come behind those in the names
before, the hits at the start of names are some of those anywhere in them, and a hit comes again for
each time that its name and its word are given, whatever other words the name has. -/
theorem exact_hits (words names : List String) :
    (∀ place, ∃ places, Enumerates place words names places (hits place words names)) ∧
    (∀ place more, hits place words (names ++ more) =
      hits place words names ++ hits place words more) ∧
    (hits .atStart words names).Sublist (hits .anywhere words names) ∧
    ∀ (place : Place) (name word : String), place.Admits word name →
      (hits place words names).count ⟨name, word⟩ = names.count name * words.count word :=
  ⟨fun place => ⟨_, enumerates_hits place words names⟩,
    fun place more => hits_append place words names more, hits_atStart_sublist words names,
    fun _ _ _ stands => count_hits stands⟩

/-- A name with two words in it, which is given twice. -/
theorem exact_hits_unpause :
    let names := ["unpause", "transfer", "unpause"]
    Place.anywhere.Admits "pause" "unpause" ∧ Place.atStart.Admits "unpause" "unpause" ∧
      (hits .anywhere ownerWords names).count ⟨"unpause", "pause"⟩ = 2 ∧
      (hits .atStart ownerWords names).count ⟨"unpause", "unpause"⟩ = 2 := by
  intro names
  have inside : Place.anywhere.Admits "pause" "unpause" := Place.finds_iff.mp (by decide)
  have start : Place.atStart.Admits "unpause" "unpause" := Place.finds_iff.mp (by decide)
  obtain ⟨-, -, -, counted⟩ := exact_hits ownerWords names
  exact ⟨inside, start, (counted _ _ _ inside).trans (by decide),
    (counted _ _ _ start).trans (by decide)⟩

end Keyword

end EvmRisk
