import Mathlib.Data.List.Forall2
import Mathlib.Data.List.Perm.Subperm

/-!
# Lists

What `List.eraseDups` leaves, and lists that are read item by item.
-/

namespace EvmRisk

/-! ### Distinct elements -/

/-- `l.eraseDups` has no element twice. -/
theorem nodup_eraseDups {α : Type} [BEq α] [LawfulBEq α] (l : List α) : l.eraseDups.Nodup := by
  generalize hn : l.length = n
  induction n using Nat.strongRecOn generalizing l with
  | ind n ih =>
    cases l with
    | nil => exact List.nodup_nil
    | cons a l =>
      rw [List.eraseDups_cons, List.nodup_cons]
      have shorter : (l.filter fun b => !b == a).length < n := by
        rw [← hn, List.length_cons]
        exact Nat.lt_succ_of_le (List.length_filter_le _ _)
      exact ⟨by simp, ih _ shorter _ rfl⟩

theorem length_eraseDups_le_of_subset {α : Type} [BEq α] [LawfulBEq α] {l m : List α} (h : l ⊆ m) :
    l.eraseDups.length ≤ m.eraseDups.length := by
  refine (List.subperm_of_subset (nodup_eraseDups l) fun a ha => ?_).length_le
  exact List.mem_eraseDups.mpr (h (List.mem_eraseDups.mp ha))

theorem length_eraseDups_le {α : Type} [BEq α] [LawfulBEq α] (l : List α) :
    l.eraseDups.length ≤ l.length :=
  (List.subperm_of_subset (nodup_eraseDups l) fun _ ha => List.mem_eraseDups.mp ha).length_le

/-- The length of `l.eraseDups` depends on the elements of `l` only. -/
theorem length_eraseDups_congr {α : Type} [BEq α] [LawfulBEq α] {l m : List α}
    (h : ∀ a, a ∈ l ↔ a ∈ m) : l.eraseDups.length = m.eraseDups.length :=
  Nat.le_antisymm (length_eraseDups_le_of_subset fun a => (h a).mp)
    (length_eraseDups_le_of_subset fun a => (h a).mpr)

/-- If `l` has no element twice, `l.eraseDups` is as long as `l`. -/
theorem length_eraseDups_of_nodup {α : Type} [BEq α] [LawfulBEq α] {l : List α} (h : l.Nodup) :
    l.eraseDups.length = l.length := by
  have same : l.eraseDups.Perm l :=
    (List.perm_ext_iff_of_nodup (nodup_eraseDups l) h).mpr fun _ => List.mem_eraseDups
  exact same.length_eq

/-! ### Item by item -/

/-- `xs.mapM f` is `some ys` iff `f` gives each element of `xs` the one of `ys` at its place. -/
theorem mapM_eq_some_iff {α β : Type} {f : α → Option β} {xs : List α} {ys : List β} :
    xs.mapM f = some ys ↔ List.Forall₂ (fun x y => f x = some y) xs ys := by
  induction xs generalizing ys with
  | nil =>
    rw [List.mapM_nil, List.forall₂_nil_left_iff]
    exact ⟨fun h => (Option.some.inj h).symm, fun h => h ▸ rfl⟩
  | cons x xs ih =>
    rw [List.mapM_cons, List.forall₂_cons_left_iff]
    constructor
    · intro h
      obtain ⟨y, first, h⟩ := Option.bind_eq_some_iff.mp h
      obtain ⟨zs, others, h⟩ := Option.bind_eq_some_iff.mp h
      exact ⟨y, zs, first, ih.mp others, (Option.some.inj h).symm⟩
    · rintro ⟨y, zs, first, others, rfl⟩
      rw [first, ih.mpr others]
      rfl

/-- If `g` reads back what `f` writes, reading all of `xs.map f` gives `xs`. -/
theorem mapM_map_eq_some {α β : Type} {f : α → β} {g : β → Option α} {xs : List α}
    (h : ∀ x ∈ xs, g (f x) = some x) : (xs.map f).mapM g = some xs := by
  rw [mapM_eq_some_iff, List.forall₂_map_left_iff]
  exact List.forall₂_same.mpr h

variable {α β : Type} {R : α → β → Prop} {xs : List α} {ys : List β}

/-- If every `x ∈ xs` has a partner, there is a list of partners. -/
theorem exists_forall₂ (h : ∀ x ∈ xs, ∃ y, R x y) : ∃ ys, List.Forall₂ R xs ys := by
  induction xs with
  | nil => exact ⟨[], .nil⟩
  | cons x xs ih =>
    obtain ⟨⟨y, first⟩, others⟩ := List.forall_mem_cons.mp h
    obtain ⟨ys, rest⟩ := ih others
    exact ⟨y :: ys, .cons first rest⟩

/-- In a `List.Forall₂` every element of the left list has a partner in the right one. -/
theorem exists_of_forall₂_left (h : List.Forall₂ R xs ys) : ∀ x ∈ xs, ∃ y ∈ ys, R x y := by
  induction h with
  | nil => exact fun x hx => absurd hx List.not_mem_nil
  | @cons x y xs ys first _ ih =>
    intro z hz
    rcases List.mem_cons.mp hz with rfl | hz
    · exact ⟨y, List.mem_cons_self, first⟩
    · obtain ⟨w, mem, related⟩ := ih z hz
      exact ⟨w, List.mem_cons_of_mem _ mem, related⟩

/-- Two relations that agree on the elements of `xs` relate the same lists to `xs`. -/
theorem forall₂_congr_of_mem {S : α → β → Prop} (h : ∀ x ∈ xs, ∀ y, R x y ↔ S x y) :
    List.Forall₂ R xs ys ↔ List.Forall₂ S xs ys := by
  induction xs generalizing ys with
  | nil => simp only [List.forall₂_nil_left_iff]
  | cons x xs ih =>
    obtain ⟨first, others⟩ := List.forall_mem_cons.mp h
    simp only [List.forall₂_cons_left_iff, first, ih others]

end EvmRisk

