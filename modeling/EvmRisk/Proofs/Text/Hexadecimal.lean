import EvmRisk.Address
import EvmRisk.Signature
import EvmRisk.Proofs.Text.Blanks

/-!
# How digits may be written

Digits of base sixteen may be written in any case, with a mark in front or without, and with blanks
around them (`Text.Hex.Spells`). Both readers of such texts see the digits only: code is what they
are in small letters (`Bytecode.ofRaw?_of_spells`), and an address is the twenty bytes that forty of
them denote, where whatever does not spell forty digits is none (`Address.ofText?_eq_some_iff`).

Taking the text apart is unambiguous because no digit is a blank and no digit is the letter of a
mark.
-/

namespace EvmRisk

namespace Text

/-! ### Characters of ASCII -/

/-- A property of all ASCII characters can be checked on the `0x80` of them. -/
theorem ascii_induction {p : Char → Prop} (h : ∀ n : Fin 0x80, p (Char.ofNat n)) {c : Char}
    (hc : c.toNat < 0x80) : p c := by
  have := h ⟨c.toNat, hc⟩
  rwa [Char.ofNat_toNat] at this

theorem toLower_of_not_ascii {c : Char} (hc : 0x80 ≤ c.toNat) : c.toLower = c := by
  have notCapital : ¬(c.val ≥ 'A'.val ∧ c.val ≤ 'Z'.val) := by
    rintro ⟨-, le⟩
    have small : c.toNat ≤ 'Z'.toNat := le
    exact absurd (Nat.le_trans hc small) (by decide)
  exact dif_neg notCapital

namespace Hex

/-! ### Digits -/

/-- Digits of base sixteen, in any case. -/
def IsDigits (cs : List Char) : Prop := ∀ c ∈ cs, (digitValue? c).isSome = true

instance (cs : List Char) : Decidable (IsDigits cs) :=
  decidable_of_iff (cs.all fun c => (digitValue? c).isSome) List.all_eq_true

/-- Digits are ASCII characters. -/
theorem ascii_of_digit {c : Char} (h : (digitValue? c).isSome = true) : c.toNat < 0x80 := by
  by_contra large
  have above : ∀ d : Char, d.toNat < 0x80 → ¬c ≤ d := fun d hd hc => by
    have : c.toNat ≤ d.toNat := hc
    omega
  have none : digitValue? c = none := by
    simp [digitValue?, above '9' (by decide), above 'f' (by decide), above 'F' (by decide)]
  simp [none] at h

/-- A digit has the same value in either case. -/
theorem digitValue?_toLower (c : Char) : digitValue? c.toLower = digitValue? c := by
  by_cases hc : c.toNat < 0x80
  · exact ascii_induction (p := fun c => digitValue? c.toLower = digitValue? c) (by decide) hc
  · rw [toLower_of_not_ascii (Nat.le_of_not_lt hc)]

theorem isBlank_of_digit {c : Char} (h : (digitValue? c).isSome = true) : isBlank c = false :=
  ascii_induction (p := fun c => (digitValue? c).isSome = true → isBlank c = false) (by decide)
    (ascii_of_digit h) h

theorem digitValue?_eq_of_asciiLower {c d : Char} (h : c.toLower = d.toLower) :
    digitValue? c = digitValue? d := by
  rw [← digitValue?_toLower c, h, digitValue?_toLower]

theorem IsDigits.of_asciiLower_eq {ds body : List Char} (hd : IsDigits ds)
    (h : asciiLower body = asciiLower ds) : IsDigits body := by
  intro c hc
  have small : c.toLower ∈ asciiLower ds := h ▸ List.mem_map_of_mem hc
  obtain ⟨d, hd', same⟩ := List.mem_map.mp small
  rw [digitValue?_eq_of_asciiLower same.symm]
  exact hd d hd'

/-- `toBytes?` does not depend on the case of the digits. -/
theorem toBytes?_asciiLower (cs : List Char) : toBytes? (asciiLower cs) = toBytes? cs := by
  fun_induction toBytes? cs with
  | case1 => rfl
  | case2 => rfl
  | case3 high low rest ih =>
    show toBytes? (high.toLower :: low.toLower :: asciiLower rest) = _
    rw [toBytes?, digitValue?_toLower, digitValue?_toLower, ih]

/-- `toBytes?` reads digits only, two for each byte. -/
theorem isDigits_of_toBytes? {cs : List Char} {bs : List UInt8} (h : toBytes? cs = some bs) :
    IsDigits cs ∧ cs.length = 2 * bs.length := by
  fun_induction toBytes? cs generalizing bs with
  | case1 =>
    cases h
    exact ⟨nofun, rfl⟩
  | case2 => cases h
  | case3 high low rest ih =>
    obtain ⟨h₁, high', h⟩ := Option.bind_eq_some_iff.mp h
    obtain ⟨l₁, low', h⟩ := Option.bind_eq_some_iff.mp h
    obtain ⟨bs, rest', h⟩ := Option.bind_eq_some_iff.mp h
    cases h
    obtain ⟨digits, length⟩ := ih rest'
    have two : (digitValue? high).isSome = true ∧ (digitValue? low).isSome = true := by
      simp [high', low']
    refine ⟨?_, by simp [length, Nat.mul_succ]⟩
    exact List.forall_mem_cons.mpr ⟨two.1, List.forall_mem_cons.mpr ⟨two.2, digits⟩⟩

/-- Digits, two for each of `n` bytes, are read by `toBytes?`. -/
theorem exists_toBytes? {cs : List Char} {n : Nat} (h : IsDigits cs) (even : cs.length = 2 * n) :
    ∃ bs, toBytes? cs = some bs ∧ bs.length = n := by
  fun_induction toBytes? cs generalizing n with
  | case1 =>
    rw [List.length_nil] at even
    exact ⟨[], rfl, by rw [List.length_nil]; omega⟩
  | case2 =>
    rw [List.length_singleton] at even
    omega
  | case3 high low rest ih =>
    obtain ⟨high', others⟩ := List.forall_mem_cons.mp h
    obtain ⟨low', others⟩ := List.forall_mem_cons.mp others
    obtain ⟨h₁, high'⟩ := Option.isSome_iff_exists.mp high'
    obtain ⟨l₁, low'⟩ := Option.isSome_iff_exists.mp low'
    rw [List.length_cons, List.length_cons] at even
    obtain ⟨bs, read, length⟩ := ih others (n := n - 1) (by omega)
    refine ⟨UInt8.ofNat (16 * h₁ + l₁) :: bs, ?_, ?_⟩
    · rw [high', low', read]
      rfl
    · rw [List.length_cons, length]
      omega

theorem eq_zero_of_digitValue? {c : Char} (h : digitValue? c = some 0) : c = '0' := by
  have digit : (digitValue? c).isSome = true := by rw [h, Option.isSome_some]
  exact ascii_induction (p := fun c => digitValue? c = some 0 → c = '0') (by decide)
    (ascii_of_digit digit) h

/-- **All bytes are zero iff all digits are `'0'`.** -/
theorem forall_zero_iff_of_toBytes? {cs : List Char} {bs : List UInt8}
    (h : toBytes? cs = some bs) : (∀ b ∈ bs, b = 0) ↔ ∀ c ∈ cs, c = '0' := by
  fun_induction toBytes? cs generalizing bs with
  | case1 =>
    cases h
    simp
  | case2 => cases h
  | case3 high low rest ih =>
    obtain ⟨h₁, high', h⟩ := Option.bind_eq_some_iff.mp h
    obtain ⟨l₁, low', h⟩ := Option.bind_eq_some_iff.mp h
    obtain ⟨bs, rest', h⟩ := Option.bind_eq_some_iff.mp h
    cases h
    have first : UInt8.ofNat (16 * h₁ + l₁) = 0 ↔ high = '0' ∧ low = '0' := by
      constructor
      · intro zero
        have worth := congrArg UInt8.toNat zero
        have := digitValue?_lt high'
        have := digitValue?_lt low'
        have small : 16 * h₁ + l₁ < UInt8.size := by
          show 16 * h₁ + l₁ < 256
          omega
        rw [UInt8.toNat_ofNat_of_lt' small, UInt8.toNat_zero] at worth
        obtain ⟨rfl, rfl⟩ : h₁ = 0 ∧ l₁ = 0 := by omega
        exact ⟨eq_zero_of_digitValue? high', eq_zero_of_digitValue? low'⟩
      · rintro ⟨rfl, rfl⟩
        obtain rfl : 0 = h₁ := Option.some.inj high'
        obtain rfl : 0 = l₁ := Option.some.inj low'
        rfl
    rw [List.forall_mem_cons, List.forall_mem_cons, List.forall_mem_cons, first, ih rest',
      and_assoc]

/-! ### Marks -/

/-- The marks of base sixteen, and none. -/
def marks : List (List Char) := [[], ['0', 'x'], ['0', 'X']]

theorem solid_of_mark {mark : List Char} (hm : mark ∈ marks) : ∀ c ∈ mark, isBlank c = false := by
  simp only [marks, List.mem_cons, List.not_mem_nil, or_false] at hm
  rcases hm with rfl | rfl | rfl
  · nofun
  · exact List.forall_mem_cons.mpr ⟨rfl, List.forall_mem_singleton.mpr rfl⟩
  · exact List.forall_mem_cons.mpr ⟨rfl, List.forall_mem_singleton.mpr rfl⟩

/-- `withoutMark` takes off a mark in front of digits, and takes nothing off digits. -/
theorem withoutMark_mark {mark body : List Char} (hm : mark ∈ marks) (hd : IsDigits body) :
    withoutMark (mark ++ body) = body := by
  simp only [marks, List.mem_cons, List.not_mem_nil, or_false] at hm
  rcases hm with rfl | rfl | rfl
  · -- A second digit is never the letter of a mark.
    rw [List.nil_append]
    unfold withoutMark
    split
    · exact absurd (hd 'x' (by simp)) (by decide)
    · exact absurd (hd 'X' (by simp)) (by decide)
    · rfl
  · rfl
  · rfl

/-- Every text is a mark, or nothing, followed by `withoutMark cs`. -/
theorem exists_mark (cs : List Char) : ∃ mark ∈ marks, cs = mark ++ withoutMark cs := by
  unfold withoutMark
  split
  · exact ⟨['0', 'x'], by decide, rfl⟩
  · exact ⟨['0', 'X'], by decide, rfl⟩
  · exact ⟨[], by decide, rfl⟩

/-! ### Spellings -/

/-- The ways to write digits: in any case, with a mark in front or without, and with blanks around
them or not. -/
inductive Spells (ds : List Char) : List Char → Prop
  | mk {before mark body after : List Char} (blanks : ∀ c ∈ before, isBlank c = true)
      (marked : mark ∈ marks) (same : asciiLower body = asciiLower ds)
      (others : ∀ c ∈ after, isBlank c = true) : Spells ds (before ++ (mark ++ body) ++ after)

/-- **A spelling of digits is taken apart in one way**, up to the case of the digits. -/
theorem Spells.asciiLower_withoutMark_trim {ds cs : List Char} (h : Spells ds cs)
    (hd : IsDigits ds) : asciiLower (withoutMark (trim cs)) = asciiLower ds := by
  obtain @⟨before, mark, body, after, blanks, marked, same, others⟩ := h
  have digits : IsDigits body := hd.of_asciiLower_eq same
  have solid : ∀ c ∈ mark ++ body, isBlank c = false :=
    List.forall_mem_append.mpr
      ⟨solid_of_mark marked, fun c hc => isBlank_of_digit (digits c hc)⟩
  rw [trim_solid blanks others solid, withoutMark_mark marked digits, same]

/-- A text spells the digits that are left of it without blanks and mark. -/
theorem Spells.of_asciiLower {ds cs : List Char}
    (h : asciiLower (withoutMark (trim cs)) = asciiLower ds) : Spells ds cs := by
  obtain ⟨before, after, whole, blanks, others⟩ := exists_trim cs
  obtain ⟨mark, marked, trimmed⟩ := exists_mark (trim cs)
  have spelling : Spells ds (before ++ (mark ++ withoutMark (trim cs)) ++ after) :=
    .mk blanks marked h others
  rwa [← trimmed, ← whole] at spelling

theorem spells_nil {cs : List Char} (h : ∀ c ∈ cs, isBlank c = true) : Spells [] cs := by
  have spelling : Spells [] (cs ++ ([] ++ []) ++ []) := .mk h (by decide) rfl nofun
  simpa using spelling

/-- All spellings of digits are read as the same bytes. -/
theorem Spells.toBytes? {ds cs : List Char} (h : Spells ds cs) (hd : IsDigits ds) :
    toBytes? (withoutMark (trim cs)) = toBytes? ds := by
  rw [← toBytes?_asciiLower, h.asciiLower_withoutMark_trim hd, toBytes?_asciiLower]

end Hex

end Text

open Text.Hex

/-! ### What the readers see -/

/-- **Code is its digits in lowercase**, however they are spelled. -/
theorem Bytecode.ofRaw?_of_spells {ds : List Char} {raw : String} (h : Spells ds raw.toList)
    (hd : IsDigits ds) (nonempty : ds ≠ []) :
    ofRaw? raw = some ⟨String.ofList (Text.asciiLower ds)⟩ := by
  have small := h.asciiLower_withoutMark_trim hd
  unfold ofRaw?
  split
  · next empty =>
    rw [empty] at small
    exact absurd (List.map_eq_nil_iff.mp small.symm) nonempty
  · rw [small]

namespace Address

/-- An address is read from digits by their bytes, however they are spelled. -/
theorem ofText?_of_spells {ds cs : List Char} (h : Spells ds cs) (hd : IsDigits ds) :
    ofText? cs = (Text.Hex.toBytes? ds).bind ofBytes? := by
  rw [ofText?, h.toBytes? hd]

theorem ofBytes?_bytes (a : Address) : ofBytes? a.bytes = some a := by
  rw [ofBytes?, dif_pos a.length_bytes]

/-- **An address is what forty digits denote**, and no other text gives one. -/
theorem ofText?_eq_some_iff {cs : List Char} {a : Address} :
    ofText? cs = some a ↔ ∃ ds, Spells ds cs ∧ IsDigits ds ∧ ds.length = 40 ∧
      Text.Hex.toBytes? ds = some a.bytes := by
  constructor
  · intro h
    obtain ⟨bytes, read, made⟩ := Option.bind_eq_some_iff.mp h
    obtain ⟨digits, length⟩ := isDigits_of_toBytes? read
    obtain ⟨twenty, made⟩ := Option.dite_none_right_eq_some.mp made
    cases made
    exact ⟨_, .of_asciiLower rfl, digits, by omega, read⟩
  · rintro ⟨ds, spelling, digits, -, read⟩
    rw [ofText?_of_spells spelling digits, read, Option.bind_some, ofBytes?_bytes]

end Address

end EvmRisk
