import EvmRisk.Proofs.Json.Spelling
import Mathlib.Algebra.Group.Int.Defs
import Mathlib.Algebra.GroupWithZero.Nat

/-!
# Numerals that are written

A whole number of 64 bits is read back from its numeral (`Numeral.value?_ofInt`), and every numeral
that `Numeral.ofInt` or `Numeral.ofFloat?` gives is written in accordance with the grammar
(`numeralSpelling_ofInt`, `numeralSpelling_ofFloat?`). What has to be seen is that no needless
zero comes first: the digits of a number other than zero do not begin with one
(`exists_toDigits_eq_cons`), and the shortest decimal of a double other than zero is not zero
(`shortest_digits`).
-/

namespace EvmRisk.Json

open Decimal

/-! ### Whole numbers -/

/-- **Whole numbers of 64 bits are read back.** -/
theorem Numeral.value?_ofInt (n : Int) (low : -2 ^ 63 ≤ n) (high : n < 2 ^ 64) :
    (ofInt n).value? = some (.int n) := by
  have back : Nat.ofDigitChars 10 (ofInt n).whole 0 = n.natAbs :=
    Nat.ofDigitChars_toDigits (by decide) (by decide)
  have whole : (ofInt n).isWhole = true := rfl
  have sign : (ofInt n).negative = decide (n < 0) := rfl
  unfold value?
  simp only [back, whole, sign, Bool.true_and]
  by_cases hn : n < 0
  · -- The first test asks for a number without a sign, the second finds this one.
    have least : n.natAbs ≤ Nat.pow 2 63 := by
      show n.natAbs ≤ 2 ^ 63
      omega
    have positive : 0 < n.natAbs := by omega
    have value : -(n.natAbs : Int) = n := by omega
    have signed : ¬ ((!decide (n < 0) && decide (n.natAbs < UInt64.size)) = true) := by simp [hn]
    rw [if_neg signed, if_pos (by simp only [hn, positive, least, decide_true, Bool.and_self]),
      value]
  · have most : n.natAbs < UInt64.size := by
      show n.natAbs < 2 ^ 64
      omega
    have value : (n.natAbs : Int) = n := by omega
    rw [if_pos (by simp only [hn, most, decide_true, decide_false, Bool.not_false, Bool.and_self]),
      value]

/-- A whole number that is read has 64 bits. -/
theorem Numeral.bounds_of_value? {n : Numeral} {k : Int} (h : n.value? = some (.int k)) :
    -2 ^ 63 ≤ k ∧ k < 2 ^ 64 := by
  unfold value? at h
  dsimp only at h
  split_ifs at h with plain signed
  · simp only [Bool.and_eq_true, decide_eq_true_eq] at plain
    have most : Nat.ofDigitChars 10 n.whole 0 < 2 ^ 64 := plain.2
    obtain rfl := Number.int.inj (Option.some.inj h)
    omega
  · simp only [Bool.and_eq_true, decide_eq_true_eq] at signed
    have most : Nat.ofDigitChars 10 n.whole 0 ≤ 2 ^ 63 := signed.2
    obtain rfl := Number.int.inj (Option.some.inj h)
    omega
  · obtain ⟨x, -, hx⟩ := Option.map_eq_some_iff.mp h
    exact absurd hx (by simp)

/-! ### Digits -/

theorem isDigit_toDigits {n : Nat} : ∀ d ∈ Nat.toDigits 10 n, d.isDigit = true :=
  fun _ h => Nat.isDigit_of_mem_toDigits (by decide) (by decide) h

/-- The digits of a number other than `0` do not begin with `'0'`. -/
theorem exists_toDigits_eq_cons {n : Nat} (h : n ≠ 0) :
    ∃ c cs, Nat.toDigits 10 n = c :: cs ∧ c ≠ '0' := by
  induction n using Nat.strongRecOn with
  | ind n ih =>
    by_cases small : n < 10
    · refine ⟨n.digitChar, [], Nat.toDigits_of_lt_base small, ?_⟩
      have all : ∀ k : Fin 10, k.val ≠ 0 → Nat.digitChar k.val ≠ '0' := by decide
      exact all ⟨n, small⟩ h
    · obtain ⟨c, cs, digits, nonzero⟩ := ih (n / 10) (by omega) (by omega)
      refine ⟨c, cs ++ [(n % 10).digitChar], ?_, nonzero⟩
      rw [Nat.toDigits_of_base_le (by decide) (by omega), digits, List.cons_append]

/-- The digits of a number can stand before the point. -/
theorem wholeDigits_toDigits (n : Nat) : WholeDigits (Nat.toDigits 10 n) := by
  by_cases h : n = 0
  · rw [h, Nat.toDigits_zero]
    exact .zero
  · obtain ⟨c, cs, digits, nonzero⟩ := exists_toDigits_eq_cons h
    have all := isDigit_toDigits (n := n)
    rw [digits] at all ⊢
    exact .digits nonzero all

/-! ### The text of a numeral -/

/-- A numeral with the digits that the grammar wants is written as the grammar says. -/
theorem numeralSpelling_text {n : Numeral} (whole : WholeDigits n.whole)
    (fraction : ∀ d ∈ n.fraction, d.isDigit = true)
    (power : ∀ e, n.exponent = some e → e.digits ≠ [] ∧ ∀ d ∈ e.digits, d.isDigit = true) :
    NumeralSpelling n n.text := by
  obtain ⟨negative, ws, fs, exponent⟩ := n
  have isPower : ExponentSpelling exponent ((exponent.map Exponent.text).getD []) := by
    match exponent, power with
    | none, _ => exact .none
    | some ⟨sign, []⟩, power => exact absurd rfl (power _ rfl).1
    | some ⟨true, c :: cs⟩, power => exact .minus (Or.inl rfl) (power _ rfl).2
    | some ⟨false, c :: cs⟩, power => exact .plus (Or.inl rfl) (power _ rfl).2
  have spelled := NumeralSpelling.intro negative whole fraction isPower
  simp only [Numeral.text, List.append_assoc]
  exact spelled

theorem numeralSpelling_ofInt (n : Int) :
    NumeralSpelling (Numeral.ofInt n) (Numeral.ofInt n).text :=
  numeralSpelling_text (wholeDigits_toDigits _) (fun _ h => absurd h List.not_mem_nil)
    fun _ h => absurd h (by simp [Numeral.ofInt])

/-! ### Doubles -/

theorem timesTwoTo_pos {n : Nat} (h : 0 < n) (d : Nat) (q : Int) : 0 < (timesTwoTo n d q).1 := by
  unfold timesTwoTo
  split_ifs
  · exact Nat.mul_pos h (Nat.two_pow_pos _)
  · exact h

theorem overTenTo_pos {n : Nat} (h : 0 < n) (d : Nat) (k : Int) : 0 < (overTenTo n d k).1 := by
  unfold overTenTo
  split_ifs
  · exact h
  · exact Nat.mul_pos h (Nat.pow_pos (by decide))

/-- An interval above `0` does not hold `0`. -/
theorem ne_zero_of_nearest? {i : Interval} (h : 0 < i.low) {c : Nat} (hc : i.nearest? = some c) :
    c ≠ 0 := by
  have holds : i.holds c = true := by
    unfold Interval.nearest? at hc
    dsimp only at hc
    split at hc
    · exact absurd hc (by simp)
    · next below _ => rwa [← Option.some.inj hc]
    · next _ above => rwa [← Option.some.inj hc]
    · next below above =>
      split_ifs at hc <;> obtain rfl := Option.some.inj hc
      · exact below
      · exact above
      · exact below
      · exact above
  rintro rfl
  -- Whether its ends belong to the interval or not, the lower one is above zero.
  unfold Interval.holds at holds
  split_ifs at holds
  · have inside : i.low ≤ 0 * i.den := of_decide_eq_true (Bool.and_eq_true_iff.mp holds).1
    omega
  · have inside : i.low < 0 * i.den := of_decide_eq_true (Bool.and_eq_true_iff.mp holds).1
    omega

/-- The shortest decimal of a double other than zero has digits other than `0`, or is the fallback.
-/
theorem shortest_digits {m : Nat} (h : m ≠ 0) (q : Int) :
    (shortest m q).digits ≠ 0 ∨ shortest m q = ⟨0, 0⟩ := by
  have low (k : Int) : 0 < ((Interval.around m q).inUnits k).low := by
    refine overTenTo_pos (timesTwoTo_pos ?_ _ _) _ _
    split_ifs <;> omega
  unfold shortest
  dsimp only
  split
  · next s found =>
    obtain ⟨k, -, found⟩ := List.exists_of_findSome?_eq_some found
    obtain ⟨c, nearest, rfl⟩ := Option.map_eq_some_iff.mp found
    exact Or.inl (ne_zero_of_nearest? (low k) nearest)
  · exact Or.inr rfl

theorem isDigit_replicate_zero {n : Nat} : ∀ d ∈ List.replicate n '0', d.isDigit = true := by
  intro d hd
  rw [List.eq_of_mem_replicate hd]
  decide

/-- Digits with a point among them are written as the grammar says, if a zero comes first only as
the one digit before the point. -/
theorem numeralSpelling_positional {digits : List Char} {place : Int} (negative : Bool)
    (all : ∀ d ∈ digits, d.isDigit = true)
    (leading : (∃ c cs, digits = c :: cs ∧ c ≠ '0') ∨ digits = ['0'] ∧ place = 1) :
    NumeralSpelling (Numeral.positional negative digits place)
      (Numeral.positional negative digits place).text := by
  unfold Numeral.positional
  split_ifs with small
  · refine numeralSpelling_text .zero (fun d hd => ?_) fun _ h => absurd h (by simp)
    rcases List.mem_append.mp hd with hd | hd
    · exact isDigit_replicate_zero d hd
    · exact all d hd
  · have padded : ∀ d ∈ digits.rightpad place.toNat '0', d.isDigit = true := by
      intro d hd
      rcases List.mem_append.mp hd with hd | hd
      · exact all d hd
      · exact isDigit_replicate_zero d hd
    refine numeralSpelling_text ?_ (fun d hd => ?_) fun _ h => absurd h (by simp)
    · show WholeDigits ((digits.rightpad place.toNat '0').take place.toNat)
      rcases leading with ⟨c, cs, rfl, nonzero⟩ | ⟨rfl, rfl⟩
      · obtain ⟨p, hp⟩ : ∃ p, place.toNat = p + 1 := ⟨place.toNat - 1, by omega⟩
        rw [hp] at padded ⊢
        refine .digits nonzero fun d hd => padded d ?_
        have hd : d ∈ ((c :: cs).rightpad (p + 1) '0').take (p + 1) := hd
        exact List.mem_of_mem_take hd
      · exact .zero
    · dsimp only at hd
      split_ifs at hd
      · rw [List.mem_singleton.mp hd]
        decide
      · exact padded d (List.mem_of_mem_drop hd)

/-- Digits with an exponent are written as the grammar says. -/
theorem numeralSpelling_scientific {c : Char} {cs : List Char} (negative : Bool) (power : Int)
    (all : ∀ d ∈ c :: cs, d.isDigit = true) :
    NumeralSpelling (Numeral.scientific negative (c :: cs) power)
      (Numeral.scientific negative (c :: cs) power).text := by
  refine numeralSpelling_text ?_ (fun d hd => all d (List.mem_cons_of_mem _ hd)) fun e he => ?_
  · show WholeDigits [c]
    by_cases zero : c = '0'
    · rw [zero]
      exact .zero
    · exact .digits zero fun d hd => all d (by simp_all)
  · obtain rfl := Option.some.inj he
    exact ⟨Nat.toDigits_ne_nil, isDigit_toDigits⟩

/-- **The numeral of a double is written as the grammar says.** -/
theorem numeralSpelling_ofFloat? {x : Float} {n : Numeral} (h : Numeral.ofFloat? x = some n) :
    NumeralSpelling n n.text := by
  unfold Numeral.ofFloat? at h
  split at h
  · exact absurd h (by simp)
  · exact absurd h (by simp)
  · obtain rfl := Option.some.inj h
    exact numeralSpelling_text .zero (by simp) fun _ h => absurd h (by simp)
  · next negative m q nonzero _ =>
    obtain ⟨c, cs, digits⟩ := List.exists_cons_of_ne_nil
      (Nat.toDigits_ne_nil (n := (shortest m q).digits) (b := 10))
    have all := isDigit_toDigits (n := (shortest m q).digits)
    have isNonzero : m ≠ 0 := fun zero => nonzero zero
    dsimp only at h
    split_ifs at h
    · obtain rfl := Option.some.inj h
      refine numeralSpelling_positional negative all ?_
      rcases shortest_digits isNonzero q with some | none
      · exact Or.inl (exists_toDigits_eq_cons some)
      · exact Or.inr (by rw [none]; exact ⟨rfl, rfl⟩)
    · obtain rfl := Option.some.inj h
      rw [digits] at all ⊢
      exact numeralSpelling_scientific negative _ all

end EvmRisk.Json
