import EvmRisk.Proofs.Scoring.Proxy

/-!
# The search in code

Code is searched for the digits of a marker, and these count wherever they stand: at the border of a
byte or inside one, at the very start and at the very end, and across the digits of another marker
(`Text.occursIn_iff_standsAt`). A table of signatures is searched one by one, so that what is found
are the ones whose digits the code holds, in the order of the table, and nothing without code
(`Signature.detect_eq_filter_holds`).

The search knows no borders inside the code either: what is found in one of two pieces of code is
found where they are put together (`Signature.exact_detect`).
-/

namespace EvmRisk

/-! ### Places in a text -/

namespace Text

/-- `piece` stands in `text` at the place `n`: all of it is inside, character by character. -/
def StandsAt (piece text : List Char) (n : Nat) : Prop :=
  piece.length + n ≤ text.length ∧
    ∀ (i : Nat) (h : i < piece.length), text[i + n]? = some piece[i]

/-- **A piece occurs in a text just when it stands at some place of it.** -/
theorem occursIn_iff_standsAt {piece text : List Char} :
    occursIn piece text = true ↔ ∃ n, StandsAt piece text n :=
  occursIn_iff.trans List.infix_iff_getElem?

/-- A piece at place `n` of `text` is at place `before.length + n` of `before ++ (text ++ after)`.
-/
theorem StandsAt.within {piece text : List Char} {n : Nat} (h : StandsAt piece text n)
    (before after : List Char) :
    StandsAt piece (before ++ (text ++ after)) (before.length + n) := by
  obtain ⟨inside, same⟩ := h
  constructor
  · simp only [List.length_append]
    omega
  · intro i hi
    have place : i + (before.length + n) = before.length + (i + n) := by omega
    rw [place, List.getElem?_append_right (Nat.le_add_right _ _), Nat.add_sub_cancel_left,
      List.getElem?_append_left (by omega)]
    exact same i hi

end Text

/-! ### Digits in code -/

namespace Bytecode

/-- Two pieces of code put together. -/
instance : Append Bytecode := ⟨fun x y => ⟨x.hex ++ y.hex⟩⟩

theorem toList_hex_append (x y : Bytecode) :
    (x ++ y).hex.toList = x.hex.toList ++ y.hex.toList := String.toList_append

/-- There is code, and `digits` stand in it at some place. -/
def Holds (code : Option Bytecode) (digits : List Char) : Prop :=
  ∃ c, code = some c ∧ ∃ n, Text.StandsAt digits c.hex.toList n

variable {code : Option Bytecode} {digits : List Char}

/-- `Bytecode.contains` finds digits just when `Holds code digits`. -/
theorem any_contains_iff : code.any (·.contains digits) = true ↔ Holds code digits := by
  rw [Option.any_eq_true]
  exact exists_congr fun c => and_congr_right fun _ => Text.occursIn_iff_standsAt

instance (code : Option Bytecode) (digits : List Char) : Decidable (Holds code digits) :=
  decidable_of_iff _ any_contains_iff

/-- Digits that `x` or `y` holds are held by `x ++ y`. -/
theorem Holds.append {x y : Bytecode} (h : Holds (some x) digits ∨ Holds (some y) digits) :
    Holds (some (x ++ y)) digits := by
  refine ⟨_, rfl, ?_⟩
  rw [toList_hex_append]
  rcases h with ⟨c, one, n, stands⟩ | ⟨c, one, n, stands⟩
  · obtain rfl := Option.some.inj one
    exact ⟨_, stands.within [] y.hex.toList⟩
  · obtain rfl := Option.some.inj one
    have moved := stands.within x.hex.toList []
    rw [List.append_nil] at moved
    exact ⟨_, moved⟩

end Bytecode

/-! ### Signatures in code -/

namespace Signature

open Bytecode (Holds)

theorem shows_iff_holds {s : Snapshot} {m : Marker} : s.Shows m ↔ Holds s.bytecode m.hex :=
  Snapshot.any_occursIn_iff.symm.trans Bytecode.any_contains_iff

/-- **The signatures that are found are the ones whose digits the code holds**, in the order of the
table. -/
theorem detect_eq_filter_holds (code : Option Bytecode) (table : List Signature) :
    detect code table = table.filter fun e => Holds code e.marker.hex := by
  rw [show code = ({ bytecode := code } : Snapshot).bytecode from rfl, Snapshot.detect_eq_filter]
  refine List.filter_congr fun e _ => ?_
  rw [decide_eq_decide]
  exact shows_iff_holds

theorem detect_append (code : Option Bytecode) (table more : List Signature) :
    detect code (table ++ more) = detect code table ++ detect code more := by
  simp only [detect_eq_filter_holds, List.filter_append]

/-- If `b` holds all digits that `a` holds, what is detected in `a` is detected in `b`, in the same
order. -/
theorem detect_sublist {a b : Option Bytecode} (h : ∀ digits, Holds a digits → Holds b digits)
    (table : List Signature) : (detect a table).Sublist (detect b table) := by
  rw [detect_eq_filter_holds, detect_eq_filter_holds]
  refine List.monotone_filter_right table fun e held => ?_
  rw [decide_eq_true_iff] at held ⊢
  exact h _ held

theorem implementationSlot_iff_holds (s : Snapshot) :
    (ProxySigns.ofSnapshot s).implementationSlot = true ↔ Holds s.bytecode implementationSlot :=
  Bytecode.any_contains_iff

/-- **The search in code is exact.** It finds just the signatures of a table whose digits the code
holds at any place, in the order of the table and one table after the other; it finds the storage
slot of proxies just where its thirty-two digits stand; and what it finds in one of two pieces of
code it finds in both put together. -/
theorem exact_detect (table : List Signature) :
    (∀ code, detect code table = table.filter fun e => Holds code e.marker.hex) ∧
    detect none table = [] ∧
    (∀ code more, detect code (table ++ more) = detect code table ++ detect code more) ∧
    (∀ s : Snapshot, (ProxySigns.ofSnapshot s).implementationSlot = true ↔
      Holds s.bytecode implementationSlot) ∧
    implementationSlot.length = 32 ∧
    ∀ x y : Bytecode, (detect (some x) table).Sublist (detect (some (x ++ y)) table) ∧
      (detect (some y) table).Sublist (detect (some (x ++ y)) table) ∧
      ∀ digits, Holds (some x) digits ∨ Holds (some y) digits → Holds (some (x ++ y)) digits :=
  ⟨fun code => detect_eq_filter_holds code table, rfl,
    fun code more => detect_append code table more, implementationSlot_iff_holds, by decide,
    fun _ _ => ⟨detect_sublist (fun _ held => Holds.append (Or.inl held)) table,
      detect_sublist (fun _ held => Holds.append (Or.inr held)) table, fun _ => Holds.append⟩⟩

/-- An instruction at an odd digit, inside a selector that neither piece of the code has alone. -/
theorem exact_detect_acrossPieces :
    let x : Bytecode := ⟨"003f4b"⟩
    let y : Bytecode := ⟨"a83a"⟩
    let instruction := (Marker.opcode 0xf4).hex
    Holds (some x) instruction ∧ Holds (some (x ++ y)) instruction ∧
      detect (some x) ownerSelectors = [] ∧ detect (some y) ownerSelectors = [] ∧
      (detect (some (x ++ y)) ownerSelectors).map name = ["unpause()"] := by
  intro x y instruction
  obtain ⟨found, -, -, -, -, together⟩ := exact_detect ownerSelectors
  have inside : Holds (some x) instruction := by decide
  refine ⟨inside, (together x y).2.2 instruction (Or.inl inside), ?_, ?_, ?_⟩
  · rw [found]
    decide
  · rw [found]
    decide
  · rw [found]
    decide

end Signature

end EvmRisk
