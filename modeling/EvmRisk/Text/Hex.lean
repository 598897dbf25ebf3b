/-!
# Base sixteen

Bytes as pairs of digits. `ofBytes` writes them in lowercase; `toBytes?` reads an even number of
digits of any case and refuses everything else; `withoutMark` takes off the mark that may stand in
front of digits. Reading what was written gives the bytes back
(`toBytes?_ofBytes`).
-/

namespace EvmRisk.Text.Hex

/-- A text without one mark of base sixteen, `0x` or `0X`, in front. -/
def withoutMark : List Char → List Char
  | '0' :: 'x' :: rest => rest
  | '0' :: 'X' :: rest => rest
  | cs => cs

/-- The two digits of a byte, the higher one first. -/
def ofByte (b : UInt8) : List Char := [Nat.digitChar (b.toNat / 16), Nat.digitChar (b.toNat % 16)]

/-- The digits of bytes, two for each. -/
def ofBytes (bs : List UInt8) : List Char := bs.flatMap ofByte

/-- The value of a digit, in either case. -/
def digitValue? (c : Char) : Option Nat :=
  if '0' ≤ c ∧ c ≤ '9' then some (c.toNat - '0'.toNat)
  else if 'a' ≤ c ∧ c ≤ 'f' then some (c.toNat - 'a'.toNat + 10)
  else if 'A' ≤ c ∧ c ≤ 'F' then some (c.toNat - 'A'.toNat + 10)
  else none

/-- The bytes that pairs of digits denote. -/
def toBytes? : List Char → Option (List UInt8)
  | [] => some []
  | [_] => none
  | high :: low :: rest => do
    let h ← digitValue? high
    let l ← digitValue? low
    let bs ← toBytes? rest
    some (UInt8.ofNat (16 * h + l) :: bs)

/-- A written digit is read back. -/
theorem digitValue?_digitChar (n : Nat) (h : n < 16) : digitValue? (Nat.digitChar n) = some n := by
  have all : ∀ n : Fin 16, digitValue? (Nat.digitChar n.val) = some n.val := by decide
  exact all ⟨n, h⟩

/-- A digit is worth less than sixteen. -/
theorem digitValue?_lt {c : Char} {n : Nat} (h : digitValue? c = some n) : n < 16 := by
  unfold digitValue? at h
  split at h
  · next dec =>
    have upper : c.toNat ≤ 57 := dec.2
    obtain rfl := Option.some.inj h
    show c.toNat - 48 < 16
    omega
  · split at h
    · next small =>
      have upper : c.toNat ≤ 102 := small.2
      obtain rfl := Option.some.inj h
      show c.toNat - 97 + 10 < 16
      omega
    · split at h
      · next large =>
        have upper : c.toNat ≤ 70 := large.2
        obtain rfl := Option.some.inj h
        show c.toNat - 65 + 10 < 16
        omega
      · cases h

/-- **Bytes are read back from their digits.** -/
theorem toBytes?_ofBytes (bs : List UInt8) : toBytes? (ofBytes bs) = some bs := by
  induction bs with
  | nil => rfl
  | cons b bs ih =>
    have hb : b.toNat < 256 := b.toNat_lt
    have ih' : toBytes? (bs.flatMap ofByte) = some bs := ih
    have join : UInt8.ofNat (16 * (b.toNat / 16) + b.toNat % 16) = b := by
      rw [Nat.div_add_mod, UInt8.ofNat_toNat]
    simp only [ofBytes, List.flatMap_cons, ofByte, List.cons_append, List.nil_append, toBytes?, ih',
      digitValue?_digitChar (b.toNat / 16) (by omega),
      digitValue?_digitChar (b.toNat % 16) (by omega), Option.bind_eq_bind, Option.bind_some, join]

end EvmRisk.Text.Hex
