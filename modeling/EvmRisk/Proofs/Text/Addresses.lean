import EvmRisk.Proofs.Lists
import EvmRisk.Proofs.Text.NormalForm
import EvmRisk.Snapshot
import Mathlib.Data.Nat.Digits.Lemmas

/-!
# How addresses are read and written

An address is a number of twenty bytes (`Address.toNat`). A text gives the one whose number its
forty digits denote (`Address.Spelled`), and whatever does not spell forty digits is a fault that
tells the text as it was given. An address is written in forty digits of which some letters are
capitals. Which ones they are depends on a hash of all the digits, but no reader looks at the case:
what is written is read back in this case and in any other (`Address.ofRaw_of_recased`). So no two
addresses are written alike (`Address.reading_and_writing`).
-/

namespace EvmRisk

open Text (asciiLower isBlank trim)
open Text.Hex (IsDigits Spells digitValue? marks ofBytes toBytes? withoutMark)

/-! ### Numbers -/

namespace Text.Hex

/-- `ds` are digits of base sixteen, in any case, that denote the number `n`. -/
def Denote (ds : List Char) (n : Nat) : Prop :=
  ∃ values, ds.mapM digitValue? = some values ∧ Nat.ofDigits 16 values.reverse = n

/-- Digits denote one number only. -/
theorem Denote.unique {ds : List Char} {m n : Nat} (h : Denote ds m) (h' : Denote ds n) :
    m = n := by
  obtain ⟨values, read, rfl⟩ := h
  obtain ⟨values', read', rfl⟩ := h'
  rw [Option.some.inj (read.symm.trans read')]

theorem Denote.isDigits {ds : List Char} {n : Nat} (h : Denote ds n) : IsDigits ds := by
  obtain ⟨values, read, -⟩ := h
  intro c mem
  obtain ⟨v, -, value⟩ := exists_of_forall₂_left (mapM_eq_some_iff.mp read) c mem
  rw [value, Option.isSome_some]

theorem ofDigits_reverse (base : Nat) (values : List Nat) :
    Nat.ofDigits base values.reverse = values.foldl (fun n v => base * n + v) 0 := by
  rw [Nat.ofDigits_eq_foldr, List.foldr_reverse]
  simp only [Nat.cast_id, Nat.add_comm]

/-- **Digits and the bytes that they denote are the same number.** -/
theorem denote_of_toBytes? {ds : List Char} {bs : List UInt8} (h : toBytes? ds = some bs) :
    Denote ds (Nat.ofDigits 256 (bs.map UInt8.toNat).reverse) := by
  -- Two digits move a number on as far as one byte does, wherever it stands.
  suffices ∃ values, ds.mapM digitValue? = some values ∧ ∀ start,
      values.foldl (fun n v => 16 * n + v) start =
        (bs.map UInt8.toNat).foldl (fun n b => 256 * n + b) start by
    obtain ⟨values, read, same⟩ := this
    exact ⟨values, read, by rw [ofDigits_reverse, ofDigits_reverse, same]⟩
  fun_induction toBytes? ds generalizing bs with
  | case1 =>
    cases h
    exact ⟨[], rfl, fun _ => rfl⟩
  | case2 => cases h
  | case3 high low rest ih =>
    obtain ⟨h₁, high', h⟩ := Option.bind_eq_some_iff.mp h
    obtain ⟨l₁, low', h⟩ := Option.bind_eq_some_iff.mp h
    obtain ⟨bs, rest', h⟩ := Option.bind_eq_some_iff.mp h
    cases h
    obtain ⟨values, read, same⟩ := ih rest'
    have := digitValue?_lt high'
    have := digitValue?_lt low'
    have byte : (UInt8.ofNat (16 * h₁ + l₁)).toNat = 16 * h₁ + l₁ :=
      UInt8.toNat_ofNat_of_lt' (by show 16 * h₁ + l₁ < 256; omega)
    refine ⟨h₁ :: l₁ :: values, ?_, fun start => ?_⟩
    · rw [List.mapM_cons, List.mapM_cons, high', low', read]
      rfl
    · rw [List.foldl_cons, List.foldl_cons, same, List.map_cons, List.foldl_cons, byte]
      congr 1
      omega

end Text.Hex

namespace Address

/-- The number whose digits of base 256 are the bytes. -/
def toNat (a : Address) : Nat := Nat.ofDigits 256 (a.bytes.map UInt8.toNat).reverse

/-- Different addresses are different numbers. -/
theorem toNat_injective : Function.Injective toNat := by
  intro a b same
  have bound (c : Address) : ∀ v ∈ (c.bytes.map UInt8.toNat).reverse, v < 256 := by
    intro v mem
    obtain ⟨byte, -, rfl⟩ := List.mem_map.mp (List.mem_reverse.mp mem)
    exact byte.toNat_lt
  have length : (a.bytes.map UInt8.toNat).reverse.length =
      (b.bytes.map UInt8.toNat).reverse.length := by
    simp only [List.length_reverse, List.length_map, a.length_bytes, b.length_bytes]
  -- Zeros in front would not show in the number, but both have as many digits.
  have digits := Nat.ofDigits_inj_of_len_eq (by decide) length (bound a) (bound b) same
  have bytes : a.bytes = b.bytes :=
    List.map_injective_iff.mpr (fun _ _ => UInt8.toNat_inj.mp) (List.reverse_inj.mp digits)
  cases a
  cases b
  congr

/-! ### What is read -/

/-- A text that spells a number in forty digits of any case, with or without a mark in front and
blanks around them. -/
inductive Spelled : List Char → Nat → Prop
  | mk {before mark ds after : List Char} {n : Nat} (blanks : ∀ c ∈ before, isBlank c = true)
    (marked : mark ∈ marks) (digits : Text.Hex.Denote ds n) (forty : ds.length = 40)
    (others : ∀ c ∈ after, isBlank c = true) : Spelled (before ++ (mark ++ ds) ++ after) n

/-- A text from which `a` is read spells the number of `a`. -/
theorem spelled_of_ofText? {cs : List Char} {a : Address} (h : ofText? cs = some a) :
    Spelled cs a.toNat := by
  obtain ⟨bytes, read, made⟩ := Option.bind_eq_some_iff.mp h
  obtain ⟨twenty, made⟩ := Option.dite_none_right_eq_some.mp made
  cases made
  obtain ⟨before, after, whole, blanks, others⟩ := Text.exists_trim cs
  obtain ⟨mark, marked, trimmed⟩ := Text.Hex.exists_mark (trim cs)
  have length := (Text.Hex.isDigits_of_toBytes? read).2
  have spelled := Spelled.mk blanks marked (Text.Hex.denote_of_toBytes? read) (by omega) others
  rwa [← trimmed, ← whole] at spelled

/-- From a text that spells `n` an address with the number `n` is read. -/
theorem exists_of_spelled {cs : List Char} {n : Nat} (h : Spelled cs n) :
    ∃ a, ofText? cs = some a ∧ a.toNat = n := by
  obtain ⟨blanks, marked, digits, forty, others⟩ := h
  obtain ⟨bytes, read, twenty⟩ := Text.Hex.exists_toBytes? digits.isDigits (n := 20) forty
  refine ⟨⟨bytes, twenty⟩, ?_, (Text.Hex.denote_of_toBytes? read).unique digits⟩
  rw [ofText?_of_spells (.mk blanks marked rfl others) digits.isDigits, read]
  exact dif_pos twenty

/-- **A text gives the address whose number it spells.** -/
theorem ofText?_eq_some_iff_spelled {cs : List Char} {a : Address} :
    ofText? cs = some a ↔ Spelled cs a.toNat := by
  refine ⟨spelled_of_ofText?, fun h => ?_⟩
  obtain ⟨b, read, same⟩ := exists_of_spelled h
  rwa [← toNat_injective same]

/-- A text that spells no number gives no address. -/
theorem ofText?_eq_none_iff {cs : List Char} : ofText? cs = none ↔ ¬ ∃ n, Spelled cs n := by
  constructor
  · rintro none ⟨n, spelled⟩
    obtain ⟨a, read, -⟩ := exists_of_spelled spelled
    rw [none] at read
    cases read
  · intro h
    by_contra some
    obtain ⟨a, read⟩ := Option.ne_none_iff_exists'.mp some
    exact h ⟨_, spelled_of_ofText? read⟩

theorem ofRaw_eq_ok_iff {raw : String} {a : Address} :
    ofRaw raw = .ok a ↔ ofText? raw.toList = some a := by
  unfold ofRaw
  cases ofText? raw.toList <;> simp

theorem ofRaw_eq_error_iff {raw : String} {fault : Fault} :
    ofRaw raw = .error fault ↔ ofText? raw.toList = none ∧ fault = .invalidAddress raw := by
  unfold ofRaw
  cases ofText? raw.toList <;> simp [eq_comm]

end Address

/-! ### What is written -/

theorem Keccak.length_hash (message : List UInt8) : (Keccak.hash message).length = 32 := by
  have lane (x : UInt64) : (bytesOfLane x).length = 8 := by
    rw [bytesOfLane, List.length_map, List.length_range]
  simp [Keccak.hash, lane]

namespace Text.Hex

/-- `Nat.digitChar n` is its own lowercase, is that of its uppercase, and is a digit. -/
theorem letter_of_digitChar {n : Nat} (small : n < 16) :
    (Nat.digitChar n).toLower = Nat.digitChar n ∧
      (Nat.digitChar n).toUpper.toLower = Nat.digitChar n ∧
      (digitValue? (Nat.digitChar n)).isSome = true := by
  have all : ∀ n : Fin 16, (Nat.digitChar n.val).toLower = Nat.digitChar n.val ∧
      (Nat.digitChar n.val).toUpper.toLower = Nat.digitChar n.val ∧
      (digitValue? (Nat.digitChar n.val)).isSome = true := by decide
  exact all ⟨n, small⟩

/-- `Nat.digitChar n` is no capital, and its uppercase is one iff it is a letter. -/
theorem isUpper_digitChar {n : Nat} (small : n < 16) :
    (Nat.digitChar n).isUpper = false ∧
      (Nat.digitChar n).toUpper.isUpper = (Nat.digitChar n).toUpper.isAlpha := by
  have all : ∀ n : Fin 16, (Nat.digitChar n.val).isUpper = false ∧
      (Nat.digitChar n.val).toUpper.isUpper = (Nat.digitChar n.val).toUpper.isAlpha := by decide
  exact all ⟨n, small⟩

/-- The digits of bytes are written by `Nat.digitChar`. -/
theorem exists_digitChar_of_mem {bs : List UInt8} {c : Char} (mem : c ∈ ofBytes bs) :
    ∃ n < 16, c = Nat.digitChar n := by
  obtain ⟨b, -, mem⟩ := List.mem_flatMap.mp mem
  have bound : b.toNat < 256 := b.toNat_lt
  rcases List.mem_pair.mp mem with rfl | rfl
  · exact ⟨b.toNat / 16, by omega, rfl⟩
  · exact ⟨b.toNat % 16, by omega, rfl⟩

theorem isDigits_asciiLower_iff {cs : List Char} : IsDigits (asciiLower cs) ↔ IsDigits cs := by
  simp only [IsDigits, asciiLower, List.forall_mem_map, digitValue?_toLower]

theorem isDigits_ofBytes (bs : List UInt8) : IsDigits (ofBytes bs) := by
  intro c mem
  obtain ⟨n, small, rfl⟩ := exists_digitChar_of_mem mem
  exact (letter_of_digitChar small).2.2

theorem length_ofBytes (bs : List UInt8) : (ofBytes bs).length = 2 * bs.length :=
  (isDigits_of_toBytes? (toBytes?_ofBytes bs)).2

/-- Digits of which some are made capitals have the same lowercase, whatever decides which ones. -/
theorem asciiLower_capitals {cs : List Char} (digits : ∀ c ∈ cs, ∃ n < 16, c = Nat.digitChar n)
    {marks : List Nat} (enough : cs.length ≤ marks.length) :
    asciiLower (List.zipWith (fun c n => if 8 ≤ n then c.toUpper else c) cs marks) = cs := by
  induction cs generalizing marks with
  | nil => rfl
  | cons c cs ih =>
    obtain ⟨mark, marks, rfl⟩ :=
      List.exists_cons_of_length_pos (Nat.lt_of_lt_of_le (Nat.succ_pos _) enough)
    obtain ⟨n, small, rfl⟩ := digits c List.mem_cons_self
    obtain ⟨same, undone, -⟩ := letter_of_digitChar small
    have rest := ih (fun d mem => digits d (List.mem_cons_of_mem _ mem))
      (Nat.le_of_succ_le_succ enough)
    rw [List.zipWith_cons_cons, asciiLower, List.map_cons, ← asciiLower, rest]
    -- Whether the digit was made a capital or not, in small letters it is the same again.
    split
    · rw [undone]
    · rw [same]

end Text.Hex

namespace Address

/-- A byte is two digits of base sixteen. -/
theorem length_nibbles (bytes : List UInt8) : (nibbles bytes).length = 2 * bytes.length := by
  induction bytes with
  | nil => rfl
  | cons b bytes ih =>
    rw [nibbles, List.flatMap_cons, List.length_append, ← nibbles, ih, List.length_cons]
    simp only [List.length_cons, List.length_nil]
    omega

/-- **The checksum changes the case of the digits only.** -/
theorem asciiLower_checksummed (a : Address) :
    asciiLower a.checksummed = Text.Hex.ofBytes a.bytes := by
  refine Text.Hex.asciiLower_capitals (fun c mem => Text.Hex.exists_digitChar_of_mem mem) ?_
  rw [Text.Hex.length_ofBytes, a.length_bytes, length_nibbles, Keccak.length_hash]
  decide

theorem isDigits_checksummed (a : Address) : IsDigits a.checksummed := by
  rw [← Text.Hex.isDigits_asciiLower_iff, asciiLower_checksummed]
  exact Text.Hex.isDigits_ofBytes a.bytes

theorem length_checksummed (a : Address) : a.checksummed.length = 40 := by
  have same := congrArg List.length (asciiLower_checksummed a)
  rwa [asciiLower, List.length_map, Text.Hex.length_ofBytes, a.length_bytes] at same

/-- The digits with the checksum are read back as the bytes of `a`. -/
theorem toBytes?_checksummed (a : Address) : Text.Hex.toBytes? a.checksummed = some a.bytes := by
  rw [← Text.Hex.toBytes?_asciiLower, asciiLower_checksummed, Text.Hex.toBytes?_ofBytes]

/-- The digit at place `i` of `bytes` is half of the byte at place `i / 2`. -/
theorem getElem?_nibbles (bytes : List UInt8) (i : Nat) : (nibbles bytes)[i]? =
    bytes[i / 2]?.map fun b => if i % 2 = 0 then b.toNat / 16 else b.toNat % 16 := by
  induction bytes generalizing i with
  | nil => rfl
  | cons b bytes ih =>
    have front : nibbles (b :: bytes) = b.toNat / 16 :: b.toNat % 16 :: nibbles bytes := rfl
    rw [front]
    match i with
    | 0 => rfl
    | 1 => rfl
    | i + 2 =>
      have half : (i + 2) / 2 = i / 2 + 1 := by omega
      rw [List.getElem?_cons_succ, List.getElem?_cons_succ, ih, half, List.getElem?_cons_succ,
        Nat.add_mod_right]

/-- `ds` are the forty digits of `a` with the checksum in their case: the digit at place `i` is a
capital just when it is a letter and the digit at place `i` of the hash of the small digits is `8`
or more. -/
structure Checksummed (a : Address) (ds : List Char) : Prop where
  forty : ds.length = 40
  toBytes?_eq : Text.Hex.toBytes? ds = some a.bytes
  /-- A byte of the hash is two digits, the higher one first. -/
  isUpper_iff : ∀ i c, ds[i]? = some c →
    ∃ b, (Keccak.hash ((asciiLower ds).map fun c => c.toNat.toUInt8))[i / 2]? = some b ∧
      (c.isUpper = true ↔
        c.isAlpha = true ∧ 8 ≤ if i % 2 = 0 then b.toNat / 16 else b.toNat % 16)

/-- `a.checksummed` is as `Checksummed` says. -/
theorem checksummed_checksummed (a : Address) : a.Checksummed a.checksummed where
  forty := a.length_checksummed
  toBytes?_eq := a.toBytes?_checksummed
  isUpper_iff i c found := by
    rw [asciiLower_checksummed]
    obtain ⟨d, n, small, digit, rfl⟩ := List.getElem?_zipWith_eq_some.mp found
    rw [getElem?_nibbles] at digit
    obtain ⟨b, byte, rfl⟩ := Option.map_eq_some_iff.mp digit
    obtain ⟨k, bound, rfl⟩ := Text.Hex.exists_digitChar_of_mem (List.mem_of_getElem? small)
    obtain ⟨low, capital⟩ := Text.Hex.isUpper_digitChar bound
    refine ⟨b, byte, ?_⟩
    -- Whether the digit was made a capital is decided by this very half of the byte.
    generalize (if i % 2 = 0 then b.toNat / 16 else b.toNat % 16) = half
    by_cases high : 8 ≤ half
    · rw [if_pos high, capital, and_iff_left high]
    · rw [if_neg high, low]
      simp [high]

/-! ### Back again -/

/-- **From `a.text` in any case of the letters, `a` is read back.** -/
theorem ofRaw_of_recased {a : Address} {raw : String}
    (h : asciiLower raw.toList = asciiLower a.text.toList) : ofRaw raw = .ok a := by
  have written : a.text.toList = ['0', 'x'] ++ a.checksummed := String.toList_ofList
  rw [written, asciiLower, asciiLower, List.map_append] at h
  -- The text is cut behind its first two characters; they are a mark in one case or the other.
  obtain ⟨mark, body, whole, same, digits⟩ := List.map_eq_append_iff.mp h
  have marked : mark ∈ marks := by
    rw [← Text.Hex.asciiLower_mem_marks_iff, asciiLower, same]
    decide
  have spells : Spells a.checksummed ([] ++ (mark ++ body) ++ []) :=
    .mk (List.forall_mem_nil _) marked digits (List.forall_mem_nil _)
  rw [List.nil_append, List.append_nil, ← whole] at spells
  rw [ofRaw_eq_ok_iff, ofText?_of_spells spells a.isDigits_checksummed, toBytes?_checksummed]
  exact ofBytes?_bytes a

theorem ofRaw_text (a : Address) : ofRaw a.text = .ok a := ofRaw_of_recased rfl

/-- **Different addresses are written differently.** -/
theorem text_injective : Function.Injective text := by
  intro a b same
  have read := ofRaw_text a
  rw [same, ofRaw_text b] at read
  exact (Except.ok.inj read).symm

/-! ### What the explorer tells -/

/-- `a.isZero` is that `a` is the number `0`. -/
theorem isZero_iff {a : Address} : a.isZero = true ↔ a.toNat = 0 := by
  rw [isZero, List.all_eq_true]
  constructor
  · intro zeros
    have bytes : a.bytes = List.replicate 20 0 :=
      List.eq_replicate_iff.mpr ⟨a.length_bytes, fun b mem => eq_of_beq (zeros b mem)⟩
    rw [toNat, bytes]
    decide
  · intro zero b mem
    have value := Nat.digits_zero_of_eq_zero (by decide) zero b.toNat
      (List.mem_reverse.mpr (List.mem_map_of_mem mem))
    rw [beq_iff_eq, ← UInt8.toNat_inj]
    exact value

end Address

/-- **A field tells the address `a` iff it is there, `a` is read from it, and `a` is not zero.** -/
theorem Explorer.knownAddress?_eq_some_iff_ofRaw {field : Option String} {a : Address} :
    knownAddress? field = some a ↔
      ∃ raw, field = some raw ∧ Address.ofRaw raw = .ok a ∧ a.toNat ≠ 0 := by
  have zero : (!a.isZero) = true ↔ a.toNat ≠ 0 := by
    rw [Bool.not_eq_true', ← Bool.not_eq_true, Address.isZero_iff]
  simp only [knownAddress?, Option.filter_eq_some_iff, Option.bind_eq_some_iff, zero,
    Address.ofRaw_eq_ok_iff, ← and_assoc, exists_and_right]

namespace Address

/-- The result of `ofRaw` for the text `raw`. -/
structure Reading (raw : String) : Prop where
  /-- The address `a` is read iff `raw` spells its number. -/
  ok_iff : ∀ a, ofRaw raw = .ok a ↔ Spelled raw.toList a.toNat
  /-- Some address is read iff `raw` spells a number. -/
  isOk_iff : (∃ a, ofRaw raw = .ok a) ↔ ∃ n, Spelled raw.toList n
  /-- Otherwise `ofRaw raw` is the fault `.invalidAddress raw`. -/
  error_iff : ∀ fault, ofRaw raw = .error fault ↔
    (¬ ∃ n, Spelled raw.toList n) ∧ fault = .invalidAddress raw
  /-- The message of the fault ends with `raw`, unchanged. -/
  told : (Fault.invalidAddress raw).code = "INPUT_INVALID_ADDRESS" ∧
    raw.toList <:+ (Fault.invalidAddress raw).message.toList
  /-- Reading and writing again what was read and written gives the same text. -/
  settled : ∀ t, (ofRaw raw).map text = .ok t → (ofRaw t).map text = .ok t

/-- `a.text` has the form of an address and is read back. -/
structure Writing (a : Address) : Prop where
  /-- `a.text` is `0x` and forty digits that denote the address. -/
  spelling : ∃ ds, a.text.toList = '0' :: 'x' :: ds ∧ ds.length = 40 ∧ Text.Hex.Denote ds a.toNat
  /-- `a` is read back from every text that differs from `a.text` in the case of letters only. -/
  readBack : ∀ raw, asciiLower raw.toList = asciiLower a.text.toList → ofRaw raw = .ok a

/-- `ofRaw raw` is as `Reading` says, for every text. -/
theorem reading (raw : String) : Reading raw where
  ok_iff a := ofRaw_eq_ok_iff.trans ofText?_eq_some_iff_spelled
  isOk_iff := by
    simp only [ofRaw_eq_ok_iff, ofText?_eq_some_iff_spelled]
    constructor
    · rintro ⟨a, spelled⟩
      exact ⟨_, spelled⟩
    · rintro ⟨n, spelled⟩
      obtain ⟨a, -, rfl⟩ := exists_of_spelled spelled
      exact ⟨a, spelled⟩
  error_iff fault := by rw [ofRaw_eq_error_iff, ofText?_eq_none_iff]
  told := by
    refine ⟨rfl, ?_⟩
    show raw.toList <:+ ("Invalid address: " ++ raw).toList
    rw [String.toList_append]
    exact List.suffix_append ..
  settled t written := by
    cases read : ofRaw raw with
    | error fault =>
      rw [read] at written
      cases written
    | ok a =>
      rw [read] at written
      obtain rfl : a.text = t := Except.ok.inj written
      rw [ofRaw_text]
      rfl

theorem writing (a : Address) : Writing a where
  spelling := ⟨a.checksummed, String.toList_ofList, a.length_checksummed,
    Text.Hex.denote_of_toBytes? a.toBytes?_checksummed⟩
  readBack _ := ofRaw_of_recased

/-- **Reading and writing addresses.** Every text is read as the number its forty digits denote or
is a fault; every address is written in forty digits that are read back in any case; no two
addresses are written alike; and an explorer tells one just when its field is read as one that is
not zero. -/
theorem reading_and_writing :
    (∀ raw, Reading raw) ∧ (∀ a, Writing a) ∧ Function.Injective text ∧
      ∀ (explorer : Explorer) (a : Address),
        (explorer.admin? = some a ↔
          ∃ raw, explorer.proxyAdmin = some raw ∧ ofRaw raw = .ok a ∧ a.toNat ≠ 0) ∧
        (explorer.implementation? = some a ↔
          ∃ raw, explorer.implementation = some raw ∧ ofRaw raw = .ok a ∧ a.toNat ≠ 0) :=
  ⟨reading, writing, text_injective, fun _ _ =>
    ⟨Explorer.knownAddress?_eq_some_iff_ofRaw, Explorer.knownAddress?_eq_some_iff_ofRaw⟩⟩

end Address

end EvmRisk
