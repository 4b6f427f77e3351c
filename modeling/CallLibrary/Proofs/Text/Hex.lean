import Mathlib.Logic.Function.Basic
import CallLibrary.Proofs.Text.OneLine
import CallLibrary.Text.Hex

/-!
# Reading base sixteen

Digits in base sixteen are read two by two, one byte for each pair. Bytes that were written are read
back, so that writing loses nothing. Digits of either case are read, and writing what they spell
gives the same digits in lower case.
-/

namespace CallLibrary.Text

/-- A digit as it is written. -/
def IsLowerHexDigit (c : Char) : Prop := ('0' ≤ c ∧ c ≤ '9') ∨ ('a' ≤ c ∧ c ≤ 'f')

instance (c : Char) : Decidable (IsLowerHexDigit c) :=
  inferInstanceAs (Decidable (('0' ≤ c ∧ c ≤ '9') ∨ ('a' ≤ c ∧ c ≤ 'f')))

/-! ## Single digits -/

theorem hexValue?_hexDigit {n : Nat} (small : n < 16) : hexValue? (hexDigit n) = some n := by
  have every : ∀ n ∈ List.range 16, hexValue? (hexDigit n) = some n := by decide
  exact every n (List.mem_range.mpr small)

theorem isLowerHexDigit_hexDigit {n : Nat} (small : n < 16) : IsLowerHexDigit (hexDigit n) := by
  have every : ∀ n ∈ List.range 16, IsLowerHexDigit (hexDigit n) := by decide
  exact every n (List.mem_range.mpr small)

/-- Writing the value of a digit gives the digit in lower case. -/
theorem hexDigit_of_hexValue? {c : Char} {n : Nat} (value : hexValue? c = some n) :
    n < 16 ∧ hexDigit n = c.toLower := by
  unfold hexValue? at value
  split at value
  next decimal =>
    cases value
    have least : 48 ≤ c.toNat := UInt32.le_iff_toNat_le.mp decimal.1
    have greatest : c.toNat ≤ 57 := UInt32.le_iff_toNat_le.mp decimal.2
    have code : 48 + (c.toNat - 48) = c.toNat := by omega
    refine ⟨by omega, ?_⟩
    rw [hexDigit, if_pos (by omega), code, Char.ofNat_toNat, toLower_of_not_capital (by omega)]
  next =>
    split at value
    next small =>
      cases value
      have least : 97 ≤ c.toNat := UInt32.le_iff_toNat_le.mp small.1
      have greatest : c.toNat ≤ 102 := UInt32.le_iff_toNat_le.mp small.2
      have code : 87 + (c.toNat - 87) = c.toNat := by omega
      refine ⟨by omega, ?_⟩
      rw [hexDigit, if_neg (by omega), code, Char.ofNat_toNat, toLower_of_not_capital (by omega)]
    next =>
      split at value
      next capital =>
        cases value
        have least : 65 ≤ c.toNat := UInt32.le_iff_toNat_le.mp capital.1
        have greatest : c.toNat ≤ 70 := UInt32.le_iff_toNat_le.mp capital.2
        have code : 87 + (c.toNat - 55) = c.toNat + 32 := by omega
        refine ⟨by omega, ?_⟩
        rw [hexDigit, if_neg (by omega), code, toLower_of_capital (by omega)]
      next => cases value

/-! ## Digits of bytes -/

theorem length_hexBytes (bytes : List UInt8) : (hexBytes bytes).length = 2 * bytes.length := by
  induction bytes with
  | nil => rfl
  | cons byte rest ih =>
    simp only [hexBytes, List.length_cons, ih]
    omega

theorem isLowerHexDigit_of_mem_hexBytes {bytes : List UInt8} :
    ∀ c ∈ hexBytes bytes, IsLowerHexDigit c := by
  induction bytes with
  | nil => exact List.forall_mem_nil _
  | cons byte rest ih =>
    have bound := byte.toNat_lt
    have high := isLowerHexDigit_hexDigit (n := byte.toNat / 16) (by omega)
    have low := isLowerHexDigit_hexDigit (n := byte.toNat % 16) (by omega)
    exact List.forall_mem_cons.mpr ⟨high, List.forall_mem_cons.mpr ⟨low, ih⟩⟩

/-! ## Bytes of digits -/

theorem bytesOfHex?_eq_some {high low : Char} {rest : List Char} {bytes : List UInt8} :
    bytesOfHex? (high :: low :: rest) = some bytes ↔
      ∃ m n others, hexValue? high = some m ∧ hexValue? low = some n ∧
        bytesOfHex? rest = some others ∧ bytes = UInt8.ofNat (16 * m + n) :: others := by
  simp only [bytesOfHex?, Option.bind_eq_bind, Option.bind_eq_some_iff, Option.pure_def,
    Option.some.injEq]
  constructor
  · rintro ⟨m, isHigh, n, isLow, others, read, rfl⟩
    exact ⟨m, n, others, isHigh, isLow, read, rfl⟩
  · rintro ⟨m, n, others, isHigh, isLow, read, rfl⟩
    exact ⟨m, isHigh, n, isLow, others, read, rfl⟩

/-- Bytes are read back as they were written. -/
theorem bytesOfHex?_hexBytes (bytes : List UInt8) : bytesOfHex? (hexBytes bytes) = some bytes := by
  induction bytes with
  | nil => rfl
  | cons byte rest ih =>
    have bound := byte.toNat_lt
    have whole : 16 * (byte.toNat / 16) + byte.toNat % 16 = byte.toNat := by omega
    rw [hexBytes, bytesOfHex?_eq_some]
    refine ⟨_, _, rest, hexValue?_hexDigit (by omega), hexValue?_hexDigit (by omega), ih, ?_⟩
    rw [whole, UInt8.ofNat_toNat]

theorem hexBytes_injective : Function.Injective hexBytes := by
  intro bytes others same
  have read := bytesOfHex?_hexBytes bytes
  rw [same, bytesOfHex?_hexBytes] at read
  exact (Option.some.inj read).symm

/-- Writing what digits spell gives the digits in lower case. -/
theorem hexBytes_of_bytesOfHex? {digits : List Char} {bytes : List UInt8}
    (read : bytesOfHex? digits = some bytes) : hexBytes bytes = digits.map Char.toLower := by
  fun_induction bytesOfHex? digits generalizing bytes with
  | case1 =>
    cases read
    rfl
  | case2 => cases read
  | case3 high low rest ih =>
    obtain ⟨m, n, others, isHigh, isLow, later, rfl⟩ := bytesOfHex?_eq_some.mp read
    obtain ⟨highSmall, highDigit⟩ := hexDigit_of_hexValue? isHigh
    obtain ⟨lowSmall, lowDigit⟩ := hexDigit_of_hexValue? isLow
    have byte : (UInt8.ofNat (16 * m + n)).toNat = 16 * m + n := by
      rw [UInt8.toNat_ofNat']
      omega
    have highHalf : (16 * m + n) / 16 = m := by omega
    have lowHalf : (16 * m + n) % 16 = n := by omega
    rw [hexBytes, byte, highHalf, lowHalf, highDigit, lowDigit, ih later, List.map_cons,
      List.map_cons]

/-- Two digits for each byte, and nothing but digits, is all that reading asks for. -/
theorem exists_bytesOfHex?_iff (digits : List Char) (size : Nat) :
    (∃ bytes, bytesOfHex? digits = some bytes ∧ bytes.length = size) ↔
      digits.length = 2 * size ∧ ∀ c ∈ digits, isHexDigit c = true := by
  fun_induction bytesOfHex? digits generalizing size with
  | case1 =>
    constructor
    · rintro ⟨bytes, read, rfl⟩
      cases read
      exact ⟨rfl, List.forall_mem_nil _⟩
    · rintro ⟨length, _⟩
      rw [List.length_nil] at length
      exact ⟨[], rfl, by rw [List.length_nil]; omega⟩
  | case2 digit =>
    constructor
    · rintro ⟨bytes, read, _⟩
      cases read
    · rintro ⟨length, _⟩
      rw [List.length_singleton] at length
      omega
  | case3 high low rest ih =>
    constructor
    · rintro ⟨bytes, read, rfl⟩
      obtain ⟨m, n, others, isHigh, isLow, later, rfl⟩ := bytesOfHex?_eq_some.mp read
      obtain ⟨length, each⟩ := (ih others.length).mp ⟨others, later, rfl⟩
      refine ⟨?_, List.forall_mem_cons.mpr ⟨?_, List.forall_mem_cons.mpr ⟨?_, each⟩⟩⟩
      · simp only [List.length_cons]
        omega
      · rw [isHexDigit, isHigh]
        rfl
      · rw [isHexDigit, isLow]
        rfl
    · rintro ⟨length, each⟩
      obtain ⟨highDigit, lowDigit, others⟩ :
          isHexDigit high = true ∧ isHexDigit low = true ∧ ∀ c ∈ rest, isHexDigit c = true := by
        simpa using each
      obtain ⟨m, isHigh⟩ := Option.isSome_iff_exists.mp highDigit
      obtain ⟨n, isLow⟩ := Option.isSome_iff_exists.mp lowDigit
      simp only [List.length_cons] at length
      obtain ⟨bytes, later, count⟩ := (ih (size - 1)).mpr ⟨by omega, others⟩
      refine ⟨_, bytesOfHex?_eq_some.mpr ⟨m, n, bytes, isHigh, isLow, later, rfl⟩, ?_⟩
      rw [List.length_cons]
      omega

example : bytesOfHex? "7379aB".toList = some [0x73, 0x79, 0xAB] ∧
    bytesOfHex? "737".toList = none := by
  decide

end CallLibrary.Text
