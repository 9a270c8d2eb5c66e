import ChainProfile.Hex
import ChainProfile.Proofs.Bytes

/-!
# Reading and writing hexadecimal digits

A byte is a digit exactly if it has a value, and writing the value gives the digit in lower
case.  So digits that pair up are always read, and the bytes that are read are written as the
same digits in lower case; a byte that is no digit spoils the reading wherever it stands.
A number in a fixed count of digits is read back as far as the digits reach.
-/

namespace ChainProfile.Hex

/-- The digits of either case, as bytes of ASCII. -/
def IsDigit (byte : UInt8) : Prop := byte ∈ utf8 "0123456789abcdefABCDEF"

instance (byte : UInt8) : Decidable (IsDigit byte) := inferInstanceAs (Decidable (byte ∈ _))

/-- The character of a byte within ASCII, in lower case. -/
def lowered (byte : UInt8) : Char := (Char.ofNat byte.toNat).toLower

/-! ## One digit -/

theorem value?_eq_none_iff {byte : UInt8} : value? byte = none ↔ ¬IsDigit byte := by
  have table : ∀ code < 256,
      (value? (UInt8.ofNat code) = none ↔ ¬IsDigit (UInt8.ofNat code)) := by
    decide +kernel
  simpa using table byte.toNat byte.toNat_lt

/-- The value of a digit is below sixteen and is written as the digit in lower case. -/
theorem lt_and_digit_eq_of_value? {byte : UInt8} {value : Nat} (read : value? byte = some value) :
    value < 16 ∧ digit value = lowered byte := by
  have table : ∀ code < 256, ∀ value ∈ value? (UInt8.ofNat code),
      value < 16 ∧ digit value = lowered (UInt8.ofNat code) := by
    decide +kernel
  have found := table byte.toNat byte.toNat_lt value
  simp only [UInt8.ofNat_toNat] at found
  exact found read

theorem exists_value?_eq_some {byte : UInt8} (digit : IsDigit byte) :
    ∃ value, value? byte = some value := by
  cases read : value? byte with
  | none => exact absurd digit (value?_eq_none_iff.mp read)
  | some value => exact ⟨value, rfl⟩

theorem isDigit_of_value? {byte : UInt8} {value : Nat} (read : value? byte = some value) : IsDigit byte := by
  by_cases digit : IsDigit byte
  · exact digit
  · rw [value?_eq_none_iff.mpr digit] at read
    cases read

theorem lt_of_isDigit {byte : UInt8} (digit : IsDigit byte) : byte < 0x80 := by
  have table : ∀ byte ∈ utf8 "0123456789abcdefABCDEF", byte < 0x80 := by decide +kernel
  exact table byte digit

theorem toNat_digit_lt {value : Nat} (small : value < 16) : (digit value).toNat < 0x80 := by
  have table : ∀ value < 16, (digit value).toNat < 0x80 := by decide +kernel
  exact table value small

theorem value?_digit {value : Nat} (small : value < 16) :
    value? (UInt8.ofNat (digit value).toNat) = some value := by
  have table : ∀ value < 16, value? (UInt8.ofNat (digit value).toNat) = some value := by
    decide +kernel
  exact table value small

/-! ## Writing and reading back -/

/-- The digits of a byte as bytes of ASCII. -/
def digitBytes (byte : UInt8) : Bytes := (digits byte).map fun digit => UInt8.ofNat digit.toNat

variable {byte : UInt8}

theorem div_lt_and_mod_lt (byte : UInt8) : byte.toNat / 16 < 16 ∧ byte.toNat % 16 < 16 := by
  have bound := byte.toNat_lt
  omega

theorem flatMap_digits (byte : UInt8) :
    (digits byte).flatMap String.utf8EncodeChar = digitBytes byte := by
  rcases div_lt_and_mod_lt byte with ⟨high, low⟩
  simp [digits, digitBytes, utf8EncodeChar_eq_singleton (toNat_digit_lt high),
    utf8EncodeChar_eq_singleton (toNat_digit_lt low)]

theorem utf8_encode (bytes : Bytes) : utf8 (encode bytes) = bytes.flatMap digitBytes := by
  simp [utf8, encode, List.flatMap_assoc, flatMap_digits]

theorem decodePairs?_digitBytes_append (byte : UInt8) (rest : Bytes) :
    decodePairs? (digitBytes byte ++ rest) = (decodePairs? rest).map (byte :: ·) := by
  rcases div_lt_and_mod_lt byte with ⟨high, low⟩
  have joined : 16 * (byte.toNat / 16) + byte.toNat % 16 = byte.toNat := by omega
  simp only [digitBytes, digits, List.map_cons, List.map_nil, List.cons_append, List.nil_append,
    decodePairs?, value?_digit high, value?_digit low, Option.bind_eq_bind, Option.bind_some,
    joined, UInt8.ofNat_toNat]
  cases decodePairs? rest <;> rfl

/-- What is written is read back. -/
theorem decode?_encode (bytes : Bytes) : decode? (encode bytes) = some bytes := by
  rw [decode?, utf8_encode]
  induction bytes with
  | nil => rfl
  | cons byte rest ih =>
      rw [List.flatMap_cons, decodePairs?_digitBytes_append, ih]
      rfl

/-! ## Reading and writing back -/

theorem digits_ofNat {high low : Nat} (highSmall : high < 16) (lowSmall : low < 16) :
    digits (UInt8.ofNat (16 * high + low)) = [digit high, digit low] := by
  have represented : (UInt8.ofNat (16 * high + low)).toNat = 16 * high + low :=
    UInt8.toNat_ofNat_of_lt' (by simp only [UInt8.size]; omega)
  have highHalf : (16 * high + low) / 16 = high := by omega
  have lowHalf : (16 * high + low) % 16 = low := by omega
  simp only [digits, represented, highHalf, lowHalf]

/-- Paired digits are read as bytes that are written as the digits in lower case. -/
theorem exists_decodePairs?_eq_some {source : Bytes} (paired : source.length % 2 = 0)
    (allDigits : ∀ byte ∈ source, IsDigit byte) :
    ∃ bytes, decodePairs? source = some bytes ∧ bytes.flatMap digits = source.map lowered := by
  fun_induction decodePairs? source with
  | case1 => exact ⟨[], rfl, rfl⟩
  | case2 => simp at paired
  | case3 high low rest ih =>
      simp only [List.forall_mem_cons] at allDigits
      rcases allDigits with ⟨highDigit, lowDigit, restDigits⟩
      rcases exists_value?_eq_some highDigit with ⟨highValue, highRead⟩
      rcases exists_value?_eq_some lowDigit with ⟨lowValue, lowRead⟩
      rcases lt_and_digit_eq_of_value? highRead with ⟨highSmall, highWritten⟩
      rcases lt_and_digit_eq_of_value? lowRead with ⟨lowSmall, lowWritten⟩
      have restPaired : rest.length % 2 = 0 := by
        simp only [List.length_cons] at paired
        omega
      rcases ih restPaired restDigits with ⟨bytes, restRead, restWritten⟩
      refine ⟨UInt8.ofNat (16 * highValue + lowValue) :: bytes, ?_, ?_⟩
      · simp [highRead, lowRead, restRead]
      · simp only [List.flatMap_cons, digits_ofNat highSmall lowSmall, highWritten, lowWritten,
          restWritten, List.map_cons, List.cons_append, List.nil_append]

theorem decodePairs?_eq_none_of_mem {source : Bytes} (member : byte ∈ source)
    (foreign : ¬IsDigit byte) : decodePairs? source = none := by
  fun_induction decodePairs? source with
  | case1 => cases member
  | case2 => rfl
  | case3 high low rest ih =>
      simp only [List.mem_cons] at member
      rcases member with rfl | rfl | later
      · simp [value?_eq_none_iff.mpr foreign]
      · simp [value?_eq_none_iff.mpr foreign]
      · simp [ih later]

/-! ## Numbers -/

/-- The number that the digits of a text stand for, the highest digit first. -/
def number? (text : String) : Option Nat :=
  (utf8 text).foldlM (fun number byte => (value? byte).map fun value => 16 * number + value) 0

theorem utf8_fixed_succ (count value : Nat) :
    utf8 (fixed (count + 1) value) =
      utf8 (fixed count (value / 16)) ++ [UInt8.ofNat (digit (value % 16)).toNat] := by
  have lowest : value % 16 < 16 := Nat.mod_lt value (by decide)
  have shifted (place : Nat) : value >>> (4 * (place + 1)) = (value / 16) >>> (4 * place) := by
    rw [Nat.mul_succ, Nat.add_comm, Nat.shiftRight_add, Nat.shiftRight_eq_div_pow value 4]
  simp [utf8, fixed, List.range_succ_eq_map, List.flatMap_map, Function.comp_def, shifted,
    utf8EncodeChar_eq_singleton (toNat_digit_lt lowest), ← List.map_reverse]

/-- A number in a fixed count of digits. -/
theorem length_and_number?_fixed (count value : Nat) :
    (utf8 (fixed count value)).length = count ∧
      (∀ byte ∈ utf8 (fixed count value), IsDigit byte) ∧
      number? (fixed count value) = some (value % 16 ^ count) := by
  induction count generalizing value with
  | zero => simp [utf8, fixed, number?, Nat.mod_one]
  | succ count ih =>
      have read := value?_digit (Nat.mod_lt value (show 0 < 16 by decide))
      rcases ih (value / 16) with ⟨sized, digits, number⟩
      rw [number?] at number ⊢
      rw [utf8_fixed_succ]
      refine ⟨by simp [sized], ?_, ?_⟩
      · simp only [List.mem_append, List.mem_singleton]
        rintro byte (front | rfl)
        · exact digits byte front
        · exact isDigit_of_value? read
      · rw [List.foldlM_append, number]
        simp only [Option.bind_eq_bind, Option.bind_some, List.foldlM_cons, List.foldlM_nil, read,
          Option.map_some, Option.pure_def]
        rw [Nat.pow_succ', Nat.mod_mul, Nat.add_comm]

end ChainProfile.Hex
