import ChainProfile.Proofs.Bytes
import ChainProfile.Script.Number
import Mathlib.Data.List.Basic

/-!
# Script numbers and their shortest forms

The last byte of a script number holds the sign in its top bit and seven bits of the
magnitude, so a form of `width` bytes holds the magnitudes whose double is below
`256 ^ width`.  A form is minimal exactly if it is as short as its magnitude allows.
Minimal forms with one value are equal, and encoding writes a minimal form that
decodes to the number encoded.
-/

namespace ChainProfile.ScriptNumber

/-! ## The sign and the magnitude of a form -/

theorem toNat_and_low (byte : UInt8) : (byte &&& 0x7f).toNat = byte.toNat % 128 := by
  rw [UInt8.toNat_and]
  exact Nat.and_two_pow_sub_one_eq_mod byte.toNat 7

theorem toNat_or_high {byte : UInt8} (low : byte < 0x80) :
    (byte ||| 0x80).toNat = byte.toNat + 128 := by
  have seven : byte.toNat < 2 ^ 7 := UInt8.lt_iff_toNat_lt.mp low
  rw [UInt8.toNat_or, Nat.or_comm, Nat.add_comm]
  exact (Nat.two_pow_add_eq_or_of_lt seven 1).symm

/-- The magnitude of a form with the given last byte. -/
def magnitude (front : Bytes) (last : UInt8) : Nat :=
  ofLittleEndian front + 256 ^ front.length * (last.toNat % 128)

theorem decode_append_singleton (front : Bytes) (last : UInt8) :
    decode (front ++ [last]) =
      if 0x80 ≤ last then -(magnitude front last : Int) else magnitude front last := by
  have number : ofLittleEndian (front ++ [last &&& 0x7f]) = magnitude front last := by
    rw [ofLittleEndian_append, ofLittleEndian, ofLittleEndian, toNat_and_low]
    rfl
  simp only [decode, List.getLast?_concat, List.dropLast_concat, number]

theorem natAbs_decode_append_singleton (front : Bytes) (last : UInt8) :
    (decode (front ++ [last])).natAbs = magnitude front last := by
  rw [decode_append_singleton]
  split
  · rw [Int.natAbs_neg, Int.natAbs_natCast]
  · rw [Int.natAbs_natCast]

theorem two_mul_natAbs_decode_lt (bytes : Bytes) :
    2 * (decode bytes).natAbs < 256 ^ bytes.length := by
  rcases List.eq_nil_or_concat' bytes with rfl | ⟨front, last, rfl⟩
  · simp [decode]
  · have below := ofLittleEndian_lt front
    have seven : 256 ^ front.length * (last.toNat % 128) ≤ 256 ^ front.length * 127 :=
      Nat.mul_le_mul_left _ (by omega)
    rw [natAbs_decode_append_singleton, magnitude, List.length_append, List.length_singleton,
      Nat.pow_succ]
    omega

theorem byteLength_le_length (bytes : Bytes) :
    byteLength (2 * (decode bytes).natAbs) ≤ bytes.length :=
  byteLength_le_iff.mpr (two_mul_natAbs_decode_lt bytes)

/-- No byte can be spared exactly if the bytes before the last one have no room for the magnitude
and a sign. -/
theorem isMinimal_append_singleton_iff {front : Bytes} {last : UInt8} :
    IsMinimal (front ++ [last]) ↔ 256 ^ front.length ≤ 2 * magnitude front last := by
  have low : last &&& 0x7f ≠ 0 ↔ last.toNat % 128 ≠ 0 := by
    rw [Ne, ← UInt8.toNat_inj, toNat_and_low]
    rfl
  rcases List.eq_nil_or_concat' front with rfl | ⟨front, before, rfl⟩
  · simp only [IsMinimal, List.nil_append, List.reverse_singleton, low, magnitude, ofLittleEndian,
      List.length_nil]
    omega
  · have below := ofLittleEndian_lt front
    simp only [IsMinimal, List.reverse_concat, low, magnitude, ofLittleEndian_append,
      ofLittleEndian, List.length_append, List.length_singleton, Nat.pow_succ,
      UInt8.le_iff_toNat_le, UInt8.reduceToNat, Nat.mul_zero, Nat.add_zero]
    generalize 256 ^ front.length = capacity at below ⊢
    by_cases signOnly : last.toNat % 128 = 0
    · have double : capacity * before.toNat < capacity * 128 ↔ before.toNat < 128 :=
        Nat.mul_lt_mul_left (Nat.lt_of_le_of_lt (Nat.zero_le _) below)
      have most : before.toNat < 128 → capacity * before.toNat ≤ capacity * 127 :=
        fun few => Nat.mul_le_mul_left _ (by omega)
      simp only [signOnly]
      omega
    · have least : capacity * 256 * 1 ≤ capacity * 256 * (last.toNat % 128) :=
        Nat.mul_le_mul_left _ (by omega)
      omega

/-- A form is minimal exactly if no shorter form could hold its magnitude. -/
theorem isMinimal_iff_length_eq {bytes : Bytes} :
    IsMinimal bytes ↔ bytes.length = byteLength (2 * (decode bytes).natAbs) := by
  rcases List.eq_nil_or_concat' bytes with rfl | ⟨front, last, rfl⟩
  · simp [IsMinimal, decode, byteLength]
  · have enough := byteLength_le_length (front ++ [last])
    have fewer : byteLength (2 * (decode (front ++ [last])).natAbs) ≤ front.length ↔
        2 * magnitude front last < 256 ^ front.length := by
      rw [natAbs_decode_append_singleton, byteLength_le_iff]
    rw [isMinimal_append_singleton_iff, ← Nat.not_lt, ← fewer]
    rw [List.length_append, List.length_singleton] at enough ⊢
    omega

theorem IsMinimal.length_le {first second : Bytes} (minimal : IsMinimal first)
    (same : decode first = decode second) : first.length ≤ second.length := by
  rw [isMinimal_iff_length_eq.mp minimal, same]
  exact byteLength_le_length second

theorem eq_and_eq_of_magnitude_eq {front otherFront : Bytes} {last otherLast : UInt8}
    (sameWidth : front.length = otherFront.length)
    (same : magnitude front last = magnitude otherFront otherLast) :
    front = otherFront ∧ last.toNat % 128 = otherLast.toNat % 128 := by
  have below := ofLittleEndian_lt front
  have otherBelow := ofLittleEndian_lt otherFront
  have positive : 0 < 256 ^ otherFront.length := Nat.pow_pos (by decide)
  rw [magnitude, magnitude, sameWidth] at same
  rw [sameWidth] at below
  constructor
  · apply eq_of_ofLittleEndian_eq sameWidth
    have sameLow := congrArg (· % 256 ^ otherFront.length) same
    simpa only [Nat.add_mul_mod_self_left, Nat.mod_eq_of_lt below, Nat.mod_eq_of_lt otherBelow]
      using sameLow
  · have sameHigh := congrArg (· / 256 ^ otherFront.length) same
    simpa only [Nat.add_mul_div_left _ _ positive, Nat.div_eq_of_lt below,
      Nat.div_eq_of_lt otherBelow, Nat.zero_add] using sameHigh

/-- Forms of one length with one value are equal, apart from the two forms of zero. -/
theorem eq_of_decode_eq {first second : Bytes} (nonzero : decode first ≠ 0)
    (sameLength : first.length = second.length) (same : decode first = decode second) :
    first = second := by
  rcases List.eq_nil_or_concat' first with rfl | ⟨front, last, rfl⟩
  · exact absurd rfl nonzero
  · rcases List.eq_nil_or_concat' second with rfl | ⟨otherFront, otherLast, rfl⟩
    · simp at sameLength
    · have sameWidth : front.length = otherFront.length := by simpa using sameLength
      have sameMagnitude : magnitude front last = magnitude otherFront otherLast := by
        rw [← natAbs_decode_append_singleton, ← natAbs_decode_append_singleton, same]
      have sameSign : 0x80 ≤ last ↔ 0x80 ≤ otherLast := by
        rw [decode_append_singleton, sameMagnitude] at same nonzero
        rw [decode_append_singleton] at same
        by_cases negative : 0x80 ≤ last
        · by_cases otherNegative : 0x80 ≤ otherLast
          · exact iff_of_true negative otherNegative
          · rw [if_pos negative] at same nonzero
            rw [if_neg otherNegative] at same
            omega
        · by_cases otherNegative : 0x80 ≤ otherLast
          · rw [if_neg negative] at same nonzero
            rw [if_pos otherNegative] at same
            omega
          · exact iff_of_false negative otherNegative
      rcases eq_and_eq_of_magnitude_eq sameWidth sameMagnitude with ⟨sameFront, sameRest⟩
      have sameLast : last = otherLast := by
        rw [UInt8.le_iff_toNat_le, UInt8.le_iff_toNat_le] at sameSign
        have bound := last.toNat_lt
        have otherBound := otherLast.toNat_lt
        apply UInt8.toNat_inj.mp
        simp only [UInt8.reduceToNat] at sameSign
        omega
      rw [sameFront, sameLast]

theorem IsMinimal.length_lt {first second : Bytes} (minimal : IsMinimal first)
    (same : decode first = decode second) (other : second ≠ first) :
    first.length < second.length := by
  apply Nat.lt_of_le_of_ne (minimal.length_le same)
  intro sameLength
  apply other
  by_cases zero : decode first = 0
  · have empty : first.length = 0 := by
      rw [isMinimal_iff_length_eq.mp minimal, zero]
      rfl
    have otherEmpty : second.length = 0 := sameLength ▸ empty
    rw [List.eq_nil_of_length_eq_zero empty, List.eq_nil_of_length_eq_zero otherEmpty]
  · exact (eq_of_decode_eq zero sameLength same).symm

/-- A number has one minimal form. -/
theorem IsMinimal.eq {first second : Bytes} (minimal : IsMinimal first)
    (otherMinimal : IsMinimal second) (same : decode first = decode second) : first = second := by
  by_contra different
  have shorter := otherMinimal.length_lt same.symm different
  exact absurd (minimal.length_le same) (Nat.not_le_of_lt shorter)

/-! ## What encoding writes -/

/-- The bytes that a positive number takes do not end in zero. -/
theorem exists_littleEndian_byteLength_eq {number : Nat} (positive : 0 < number) :
    ∃ front last, littleEndian (byteLength number) number = front ++ [last] ∧ 0 < last.toNat ∧
      ofLittleEndian front + 256 ^ front.length * last.toNat = number := by
  have fits : number < 256 ^ byteLength number := byteLength_le_iff.mp (Nat.le_refl _)
  have restored := ofLittleEndian_littleEndian (byteLength number) number
  have length := length_littleEndian (byteLength number) number
  rw [Nat.mod_eq_of_lt fits] at restored
  rcases List.eq_nil_or_concat' (littleEndian (byteLength number) number) with
    empty | ⟨front, last, whole⟩
  · rw [empty, ofLittleEndian] at restored
    omega
  · rw [whole, ofLittleEndian_append, ofLittleEndian, ofLittleEndian, Nat.mul_zero,
      Nat.add_zero] at restored
    rw [whole, List.length_append, List.length_singleton] at length
    refine ⟨front, last, whole, ?_, restored⟩
    -- Without its last byte the number would be a byte shorter.
    apply Nat.pos_of_ne_zero
    intro zero
    have below := ofLittleEndian_lt front
    rw [zero, Nat.mul_zero, Nat.add_zero] at restored
    rw [restored, ← byteLength_le_iff] at below
    omega

theorem encode_eq_ite {value : Int64} {front : Bytes} {last : UInt8}
    (body : littleEndian (byteLength value.toInt.natAbs) value.toInt.natAbs = front ++ [last]) :
    encode value =
      if 0x80 ≤ last then front ++ [last] ++ [if value < 0 then 0x80 else 0x00]
      else if value < 0 then front ++ [last ||| 0x80]
      else front ++ [last] := by
  simp only [encode, body, List.getLast?_concat, List.dropLast_concat]

/-- A number is written with its own sign and magnitude, and no byte is spare. -/
theorem exists_encode_eq_append {value : Int64} (nonzero : value ≠ 0) :
    ∃ front last, encode value = front ++ [last] ∧
      magnitude front last = value.toInt.natAbs ∧ (0x80 ≤ last ↔ value.toInt < 0) ∧
      256 ^ front.length ≤ 2 * value.toInt.natAbs := by
  have positive : 0 < value.toInt.natAbs := by
    rw [Int.natAbs_pos, ← Int64.toInt_zero, Ne, Int64.toInt_inj]
    exact nonzero
  have sign : value < 0 ↔ value.toInt < 0 := Int64.lt_iff_toInt_lt
  rcases exists_littleEndian_byteLength_eq positive with ⟨front, last, body, used, number⟩
  have written := encode_eq_ite body
  by_cases high : 0x80 ≤ last
  · have full : 256 ^ front.length * 128 ≤ 256 ^ front.length * last.toNat :=
      Nat.mul_le_mul_left _ (UInt8.le_iff_toNat_le.mp high)
    have whole : ofLittleEndian (front ++ [last]) = value.toInt.natAbs := by
      simpa [ofLittleEndian_append, ofLittleEndian] using number
    rw [if_pos high] at written
    refine ⟨front ++ [last], _, written, ?_, ?_, ?_⟩
    · rw [magnitude, whole]
      split <;> simp
    · rw [← sign]
      split
      · next negative => simp [negative]
      · next positive => simp [positive]
    · rw [List.length_append, List.length_singleton, Nat.pow_succ]
      omega
  · have low : last < 0x80 := UInt8.not_le.mp high
    have seven : last.toNat < 128 := UInt8.lt_iff_toNat_lt.mp low
    have least : 256 ^ front.length * 1 ≤ 256 ^ front.length * last.toNat :=
      Nat.mul_le_mul_left _ used
    rw [if_neg high] at written
    by_cases negative : value < 0
    · rw [if_pos negative] at written
      refine ⟨front, last ||| 0x80, written, ?_, ?_, by omega⟩
      · rw [magnitude, toNat_or_high low, Nat.add_mod_right, Nat.mod_eq_of_lt seven, number]
      · rw [← sign, UInt8.le_iff_toNat_le, toNat_or_high low]
        exact iff_of_true (Nat.le_add_left _ _) negative
    · rw [if_neg negative] at written
      refine ⟨front, last, written, ?_, ?_, by omega⟩
      · rw [magnitude, Nat.mod_eq_of_lt seven, number]
      · rw [← sign]
        exact iff_of_false high negative

theorem encode_zero : encode 0 = [] := by
  decide

theorem decode_encode (value : Int64) : decode (encode value) = value.toInt := by
  by_cases zero : value = 0
  · rw [zero, encode_zero]
    rfl
  · rcases exists_encode_eq_append zero with ⟨front, last, written, number, sign, _⟩
    rw [written, decode_append_singleton, number]
    split
    · next negative =>
        have below := sign.mp negative
        omega
    · next positive =>
        have above := mt sign.mpr positive
        omega

theorem isMinimal_encode (value : Int64) : IsMinimal (encode value) := by
  by_cases zero : value = 0
  · rw [zero, encode_zero]
    trivial
  · rcases exists_encode_eq_append zero with ⟨front, last, written, number, _, full⟩
    rw [written, isMinimal_append_singleton_iff, number]
    exact full

theorem length_encode_le (value : Int64) : (encode value).length ≤ 9 := by
  have least := Int64.le_toInt value
  have greatest := Int64.toInt_lt value
  rw [isMinimal_iff_length_eq.mp (isMinimal_encode value), decode_encode, byteLength_le_iff]
  omega

/-- Every number is read back from its encoding, which has at most nine bytes and is shorter than
any other form of the number.  Conversely a minimal form of a 64-bit number is its encoding. -/
theorem decode_encode_and_encode_decode :
    (∀ value : Int64, decode (encode value) = value.toInt ∧ (encode value).length ≤ 9 ∧
      ∀ bytes, decode bytes = value.toInt → bytes ≠ encode value →
        (encode value).length < bytes.length) ∧
      ∀ bytes, IsMinimal bytes → Int64.minValue.toInt ≤ decode bytes →
        decode bytes ≤ Int64.maxValue.toInt → encode (Int64.ofInt (decode bytes)) = bytes := by
  constructor
  · intro value
    refine ⟨decode_encode value, length_encode_le value, ?_⟩
    intro bytes same other
    apply (isMinimal_encode value).length_lt _ other
    rw [decode_encode, same]
  · intro bytes minimal least greatest
    apply (isMinimal_encode _).eq minimal
    rw [decode_encode, Int64.toInt_ofInt_of_le least (Int.lt_of_le_sub_one greatest)]

/-- The least number needs a ninth byte for its sign, five can be written with a byte to spare, and
a magnitude that ends in a full byte has its sign in a byte of its own. -/
theorem decode_encode_and_encode_decode_extremes :
    encode Int64.minValue = [0, 0, 0, 0, 0, 0, 0, 0x80, 0x80] ∧
      decode (encode Int64.minValue) = Int64.minValue.toInt ∧
      decode [5, 0] = Int64.toInt 5 ∧ [5, 0] ≠ encode 5 ∧ (encode 5).length < 2 ∧
      IsMinimal [0xff, 0x80] ∧ decode [0xff, 0x80] = -255 ∧
      encode (Int64.ofInt (decode [0xff, 0x80])) = [0xff, 0x80] := by
  rcases decode_encode_and_encode_decode with ⟨shortest, canonical⟩
  have padded : decode [5, 0] = Int64.toInt 5 := by decide
  have spare : [5, 0] ≠ encode 5 := by decide
  have minimal : IsMinimal [0xff, 0x80] := .inr (by decide)
  exact ⟨by decide, (shortest Int64.minValue).1, padded, spare, (shortest 5).2.2 _ padded spare,
    minimal, by decide, canonical _ minimal (by decide) (by decide)⟩

end ChainProfile.ScriptNumber
