import ChainProfile.Bytes
import Mathlib.Algebra.Group.Nat.Defs

/-!
# Laws of fields and characters

A field of some width holds the numbers below a power of 256.  Those numbers are
read back from it, and every field is the one of the number that is read from it.
A character within ASCII takes one byte, its code point; every other character
begins with a byte outside ASCII.  The UTF-8 form of a text determines the text.
-/

namespace ChainProfile

/-- Reading a field back gives the number modulo the field's capacity. -/
theorem ofLittleEndian_littleEndian (width value : Nat) :
    ofLittleEndian (littleEndian width value) = value % 256 ^ width := by
  induction width generalizing value with
  | zero => simp [littleEndian, ofLittleEndian, Nat.mod_one]
  | succ width ih =>
      have low : (UInt8.ofNat value).toNat = value % 256 := UInt8.toNat_ofNat'
      rw [littleEndian, ofLittleEndian, ih, low, Nat.pow_succ', Nat.mod_mul]

theorem ofLittleEndian_lt (bytes : Bytes) : ofLittleEndian bytes < 256 ^ bytes.length := by
  induction bytes with
  | nil => simp [ofLittleEndian]
  | cons byte rest ih =>
      have byteBound := byte.toNat_lt
      simp only [ofLittleEndian, List.length_cons, Nat.pow_succ]
      omega

theorem littleEndian_ofLittleEndian (bytes : Bytes) :
    littleEndian bytes.length (ofLittleEndian bytes) = bytes := by
  induction bytes with
  | nil => rfl
  | cons byte rest ih =>
      have byteBound := byte.toNat_lt
      have low : UInt8.ofNat (byte.toNat + 256 * ofLittleEndian rest) = byte := by
        apply UInt8.toNat_inj.mp
        rw [UInt8.toNat_ofNat']
        omega
      have high : (byte.toNat + 256 * ofLittleEndian rest) / 256 = ofLittleEndian rest := by
        omega
      simp only [List.length_cons, littleEndian, ofLittleEndian, low, high, ih]

/-- A field tells the number that is written in it. -/
theorem littleEndian_inj {width first second : Nat} (firstFits : first < 256 ^ width)
    (secondFits : second < 256 ^ width) :
    littleEndian width first = littleEndian width second ↔ first = second := by
  constructor
  · intro same
    have read := congrArg ofLittleEndian same
    simpa only [ofLittleEndian_littleEndian, Nat.mod_eq_of_lt firstFits,
      Nat.mod_eq_of_lt secondFits] using read
  · rintro rfl
    rfl

theorem ofBigEndian_bigEndian {width value : Nat} (fits : value < 256 ^ width) :
    ofBigEndian (bigEndian width value) = value := by
  rw [ofBigEndian, bigEndian, List.reverse_reverse, ofLittleEndian_littleEndian,
    Nat.mod_eq_of_lt fits]

theorem ofLittleEndian_append (first second : Bytes) :
    ofLittleEndian (first ++ second) =
      ofLittleEndian first + 256 ^ first.length * ofLittleEndian second := by
  induction first with
  | nil => simp [ofLittleEndian]
  | cons byte rest ih =>
      rw [List.cons_append, ofLittleEndian, ih, ofLittleEndian, List.length_cons, Nat.pow_succ',
        Nat.mul_add, Nat.mul_assoc, Nat.add_assoc]

theorem ofBigEndian_cons (first : UInt8) (rest : Bytes) :
    ofBigEndian (first :: rest) = first.toNat * 256 ^ rest.length + ofBigEndian rest := by
  simp only [ofBigEndian, List.reverse_cons, ofLittleEndian_append, ofLittleEndian,
    List.length_reverse]
  rw [Nat.mul_zero, Nat.add_zero, Nat.add_comm, Nat.mul_comm]

theorem ofBigEndian_lt (bytes : Bytes) : ofBigEndian bytes < 256 ^ bytes.length := by
  simpa [ofBigEndian] using ofLittleEndian_lt bytes.reverse

/-- Byte strings of one length that stand for one number are equal. -/
theorem eq_of_ofLittleEndian_eq {first second : Bytes} (sameLength : first.length = second.length)
    (same : ofLittleEndian first = ofLittleEndian second) : first = second := by
  calc first = littleEndian first.length (ofLittleEndian first) :=
        (littleEndian_ofLittleEndian first).symm
    _ = littleEndian second.length (ofLittleEndian second) := by rw [sameLength, same]
    _ = second := littleEndian_ofLittleEndian second

/-- A number fits a field exactly when the field is no narrower than the number is long. -/
theorem byteLength_le_iff {value width : Nat} : byteLength value ≤ width ↔ value < 256 ^ width := by
  unfold byteLength
  have capacity : 256 ^ width = 2 ^ (8 * width) := by rw [Nat.pow_mul]
  split
  · next zero =>
      have positive : 0 < 256 ^ width := Nat.pow_pos (by decide)
      omega
  · next nonzero =>
      rw [capacity, ← Nat.log2_lt nonzero]
      omega

theorem readLittleEndian_append {width value : Nat} (fits : value < 256 ^ width) (rest : Bytes) :
    readLittleEndian width (littleEndian width value ++ rest) = some (value, rest) := by
  have taken := takeField_append (littleEndian width value) rest
  rw [length_littleEndian] at taken
  simp [readLittleEndian, taken, ofLittleEndian_littleEndian, Nat.mod_eq_of_lt fits]

/-- The bytes consumed by reading a number are that number's field. -/
theorem eq_append_of_readLittleEndian {width value : Nat} {bytes rest : Bytes}
    (result : readLittleEndian width bytes = some (value, rest)) :
    bytes = littleEndian width value ++ rest ∧ value < 256 ^ width := by
  unfold readLittleEndian at result
  cases taken : takeField width bytes with
  | none => simp [taken] at result
  | some split =>
      obtain ⟨field, remaining⟩ := split
      obtain ⟨whole, fieldLength⟩ := eq_append_of_takeField taken
      simp only [taken, Option.map_some, Option.some.injEq, Prod.mk.injEq] at result
      obtain ⟨rfl, rfl⟩ := result
      subst fieldLength
      exact ⟨by rw [littleEndian_ofLittleEndian, whole], ofLittleEndian_lt field⟩

/-- A number that is not zero is one byte longer than its quotient by 256. -/
theorem byteLength_eq_succ {value : Nat} (nonzero : value ≠ 0) :
    byteLength value = byteLength (value / 256) + 1 := by
  have step (width : Nat) : byteLength value ≤ width + 1 ↔ byteLength (value / 256) ≤ width := by
    rw [byteLength_le_iff, byteLength_le_iff, Nat.pow_succ, Nat.div_lt_iff_lt_mul (by decide)]
  have positive : ¬byteLength value ≤ 0 := by
    rw [byteLength_le_iff]
    omega
  apply Nat.le_antisymm
  · exact (step _).mpr (Nat.le_refl _)
  · have shorter := (step (byteLength value - 1)).mp (by omega)
    omega

/-- Texts with the same UTF-8 form are the same. -/
theorem utf8_injective {first second : String} (same : utf8 first = utf8 second) :
    first = second := by
  have sameBytes : first.toList.utf8Encode = second.toList.utf8Encode :=
    congrArg List.toByteArray same
  rw [String.utf8Encode_toList, String.utf8Encode_toList] at sameBytes
  exact String.toByteArray_inj.mp sameBytes

/-- A text is restored from its UTF-8 form. -/
theorem fromUTF8?_utf8 (text : String) : String.fromUTF8? ⟨(utf8 text).toArray⟩ = some text := by
  have form : (⟨(utf8 text).toArray⟩ : ByteArray) = text.toByteArray := by
    rw [← String.utf8Encode_toList]
    apply ByteArray.ext
    simp [List.utf8Encode, utf8]
  simp only [form, String.fromUTF8?, dif_pos text.isValidUTF8]
  rfl

theorem utf8EncodeChar_eq_singleton {symbol : Char} (ascii : symbol.toNat < 0x80) :
    String.utf8EncodeChar symbol = [UInt8.ofNat symbol.toNat] := by
  have small : symbol.val.toNat ≤ 0x7f := Nat.le_of_lt_succ ascii
  rw [String.utf8EncodeChar, if_pos small]
  rfl

/-- A character outside ASCII begins with a byte outside ASCII. -/
theorem exists_utf8EncodeChar_eq_cons {symbol : Char} (foreign : 0x80 ≤ symbol.toNat) :
    ∃ first later, String.utf8EncodeChar symbol = first :: later ∧ 0x80 ≤ first := by
  have large : ¬symbol.val.toNat ≤ 0x7f := Nat.not_le_of_lt foreign
  have outside (value : Nat) (least : 0x80 ≤ value) (greatest : value < 0x100) :
      (0x80 : UInt8) ≤ UInt8.ofNat value := by
    rw [UInt8.le_iff_toNat_le, UInt8.toNat_ofNat_of_lt' greatest]
    exact least
  rw [String.utf8EncodeChar, if_neg large]
  split
  · exact ⟨_, _, rfl, outside _ (by omega) (by omega)⟩
  · split
    · exact ⟨_, _, rfl, outside _ (by omega) (by omega)⟩
    · exact ⟨_, _, rfl, outside _ (by omega) (by omega)⟩

/-- A byte within ASCII at the front of a text is its first character. -/
theorem exists_eq_cons_of_flatMap_eq_cons {characters : List Char} {byte : UInt8} {rest : Bytes}
    (ascii : byte < 0x80) (written : characters.flatMap String.utf8EncodeChar = byte :: rest) :
    ∃ others, characters = Char.ofNat byte.toNat :: others ∧
      others.flatMap String.utf8EncodeChar = rest := by
  cases characters with
  | nil => simp at written
  | cons character others =>
      rw [List.flatMap_cons] at written
      by_cases plain : character.toNat < 0x80
      · rw [utf8EncodeChar_eq_singleton plain, List.singleton_append, List.cons.injEq] at written
        rcases written with ⟨rfl, rfl⟩
        refine ⟨others, ?_, rfl⟩
        rw [UInt8.toNat_ofNat_of_lt' (Nat.lt_trans plain (by decide)), Char.ofNat_toNat]
      · rcases exists_utf8EncodeChar_eq_cons (Nat.le_of_not_lt plain) with
          ⟨first, later, own, outside⟩
        rw [own, List.cons_append, List.cons.injEq] at written
        rw [written.1] at outside
        exact absurd ascii (UInt8.not_lt.mpr outside)

theorem eq_map_of_flatMap_eq {characters : List Char} {bytes : Bytes}
    (ascii : ∀ byte ∈ bytes, byte < 0x80)
    (written : characters.flatMap String.utf8EncodeChar = bytes) :
    characters = bytes.map fun byte => Char.ofNat byte.toNat := by
  induction bytes generalizing characters with
  | nil =>
      cases characters with
      | nil => rfl
      | cons character others => simp at written
  | cons byte rest ih =>
      rw [List.forall_mem_cons] at ascii
      rcases exists_eq_cons_of_flatMap_eq_cons ascii.1 written with ⟨others, rfl, behind⟩
      rw [List.map_cons, ← ih ascii.2 behind]

/-- A text of bytes within ASCII has one character for each byte. -/
theorem toList_eq_map_of_ascii {text : String} (ascii : ∀ byte ∈ utf8 text, byte < 0x80) :
    text.toList = (utf8 text).map fun byte => Char.ofNat byte.toNat :=
  eq_map_of_flatMap_eq ascii rfl

end ChainProfile
