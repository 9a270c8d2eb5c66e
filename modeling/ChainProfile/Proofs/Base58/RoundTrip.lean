import ChainProfile.Base58.Check
import ChainProfile.Proofs.Bytes
import ChainProfile.Proofs.Radix

/-!
# Texts in base 58 and the bytes they stand for

Writing and reading are two conversions between bases, `Radix.convert 256 58` and
`Radix.convert 58 256`, with the bytes and the symbols standing for the digits.
Since the conversions are inverse, a text is read as some bytes exactly when it is
the text of those bytes: no other text of the bytes is accepted.
-/

namespace ChainProfile

theorem ofLittleEndian_eq_ofDigits (bytes : Bytes) :
    ofLittleEndian bytes = Radix.ofDigits 256 (bytes.map UInt8.toNat) := by
  induction bytes with
  | nil => rfl
  | cons byte rest ih => rw [ofLittleEndian, ih, List.map_cons, Radix.ofDigits]

theorem littleEndian_byteLength (value : Nat) :
    littleEndian (byteLength value) value = (Radix.digits 256 value).map UInt8.ofNat := by
  fun_induction Radix.digits 256 value with
  | case1 value applicable ih =>
      have low : UInt8.ofNat (value % 256) = UInt8.ofNat value := by
        apply UInt8.toNat_inj.mp
        rw [UInt8.toNat_ofNat', UInt8.toNat_ofNat', Nat.mod_mod]
      rw [byteLength_eq_succ applicable.2, littleEndian, ih, List.map_cons, low]
  | case2 value inapplicable =>
      have zero : value = 0 := by omega
      rw [zero]
      rfl

namespace Base58

theorem symbol_eq_getElem {digit : Nat} (bounded : digit < alphabet.length) :
    symbol digit = alphabet[digit] := by
  simp [symbol, bounded]

theorem symbol_ascii {digit : Nat} (bounded : digit < alphabet.length) :
    (symbol digit).toNat < 0x80 := by
  have ascii : alphabet.all fun symbol => symbol.toNat < 0x80 := by decide
  rw [symbol_eq_getElem bounded]
  exact of_decide_eq_true (List.all_eq_true.mp ascii _ (List.getElem_mem _))

/-- A byte stands for the one digit whose symbol it is. -/
theorem digit?_eq_some_iff {byte : UInt8} {digit : Nat} :
    digit? byte = some digit ↔ digit < alphabet.length ∧ (symbol digit).toNat = byte.toNat := by
  have distinct : (alphabet.map Char.toNat).Nodup := by decide
  rw [digit?, List.findIdx?_eq_some_iff_getElem]
  simp only [beq_iff_eq]
  constructor
  · rintro ⟨bounded, found, _⟩
    exact ⟨bounded, by rw [symbol_eq_getElem bounded, found]⟩
  · rintro ⟨bounded, found⟩
    rw [symbol_eq_getElem bounded] at found
    refine ⟨bounded, found, ?_⟩
    intro earlier before same
    rw [← found, ← List.getElem_map Char.toNat, ← List.getElem_map Char.toNat,
      List.getElem_inj distinct] at same
    · omega
    · simpa only [List.length_map] using bounded
    · simpa only [List.length_map] using Nat.lt_trans before bounded

/-- The first character is read as the one digit whose symbol it is. -/
theorem digitsFrom_utf8EncodeChar_append_eq_ok_iff {index : Nat} {character : Char} {rest : Bytes}
    {digits : List Nat} :
    digitsFrom index (String.utf8EncodeChar character ++ rest) = .ok digits ↔
      ∃ digit later, digits = digit :: later ∧ digit < alphabet.length ∧ character = symbol digit ∧
        digitsFrom (index + 1) rest = .ok later := by
  -- A character outside ASCII is refused at its first byte, so its other bytes are never read.
  by_cases ascii : character.toNat < 0x80
  · have represented : (UInt8.ofNat character.toNat).toNat = character.toNat :=
      UInt8.toNat_ofNat_of_lt' (Nat.lt_trans ascii (by decide))
    have plain : ¬(0x80 : UInt8) ≤ UInt8.ofNat character.toNat := by
      rw [UInt8.le_iff_toNat_le, represented]
      exact Nat.not_le_of_lt ascii
    rw [utf8EncodeChar_eq_singleton ascii, List.cons_append, List.nil_append, digitsFrom,
      if_neg plain]
    constructor
    · intro result
      split at result
      · cases result
      · next digit found =>
          rcases digit?_eq_some_iff.mp found with ⟨bounded, same⟩
          cases read : digitsFrom (index + 1) rest with
          | error => simp [read, Except.map] at result
          | ok later =>
              simp only [read, Except.map, Except.ok.injEq] at result
              exact ⟨digit, later, result.symm, bounded,
                (Char.toNat_inj.mp (same.trans represented)).symm, rfl⟩
    · rintro ⟨digit, later, rfl, bounded, rfl, read⟩
      rw [digit?_eq_some_iff.mpr ⟨bounded, represented.symm⟩, read]
      rfl
  · rcases exists_utf8EncodeChar_eq_cons (Nat.le_of_not_lt ascii) with
      ⟨first, after, written, outside⟩
    rw [written, List.cons_append, digitsFrom, if_pos outside]
    constructor
    · intro result
      cases result
    · rintro ⟨digit, later, _, bounded, rfl, _⟩
      exact absurd (symbol_ascii bounded) ascii

theorem digitsFrom_flatMap_eq_ok_iff {index : Nat} {characters : List Char} {digits : List Nat} :
    digitsFrom index (characters.flatMap String.utf8EncodeChar) = .ok digits ↔
      characters = digits.map symbol ∧ ∀ digit ∈ digits, digit < 58 := by
  induction characters generalizing index digits with
  | nil => cases digits <;> simp [digitsFrom]
  | cons character rest ih =>
      rw [List.flatMap_cons, digitsFrom_utf8EncodeChar_append_eq_ok_iff]
      simp only [ih]
      constructor
      · rintro ⟨digit, later, rfl, bounded, rfl, rfl, laterBounded⟩
        exact ⟨rfl, List.forall_mem_cons.mpr ⟨bounded, laterBounded⟩⟩
      · rintro ⟨written, bounded⟩
        cases digits with
        | nil => cases written
        | cons digit later =>
            rw [List.map_cons, List.cons.injEq] at written
            rw [List.forall_mem_cons] at bounded
            exact ⟨digit, later, rfl, bounded.1, written.1, written.2, bounded.2⟩

theorem encode_eq_ofList_convert (bytes : Bytes) :
    encode bytes =
      String.ofList ((Radix.convert 256 58 (bytes.map UInt8.toNat)).map symbol) := by
  have zeros : (bytes.takeWhile (· = 0)).length = Radix.leadingZeros (bytes.map UInt8.toNat) := by
    rw [Radix.leadingZeros, List.takeWhile_map, List.length_map]
    congr 2
    funext byte
    simp [← UInt8.toNat_inj]
  rw [Radix.convert, List.map_append, List.map_replicate, ← zeros, ← List.map_reverse,
    ← ofLittleEndian_eq_ofDigits]
  rfl

theorem ofDigits_eq_map_convert (digits : List Nat) :
    ofDigits digits = (Radix.convert 58 256 digits).map UInt8.ofNat := by
  rw [Radix.convert, List.map_append, List.map_replicate, List.map_reverse,
    ← littleEndian_byteLength]
  rfl

theorem map_toNat_ofDigits (digits : List Nat) :
    (ofDigits digits).map UInt8.toNat = Radix.convert 58 256 digits := by
  rw [ofDigits_eq_map_convert, List.map_map]
  have restored : ∀ value ∈ Radix.convert 58 256 digits,
      (UInt8.toNat ∘ UInt8.ofNat) value = id value := by
    intro value member
    exact UInt8.toNat_ofNat_of_lt' (Radix.lt_of_mem_convert (by decide) member)
  rw [List.map_congr_left restored, List.map_id]

/-- A text stands for a byte string exactly when it is the text of that byte string. -/
theorem decode_eq_ok_iff {text : String} {bytes : Bytes} :
    decode text = .ok bytes ↔ encode bytes = text := by
  rw [encode_eq_ofList_convert]
  constructor
  · intro result
    cases read : digitsFrom 0 (utf8 text) with
    | error => simp [decode, read, Except.map] at result
    | ok digits =>
        rcases digitsFrom_flatMap_eq_ok_iff.mp read with ⟨written, bounded⟩
        simp only [decode, read, Except.map, Except.ok.injEq] at result
        rw [← result, map_toNat_ofDigits, Radix.convert_convert (by decide) (by decide) bounded,
          ← written, String.ofList_toList]
  · rintro rfl
    have bounded : ∀ byte ∈ bytes.map UInt8.toNat, byte < 256 := by
      intro value member
      rcases List.mem_map.mp member with ⟨byte, _, rfl⟩
      exact byte.toNat_lt
    have read : digitsFrom 0 (utf8 (String.ofList
        ((Radix.convert 256 58 (bytes.map UInt8.toNat)).map symbol))) =
          .ok (Radix.convert 256 58 (bytes.map UInt8.toNat)) := by
      apply digitsFrom_flatMap_eq_ok_iff.mpr
      refine ⟨String.toList_ofList, ?_⟩
      intro digit member
      exact Radix.lt_of_mem_convert (by decide) member
    rw [decode, read, Except.map, ofDigits_eq_map_convert,
      Radix.convert_convert (by decide) (by decide) bounded, List.map_map]
    simp [Function.comp_def]

end Base58

namespace Base58Check

/-- Guarded data is its own data followed by the guard. -/
theorem unguard_eq_ok_iff {bytes data : Bytes} :
    unguard bytes = .ok data ↔ bytes = data ++ checksum data := by
  constructor
  · intro result
    simp only [unguard] at result
    split at result
    · cases result
    · split at result
      · next same =>
          cases result
          rw [same, List.take_append_drop]
      · cases result
  · rintro rfl
    exact unguard_guarded data

/-- A guarded text stands for data exactly when it is the guarded text of that data. -/
theorem decode_eq_ok_iff {text : String} {data : Bytes} :
    decode text = .ok data ↔ encode data = text := by
  rw [encode, ← Base58.decode_eq_ok_iff]
  cases read : Base58.decode text with
  | error => simp [decode, read, bind, Except.bind]
  | ok bytes => simp [decode, read, bind, Except.bind, unguard_eq_ok_iff]

end Base58Check

end ChainProfile
