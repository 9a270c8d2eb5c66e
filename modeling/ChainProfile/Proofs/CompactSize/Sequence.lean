import ChainProfile.Proofs.CompactSize

/-!
# Sizes in a row

Appending a size leaves what was written before it and adds the shortest bytes that are
read as the size.  A reader of any form takes exactly these bytes off, whatever follows, so
sizes that were appended one after another are read back in order, and no two lists of
sizes leave the same bytes.
-/

namespace ChainProfile.CompactSize

/-! ## Appending -/

/-- Each arm cuts the size down to a word that holds it, so nothing is lost. -/
theorem append_eq (written : Bytes) (size : UInt64) :
    append written size = written ++ encode size := by
  simp only [append, encode, UInt64.le_iff_toNat_le, UInt64.reduceToNat]
  split
  · simp [littleEndian]
  · split
    · have held : size.toUInt16.toNat = size.toNat := by
        simp only [UInt64.toNat_toUInt16]
        omega
      simp [held]
    · split
      · have held : size.toUInt32.toNat = size.toNat := by
          simp only [UInt64.toNat_toUInt32]
          omega
        simp [held]
      · simp

theorem foldl_append (written : Bytes) (sizes : List UInt64) :
    sizes.foldl append written = written ++ sizes.flatMap encode := by
  induction sizes generalizing written with
  | nil => simp
  | cons size sizes ih => simp [ih, append_eq]

/-! ## Reading any form -/

/-- A reader of any form agrees with the strict one on what the strict one accepts. -/
theorem read_of_readShortest {bytes : Bytes} {result : UInt64 × Bytes}
    (strict : readShortest bytes = some result) : read bytes = some result := by
  cases bytes with
  | nil => cases strict
  | cons mark behind =>
      cases announced : form? mark with
      | none => simpa [readShortest, read, announced] using strict
      | some form =>
          simp only [readShortest, announced, Option.bind_eq_bind,
            Option.bind_eq_some_iff] at strict
          rcases strict with ⟨⟨value, after⟩, fieldRead, accepted⟩
          split at accepted
          · cases accepted
            simp [read, announced, fieldRead]
          · cases accepted

theorem read_encode_append (size : UInt64) (rest : Bytes) :
    read (encode size ++ rest) = some (size, rest) :=
  read_of_readShortest (selfDelimiting.read_append trivial rest)

/-- A value below the range of a form is written in fewer bytes than the form takes. -/
theorem length_encode_le_width {mark : UInt8} {form : Form} {value : Nat}
    (announced : form? mark = some form) (below : value < form.least) :
    (encode (UInt64.ofNat value)).length ≤ form.width := by
  have represented : value < 2 ^ 64 → (UInt64.ofNat value).toNat = value :=
    UInt64.toNat_ofNat_of_lt
  rcases form?_eq_some announced with ⟨rfl, rfl⟩ | ⟨rfl, rfl⟩ | ⟨rfl, rfl⟩
  · simp only at below
    have one : value ≤ 0xfc := by omega
    simp [encode, represented (by omega), one]
  · simp only at below
    have two : value ≤ 0xffff := by omega
    simp only [encode, represented (by omega), two, if_true]
    split <;> simp
  · simp only at below
    have four : value ≤ 0xffffffff := by omega
    simp only [encode, represented (by omega), four, if_true]
    split
    · simp
    · split <;> simp

/-- What is read as a size is the size as it is written, or longer. -/
theorem eq_or_length_lt_of_read {bytes rest : Bytes} {size : UInt64}
    (result : read bytes = some (size, rest)) :
    bytes = encode size ++ rest ∨ (encode size ++ rest).length < bytes.length := by
  cases bytes with
  | nil => cases result
  | cons mark behind =>
      cases announced : form? mark with
      | none =>
          simp only [read, announced, Option.some.injEq, Prod.mk.injEq] at result
          rcases result with ⟨rfl, rfl⟩
          left
          simp [encode_of_form?_eq_none announced]
      | some form =>
          simp only [read, announced, Option.map_eq_some_iff, Prod.mk.injEq] at result
          rcases result with ⟨⟨value, after⟩, fieldRead, rfl, rfl⟩
          rcases eq_append_of_readLittleEndian fieldRead with ⟨whole, fits⟩
          by_cases least : form.least ≤ value
          · left
            simp [encode_of_form?_eq_some announced least fits, whole]
          · right
            have shorter := length_encode_le_width announced (Nat.lt_of_not_le least)
            simp only [whole, List.length_cons, List.length_append, length_littleEndian]
            omega

/-! ## Reading all that was written -/

theorem readAll_of_read {bytes rest : Bytes} {size : UInt64}
    (result : read bytes = some (size, rest)) :
    readAll bytes = (readAll rest).map (size :: ·) := by
  have filled : ¬bytes.isEmpty := by
    intro empty
    simp [List.isEmpty_iff.mp empty, read] at result
  rw [readAll, if_neg filled]
  split
  · next missing =>
      rw [result] at missing
      cases missing
  · next found =>
      rw [result] at found
      cases found
      rfl

theorem readAll_flatMap_encode (sizes : List UInt64) :
    readAll (sizes.flatMap encode) = some sizes := by
  induction sizes with
  | nil => simp [readAll]
  | cons size sizes ih =>
      simp [readAll_of_read (read_encode_append size (sizes.flatMap encode)), ih]

/-- Appending a size keeps what was written and adds a code that is read as the size, whatever
follows, and that is shorter than any other bytes read as the size.  The codes of several sizes
are read back as these sizes, so different lists leave different bytes. -/
theorem append_eq_and_read_encode_append_and_readAll :
    (∀ (written : Bytes) (size : UInt64), append written size = written ++ encode size) ∧
      (∀ (size : UInt64) (rest : Bytes), read (encode size ++ rest) = some (size, rest)) ∧
      (∀ (size : UInt64) (form rest : Bytes), read (form ++ rest) = some (size, rest) →
        form ≠ encode size → (encode size).length < form.length) ∧
      (∀ (written : Bytes) (sizes : List UInt64), ∃ codes,
        sizes.foldl append written = written ++ codes ∧ readAll codes = some sizes) ∧
      ∀ (written : Bytes) (first second : List UInt64),
        first.foldl append written = second.foldl append written ↔ first = second := by
  refine ⟨append_eq, read_encode_append, ?_, ?_, ?_⟩
  · intro size form rest result other
    rcases eq_or_length_lt_of_read result with same | shorter
    · exact absurd (List.append_cancel_right same) other
    · simpa using shorter
  · intro written sizes
    exact ⟨_, foldl_append written sizes, readAll_flatMap_encode sizes⟩
  · intro written first second
    constructor
    · intro same
      simp only [foldl_append, List.append_cancel_left_eq] at same
      have firstRead := readAll_flatMap_encode first
      rw [same, readAll_flatMap_encode] at firstRead
      exact (Option.some.inj firstRead).symm
    · rintro rfl
      rfl

/-- The least size with a mark byte, in a field that is too wide for it. -/
theorem length_encode_lt_overlong :
    read ([0xfe, 0xfd, 0, 0, 0] ++ [0xfc]) = some (0xfd, [0xfc]) ∧
      [0xfe, 0xfd, 0, 0, 0] ≠ encode 0xfd ∧
      (encode 0xfd).length < [(0xfe : UInt8), 0xfd, 0, 0, 0].length ∧
      [0xfc, 0xfd, 0x10000].foldl append [0xff] ≠ [0xfd, 0xfc, 0x10000].foldl append [0xff] := by
  have overlong : read ([0xfe, 0xfd, 0, 0, 0] ++ [0xfc]) = some (0xfd, [0xfc]) := by decide
  have other : [0xfe, 0xfd, 0, 0, 0] ≠ encode 0xfd := by decide
  rcases append_eq_and_read_encode_append_and_readAll with ⟨_, _, shortest, _, apart⟩
  refine ⟨overlong, other, shortest _ _ _ overlong other, ?_⟩
  intro same
  exact absurd ((apart _ _ _).mp same) (by decide)

end ChainProfile.CompactSize
