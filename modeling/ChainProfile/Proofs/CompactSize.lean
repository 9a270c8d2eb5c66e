import ChainProfile.Proofs.SelfDelimiting

/-!
# The shortest form of a compact size

A size is either its own byte or follows a mark byte in a field of that mark's
form.  The ranges of the three marked forms meet without gap or overlap
(`exists_form`), so every size has exactly one shortest form, and its first byte
tells where it ends.
-/

namespace ChainProfile.CompactSize

/-- Bytes up to `0xfc` announce no field. -/
theorem form?_eq_none_iff {mark : UInt8} : form? mark = none ↔ mark.toNat ≤ 0xfc := by
  have bound := mark.toNat_lt
  simp only [form?, ← UInt8.toNat_inj, UInt8.reduceToNat]
  constructor
  · intro plain
    apply Nat.le_of_not_lt
    intro large
    rcases (by omega : mark.toNat = 0xfd ∨ mark.toNat = 0xfe ∨ mark.toNat = 0xff) with
      two | four | eight
    · simp [two] at plain
    · simp [four] at plain
    · simp [eight] at plain
  · intro small
    rw [if_neg (by omega), if_neg (by omega), if_neg (by omega)]

theorem encode_of_form?_eq_none {mark : UInt8} (plain : form? mark = none) :
    encode mark.toUInt64 = [mark] := by
  have small := form?_eq_none_iff.mp plain
  simp [encode, small, littleEndian]

theorem form?_eq_some {mark : UInt8} {form : Form} (announced : form? mark = some form) :
    mark = 0xfd ∧ form = ⟨2, 0xfd⟩ ∨ mark = 0xfe ∧ form = ⟨4, 0x10000⟩ ∨
      mark = 0xff ∧ form = ⟨8, 0x100000000⟩ := by
  unfold form? at announced
  split at announced
  · next two => exact .inl ⟨two, (Option.some.inj announced).symm⟩
  · split at announced
    · next four => exact .inr (.inl ⟨four, (Option.some.inj announced).symm⟩)
    · split at announced
      · next eight => exact .inr (.inr ⟨eight, (Option.some.inj announced).symm⟩)
      · cases announced

/-- A value in the range of a marked form is written in that form. -/
theorem encode_of_form?_eq_some {mark : UInt8} {form : Form} {value : Nat}
    (announced : form? mark = some form) (least : form.least ≤ value)
    (fits : value < 256 ^ form.width) :
    encode (UInt64.ofNat value) = mark :: littleEndian form.width value := by
  have represented : value < 2 ^ 64 → (UInt64.ofNat value).toNat = value :=
    UInt64.toNat_ofNat_of_lt
  rcases form?_eq_some announced with ⟨rfl, rfl⟩ | ⟨rfl, rfl⟩ | ⟨rfl, rfl⟩
  · simp only at least fits ⊢
    rw [encode, represented (by omega), if_neg (by omega), if_pos (by omega)]
  · simp only at least fits ⊢
    rw [encode, represented (by omega), if_neg (by omega), if_neg (by omega), if_pos (by omega)]
  · simp only at least fits ⊢
    rw [encode, represented (by omega), if_neg (by omega), if_neg (by omega), if_neg (by omega)]

/-- Every size is its own byte or lies in the range of a marked form. -/
theorem exists_form (size : UInt64) :
    (∃ mark, form? mark = none ∧ size = mark.toUInt64) ∨
      ∃ mark form, form? mark = some form ∧ form.least ≤ size.toNat ∧
        size.toNat < 256 ^ form.width := by
  have bound := size.toNat_lt
  by_cases one : size.toNat ≤ 0xfc
  · left
    have represented : (UInt8.ofNat size.toNat).toNat = size.toNat :=
      UInt8.toNat_ofNat_of_lt' (Nat.lt_of_le_of_lt one (by decide))
    refine ⟨UInt8.ofNat size.toNat, ?_, ?_⟩
    · rw [form?_eq_none_iff, represented]
      exact one
    · rw [← UInt64.toNat_inj, UInt8.toNat_toUInt64, represented]
  · right
    by_cases two : size.toNat ≤ 0xffff
    · exact ⟨0xfd, ⟨2, 0xfd⟩, rfl, by simp only; omega, by simp only; omega⟩
    · by_cases four : size.toNat ≤ 0xffffffff
      · exact ⟨0xfe, ⟨4, 0x10000⟩, rfl, by simp only; omega, by simp only; omega⟩
      · exact ⟨0xff, ⟨8, 0x100000000⟩, rfl, by simp only; omega, by simp only; omega⟩

/-- Sizes in their shortest form. -/
theorem selfDelimiting : SelfDelimiting (fun _ => True) encode readShortest where
  read_append := by
    intro size _ rest
    rcases exists_form size with ⟨mark, plain, rfl⟩ | ⟨mark, form, announced, least, fits⟩
    · simp only [encode_of_form?_eq_none plain, List.cons_append, List.nil_append, readShortest,
        plain]
    · have written := encode_of_form?_eq_some announced least fits
      rw [UInt64.ofNat_toNat] at written
      simp only [written, List.cons_append, readShortest, announced,
        readLittleEndian_append fits, Option.bind_eq_bind, Option.bind_some, if_pos least,
        UInt64.ofNat_toNat]
      rfl
  eq_append := by
    intro bytes rest size result
    refine ⟨trivial, ?_⟩
    cases bytes with
    | nil => cases result
    | cons mark behind =>
        cases announced : form? mark with
        | none =>
            simp only [readShortest, announced, Option.some.injEq, Prod.mk.injEq] at result
            rcases result with ⟨rfl, rfl⟩
            rw [encode_of_form?_eq_none announced]
            rfl
        | some form =>
            cases fieldRead : readLittleEndian form.width behind with
            | none => simp [readShortest, announced, fieldRead] at result
            | some split =>
                rcases split with ⟨value, after⟩
                rcases eq_append_of_readLittleEndian fieldRead with ⟨whole, fits⟩
                simp only [readShortest, announced, fieldRead, Option.bind_eq_bind,
                  Option.bind_some] at result
                split at result
                · next least =>
                    cases result
                    rw [encode_of_form?_eq_some announced least fits, whole]
                    rfl
                · cases result

end ChainProfile.CompactSize
