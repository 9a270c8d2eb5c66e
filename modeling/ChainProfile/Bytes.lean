/-!
# Byte strings and fixed-width fields

Serialised data is a list of bytes.  A number takes a field of fixed width with
its lowest byte first; the field is described by natural numbers, so that one reader
and one writer serve fields of every width.
-/

namespace ChainProfile

/-- A byte string. -/
abbrev Bytes := List UInt8

/-- The `width` low bytes of a number, lowest first. -/
def littleEndian : Nat → Nat → Bytes
  | 0, _ => []
  | width + 1, value => UInt8.ofNat value :: littleEndian width (value / 256)

/-- The number whose bytes, lowest first, are given. -/
def ofLittleEndian : Bytes → Nat
  | [] => 0
  | byte :: rest => byte.toNat + 256 * ofLittleEndian rest

/-- The `width` low bytes of a number, highest first. -/
def bigEndian (width value : Nat) : Bytes := (littleEndian width value).reverse

/-- The number whose bytes, highest first, are given. -/
def ofBigEndian (bytes : Bytes) : Nat := ofLittleEndian bytes.reverse

/-- The fewest bytes that hold a number; zero needs none. -/
def byteLength (value : Nat) : Nat := if value = 0 then 0 else value.log2 / 8 + 1

/-- Splits off a field of exactly `width` bytes; there is none if fewer are left. -/
def takeField (width : Nat) (bytes : Bytes) : Option (Bytes × Bytes) :=
  if width ≤ bytes.length then some (bytes.take width, bytes.drop width) else none

/-- Reads a number from a field of `width` bytes and returns what follows the field. -/
def readLittleEndian (width : Nat) (bytes : Bytes) : Option (Nat × Bytes) :=
  (takeField width bytes).map fun (field, rest) => (ofLittleEndian field, rest)

/-- The bytes of a text in UTF-8. -/
def utf8 (text : String) : Bytes := text.toList.flatMap String.utf8EncodeChar

@[simp]
theorem length_littleEndian (width value : Nat) :
    (littleEndian width value).length = width := by
  induction width generalizing value with
  | zero => rfl
  | succ width ih => simp [littleEndian, ih]

@[simp]
theorem length_bigEndian (width value : Nat) : (bigEndian width value).length = width := by
  simp [bigEndian]

theorem takeField_append (field rest : Bytes) :
    takeField field.length (field ++ rest) = some (field, rest) := by
  simp [takeField]

theorem eq_append_of_takeField {width : Nat} {bytes field rest : Bytes}
    (taken : takeField width bytes = some (field, rest)) :
    bytes = field ++ rest ∧ field.length = width := by
  unfold takeField at taken
  split at taken
  · next enough =>
      cases taken
      exact ⟨(List.take_append_drop width bytes).symm, by simp [enough]⟩
  · cases taken

theorem exists_eq_append_of_readLittleEndian {width value : Nat} {bytes rest : Bytes}
    (result : readLittleEndian width bytes = some (value, rest)) :
    ∃ field, bytes = field ++ rest := by
  simp only [readLittleEndian, Option.map_eq_some_iff, Prod.mk.injEq] at result
  rcases result with ⟨⟨field, after⟩, taken, _, rfl⟩
  exact ⟨field, (eq_append_of_takeField taken).1⟩

end ChainProfile
