import ChainProfile.Proofs.Block.Header
import Mathlib.Logic.ExistsUnique

/-!
# The places of the fields of a block header

Six fields share the eighty bytes of a header, each in a range of its own, and every place is in
exactly one range.  Whatever a buffer of eighty bytes held before, it holds the header once every
field has been written into its range (`writeFields_eq_toBytes`), and the order does not matter.

A range determines the value of its field and is determined by it.  So a header is restored from
its ranges, any eighty bytes are the bytes of exactly one header, and a change of one field shows
in the range of this field and nowhere else.
-/

namespace ChainProfile

/-- A buffer with the bytes from one place up to another replaced. -/
def replaceRange (buffer : Bytes) (start stop : Nat) (field : Bytes) : Bytes :=
  buffer.take start ++ field ++ buffer.drop stop

section

variable {buffer field : Bytes} {start stop : Nat}

theorem length_replaceRange (fits : start + field.length = stop) (inside : stop ≤ buffer.length) :
    (replaceRange buffer start stop field).length = buffer.length := by
  simp only [replaceRange, List.length_append, List.length_take, List.length_drop]
  omega

/-- Replacing a range puts the new bytes into it and leaves every other place alone. -/
theorem getElem?_replaceRange (fits : start + field.length = stop)
    (inside : stop ≤ buffer.length) (place : Nat) :
    (replaceRange buffer start stop field)[place]? =
      if start ≤ place ∧ place < stop then field[place - start]? else buffer[place]? := by
  have front : (buffer.take start).length = start := by
    rw [List.length_take]
    omega
  rw [replaceRange, List.append_assoc]
  rcases Nat.lt_or_ge place start with before | after
  · rw [List.getElem?_append_left (by omega), List.getElem?_take_of_lt before, if_neg (by omega)]
  · rw [List.getElem?_append_right (by omega), front]
    rcases Nat.lt_or_ge place stop with within | behind
    · rw [List.getElem?_append_left (by omega), if_pos ⟨after, within⟩]
    · rw [List.getElem?_append_right (by omega), List.getElem?_drop, if_neg (by omega)]
      congr 1
      omega

end

theorem extract_eq_extract_iff {first second : Bytes} {start stop : Nat} :
    first.extract start stop = second.extract start stop ↔
      ∀ place, start ≤ place → place < stop → first[place]? = second[place]? := by
  have getElem?_extract (buffer : Bytes) (place : Nat) :
      (buffer.extract start stop)[place]? =
        if place < stop - start then buffer[start + place]? else none := by
    rw [List.getElem?_take, List.getElem?_drop]
  constructor
  · intro same place after before
    have shown := congrArg (fun range : Bytes => range[place - start]?) same
    simpa only [getElem?_extract, if_pos (show place - start < stop - start by omega),
      Nat.add_sub_cancel' after] using shown
  · intro same
    apply List.ext_getElem?
    intro place
    rw [getElem?_extract, getElem?_extract]
    split
    · exact same _ (by omega) (by omega)
    · rfl

/-- The word that is read from four bytes is written as these bytes. -/
theorem littleEndian_ofNat {field : Bytes} (sized : field.length = 4) :
    littleEndian 4 (UInt32.ofNat (ofLittleEndian field)).toNat = field := by
  have fits := ofLittleEndian_lt field
  rw [sized] at fits
  rw [UInt32.toNat_ofNat_of_lt' fits, ← sized]
  exact littleEndian_ofLittleEndian field

namespace BlockHeader

/-- A part of a header with a range of its own. -/
inductive Field where
  | version
  | previous
  | merkleRoot
  | time
  | bits
  | nonce
deriving DecidableEq

namespace Field

/-- Every field, in the order in which they stand. -/
def all : List Field := [.version, .previous, .merkleRoot, .time, .bits, .nonce]

/-- The place where the range of a field begins. -/
def start : Field → Nat
  | .version => 0
  | .previous => 4
  | .merkleRoot => 36
  | .time => 68
  | .bits => 72
  | .nonce => 76

/-- The place behind the range of a field. -/
def stop : Field → Nat
  | .version => 4
  | .previous => 36
  | .merkleRoot => 68
  | .time => 72
  | .bits => 76
  | .nonce => 80

/-- Whether a place is in the range of a field. -/
def Covers (field : Field) (place : Nat) : Prop := field.start ≤ place ∧ place < field.stop

instance (field : Field) (place : Nat) : Decidable (field.Covers place) :=
  inferInstanceAs (Decidable (_ ∧ _))

/-- The bytes of a field: numbers lowest byte first, digests in hash order. -/
def bytes (header : BlockHeader) : Field → Bytes
  | .version => littleEndian 4 header.version.toUInt32.toNat
  | .previous => header.previous.bytes
  | .merkleRoot => header.merkleRoot.bytes
  | .time => littleEndian 4 header.time.toNat
  | .bits => littleEndian 4 header.bits.toNat
  | .nonce => littleEndian 4 header.nonce.toNat

/-- Whether two headers have the same value in a field. -/
def Agrees (first second : BlockHeader) : Field → Prop
  | .version => first.version = second.version
  | .previous => first.previous = second.previous
  | .merkleRoot => first.merkleRoot = second.merkleRoot
  | .time => first.time = second.time
  | .bits => first.bits = second.bits
  | .nonce => first.nonce = second.nonce

variable {field : Field} {header : BlockHeader}

theorem mem_all (field : Field) : field ∈ all := by
  cases field <;> decide

/-- The bytes of a field fill its range, which lies in a header. -/
theorem start_add_length_bytes (header : BlockHeader) (field : Field) :
    field.start + (field.bytes header).length = field.stop := by
  cases field <;>
    simp [start, stop, bytes, header.previous.length_bytes, header.merkleRoot.length_bytes]

theorem stop_le (field : Field) : field.stop ≤ 80 := by
  cases field <;> decide

theorem countP_covers {place : Nat} (inside : place < 80) :
    all.countP (fun field => field.Covers place) = 1 := by
  have table : ∀ place < 80, all.countP (fun field => field.Covers place) = 1 := by decide
  exact table place inside

theorem exists_covers {place : Nat} (inside : place < 80) : ∃ field : Field, field.Covers place := by
  have counted : 0 < all.countP fun field => field.Covers place := by
    rw [countP_covers inside]
    decide
  rcases List.countP_pos_iff.mp counted with ⟨field, _, covers⟩
  exact ⟨field, of_decide_eq_true covers⟩

/-- Eighty bytes are told by what they show in the ranges of the fields. -/
theorem eq_of_getElem?_eq {left right : Bytes} (leftSized : left.length = 80)
    (rightSized : right.length = 80)
    (same : ∀ (field : Field) (place : Nat), field.Covers place → left[place]? = right[place]?) :
    left = right := by
  apply List.ext_getElem?
  intro place
  rcases Nat.lt_or_ge place 80 with inside | outside
  · rcases exists_covers inside with ⟨field, covers⟩
    exact same field place covers
  · rw [List.getElem?_eq_none (by rwa [leftSized]), List.getElem?_eq_none (by rwa [rightSized])]

/-- The range of a field in a header holds the bytes of the field. -/
theorem extract_toBytes (header : BlockHeader) (field : Field) :
    header.toBytes.extract field.start field.stop = field.bytes header := by
  cases field <;>
    simp [toBytes, bytes, start, stop, List.drop_append, List.drop_of_length_le,
      List.take_of_length_le, header.previous.length_bytes,
      header.merkleRoot.length_bytes]

theorem getElem?_toBytes (header : BlockHeader) {place : Nat} (covers : field.Covers place) :
    header.toBytes[place]? = (field.bytes header)[place - field.start]? := by
  rcases covers with ⟨after, before⟩
  rw [← extract_toBytes, List.getElem?_take_of_lt (by omega), List.getElem?_drop,
    Nat.add_sub_cancel' after]

/-- The bytes of a field tell its value. -/
theorem bytes_eq_iff {first second : BlockHeader} :
    field.bytes first = field.bytes second ↔ field.Agrees first second := by
  have word {left right : UInt32} :
      littleEndian 4 left.toNat = littleEndian 4 right.toNat ↔ left = right := by
    rw [littleEndian_inj left.toNat_lt right.toNat_lt, UInt32.toNat_inj]
  cases field with
  | version =>
      refine word.trans ⟨fun same => ?_, fun same => congrArg Int32.toUInt32 same⟩
      rw [Agrees, ← Int32.toInt32_toUInt32 first.version, same, Int32.toInt32_toUInt32]
  | previous => exact ⟨Digest.ext_bytes, congrArg Digest.bytes⟩
  | merkleRoot => exact ⟨Digest.ext_bytes, congrArg Digest.bytes⟩
  | time => exact word
  | bits => exact word
  | nonce => exact word

/-- Headers agree in a field exactly if they agree at every place in its range. -/
theorem agrees_iff_getElem?_eq {first second : BlockHeader} :
    field.Agrees first second ↔
      ∀ place, field.Covers place → first.toBytes[place]? = second.toBytes[place]? := by
  rw [← bytes_eq_iff, ← extract_toBytes, ← extract_toBytes, extract_eq_extract_iff]
  exact forall_congr' fun place => and_imp.symm

theorem eq_of_agrees {first second : BlockHeader}
    (agree : ∀ field : Field, field.Agrees first second) : first = second := by
  cases first
  cases second
  cases agree .version
  cases agree .previous
  cases agree .merkleRoot
  cases agree .time
  cases agree .bits
  cases agree .nonce
  rfl

/-- Where two headers differ is in the range of a field in which they do not agree. -/
theorem exists_not_agrees_of_getElem?_ne {first second : BlockHeader} {place : Nat}
    (different : first.toBytes[place]? ≠ second.toBytes[place]?) :
    ∃ field : Field, field.Covers place ∧ ¬field.Agrees first second := by
  rcases Nat.lt_or_ge place 80 with inside | outside
  · rcases exists_covers inside with ⟨field, covers⟩
    exact ⟨field, covers, fun agree => different (agrees_iff_getElem?_eq.mp agree place covers)⟩
  · rw [List.getElem?_eq_none (by simpa using outside),
      List.getElem?_eq_none (by simpa using outside)] at different
    exact absurd rfl different

end Field

/-! ## Writing the fields into a buffer -/

variable {header : BlockHeader}

/-- A buffer after a field of a header has been written into its range. -/
def writeField (header : BlockHeader) (buffer : Bytes) (field : Field) : Bytes :=
  replaceRange buffer field.start field.stop (field.bytes header)

/-- A buffer after fields of a header have been written one after another. -/
def writeFields (header : BlockHeader) (fields : List Field) (buffer : Bytes) : Bytes :=
  fields.foldl header.writeField buffer

variable {buffer : Bytes}

theorem length_writeField (header : BlockHeader) (sized : buffer.length = 80) (field : Field) :
    (header.writeField buffer field).length = 80 := by
  have inside : field.stop ≤ buffer.length := sized ▸ field.stop_le
  rw [writeField, length_replaceRange (field.start_add_length_bytes header) inside, sized]

theorem getElem?_writeField (sized : buffer.length = 80) (field : Field) (place : Nat) :
    (header.writeField buffer field)[place]? =
      if field.Covers place then header.toBytes[place]? else buffer[place]? := by
  have inside : field.stop ≤ buffer.length := sized ▸ field.stop_le
  rw [writeField, getElem?_replaceRange (field.start_add_length_bytes header) inside]
  split
  · next covers => exact (Field.getElem?_toBytes header covers).symm.trans (if_pos covers).symm
  · next outside => exact (if_neg outside).symm

/-- A place shows the header if one of the fields written covers it, and the buffer otherwise. -/
theorem getElem?_writeFields (fields : List Field) (sized : buffer.length = 80) (place : Nat) :
    (header.writeFields fields buffer)[place]? =
      if ∃ field ∈ fields, field.Covers place then header.toBytes[place]? else buffer[place]? := by
  induction fields generalizing buffer with
  | nil => simp [writeFields]
  | cons field fields ih =>
      have later := ih (length_writeField header sized field)
      rw [getElem?_writeField sized] at later
      rw [writeFields, List.foldl_cons, ← writeFields, later]
      simp only [List.mem_cons, exists_eq_or_imp]
      by_cases covers : field.Covers place <;>
        by_cases coveredLater : ∃ other ∈ fields, Field.Covers other place <;>
          simp [covers, coveredLater]

theorem length_writeFields (header : BlockHeader) (fields : List Field)
    (sized : buffer.length = 80) :
    (header.writeFields fields buffer).length = 80 := by
  induction fields generalizing buffer with
  | nil => exact sized
  | cons field fields ih => exact ih (length_writeField header sized field)

/-- A buffer holds the header once every field has been written, in whatever order. -/
theorem writeFields_eq_toBytes {fields : List Field} (complete : ∀ field : Field, field ∈ fields)
    (sized : buffer.length = 80) : header.writeFields fields buffer = header.toBytes := by
  apply Field.eq_of_getElem?_eq (length_writeFields header fields sized) header.length_toBytes
  intro field place covers
  rw [getElem?_writeFields fields sized, if_pos ⟨field, complete field, covers⟩]

/-! ## Reading the fields from their ranges -/

/-- The header whose fields are read from their ranges in eighty bytes. -/
def ofRanges (bytes : Bytes) (sized : bytes.length = 80) : BlockHeader where
  version := (UInt32.ofNat (ofLittleEndian (bytes.extract 0 4))).toInt32
  previous := ⟨bytes.extract 4 36, by simp [sized]⟩
  merkleRoot := ⟨bytes.extract 36 68, by simp [sized]⟩
  time := UInt32.ofNat (ofLittleEndian (bytes.extract 68 72))
  bits := UInt32.ofNat (ofLittleEndian (bytes.extract 72 76))
  nonce := UInt32.ofNat (ofLittleEndian (bytes.extract 76 80))

theorem bytes_ofRanges {bytes : Bytes} (sized : bytes.length = 80) (field : Field) :
    field.bytes (ofRanges bytes sized) = bytes.extract field.start field.stop := by
  cases field with
  | version =>
      rw [Field.bytes, ofRanges, UInt32.toUInt32_toInt32]
      exact littleEndian_ofNat (by simp [sized])
  | previous => rfl
  | merkleRoot => rfl
  | time => exact littleEndian_ofNat (by simp [sized])
  | bits => exact littleEndian_ofNat (by simp [sized])
  | nonce => exact littleEndian_ofNat (by simp [sized])

theorem ofRanges_toBytes (header : BlockHeader) :
    ofRanges header.toBytes header.length_toBytes = header := by
  apply Field.eq_of_agrees
  intro field
  rw [← Field.bytes_eq_iff, bytes_ofRanges, Field.extract_toBytes]

theorem toBytes_ofRanges {bytes : Bytes} (sized : bytes.length = 80) :
    (ofRanges bytes sized).toBytes = bytes := by
  apply Field.eq_of_getElem?_eq (length_toBytes _) sized
  intro field place covers
  have same := Field.extract_toBytes (ofRanges bytes sized) field
  rw [bytes_ofRanges, extract_eq_extract_iff] at same
  exact same place covers.1 covers.2

/-- Reading the fields one after another is reading them from their ranges. -/
theorem ofBytes?_eq_some_ofRanges {bytes : Bytes} (sized : bytes.length = 80) :
    ofBytes? bytes = some (ofRanges bytes sized) := by
  have readBack : read ((ofRanges bytes sized).toBytes ++ []) = some (ofRanges bytes sized, []) :=
    selfDelimiting.read_append trivial []
  rw [toBytes_ofRanges, List.append_nil] at readBack
  simp [ofBytes?, readBack]

/-- Headers are the byte strings of length eighty.  Every place is in the range of exactly one
field, and writing each field into its range, over whatever was there, gives the bytes.  A header is
restored from its ranges, and each byte string is written by exactly one header.  Two headers agree
in a field exactly if they show the same bytes in its range, so that a change of one field shows in
its range only. -/
theorem ofRanges_toBytes_and_existsUnique_toBytes_eq :
    (∀ place < 80, Field.all.countP (fun field => field.Covers place) = 1) ∧
    (∀ (header : BlockHeader) (field : Field),
      field.start + (field.bytes header).length = field.stop) ∧
    (∀ (header : BlockHeader) (buffer : Bytes), buffer.length = 80 →
      header.writeFields Field.all buffer = header.toBytes) ∧
    (∀ header : BlockHeader, ofRanges header.toBytes header.length_toBytes = header) ∧
    (∀ (bytes : Bytes) (sized : bytes.length = 80),
      ofBytes? bytes = some (ofRanges bytes sized)) ∧
    (∀ bytes : Bytes, bytes.length = 80 → ∃! header : BlockHeader, header.toBytes = bytes) ∧
    (∀ first second : BlockHeader, first ≠ second → first.toBytes ≠ second.toBytes) ∧
    (∀ (first second : BlockHeader) (field : Field), field.Agrees first second ↔
      ∀ place, field.Covers place → first.toBytes[place]? = second.toBytes[place]?) ∧
    ∀ (first second : BlockHeader) (changed : Field),
      (∀ field : Field, field ≠ changed → field.Agrees first second) →
        ∀ place, first.toBytes[place]? ≠ second.toBytes[place]? → changed.Covers place := by
  refine ⟨fun place inside => Field.countP_covers inside,
    fun header field => field.start_add_length_bytes header,
    fun header buffer sized => writeFields_eq_toBytes Field.mem_all sized, ofRanges_toBytes,
    fun bytes sized => ofBytes?_eq_some_ofRanges sized, ?_,
    fun first second different same => different (eq_of_toBytes_eq same),
    fun first second field => Field.agrees_iff_getElem?_eq, ?_⟩
  · intro bytes sized
    refine ⟨ofRanges bytes sized, toBytes_ofRanges sized, ?_⟩
    rintro header rfl
    exact (ofRanges_toBytes header).symm
  · intro first second changed agree place different
    rcases Field.exists_not_agrees_of_getElem?_ne different with ⟨field, covers, disagree⟩
    by_cases same : field = changed
    · rwa [← same]
    · exact absurd (agree field same) disagree

/-- A header with a negative version, and the nonce given. -/
def negative (nonce : UInt32) : BlockHeader := ⟨-2, .zero, .zero, 1405274442, 0x1d00ffff, nonce⟩

/-- Written over eighty bytes `0xff`, the header leaves none of them; these bytes themselves are a
header of version minus one.  A change of the nonce shows behind the first seventy-six bytes. -/
theorem ofRanges_toBytes_and_existsUnique_toBytes_eq_negative :
    (negative 7).writeFields Field.all (List.replicate 80 0xff) = (negative 7).toBytes ∧
      (ofRanges (List.replicate 80 0xff) rfl).version = -1 ∧
      (∃! header : BlockHeader, header.toBytes = List.replicate 80 0xff) ∧
      (negative 7).toBytes ≠ (negative 8).toBytes ∧
      Field.all.countP (fun field => field.Covers 76) = 1 ∧ Field.nonce.Covers 76 := by
  rcases ofRanges_toBytes_and_existsUnique_toBytes_eq with
    ⟨counted, _, written, _, _, existsUnique, distinct, _, confined⟩
  refine ⟨written (negative 7) _ List.length_replicate, by decide,
    existsUnique _ List.length_replicate, distinct _ _ (by decide), counted 76 (by decide), ?_⟩
  apply confined (negative 7) (negative 8) .nonce
  · intro field other
    cases field <;> first | rfl | exact absurd rfl other
  · decide

end BlockHeader

end ChainProfile
