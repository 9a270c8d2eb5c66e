import ChainProfile.Proofs.CompactSize

/-!
# Reading back transactions

Every part of a transaction is a self-delimiting format: numbers have fields of
fixed width, and a script or a list stands behind its length.  A serialised
transaction is therefore read back whatever follows it, the strict reader accepts
no other bytes for it, and it is never the beginning of another one.

The counts and lengths are written with 64 bits, so all this is about values that
are `IsSized`; whatever the reader returns is.
-/

namespace ChainProfile

namespace SelfDelimiting

variable {Record : Type} {Fits : Record → Prop} {write : Record → Bytes}
  {read : Bytes → Option (Record × Bytes)}

theorem ofNat_eq_and_lt_iff {count : Nat} {size : UInt64} :
    count < 2 ^ 64 ∧ UInt64.ofNat count = size ↔ count = size.toNat := by
  constructor
  · rintro ⟨fits, rfl⟩
    exact (UInt64.toNat_ofNat_of_lt' fits).symm
  · rintro rfl
    exact ⟨size.toNat_lt, UInt64.ofNat_toNat⟩

/-- A list of records behind their number. -/
theorem counted (format : SelfDelimiting Fits write read) :
    SelfDelimiting (fun records => records.length < 2 ^ 64 ∧ ∀ record ∈ records, Fits record)
      (countedBytes write) (readCounted read) := by
  apply headed (fun records : List Record => UInt64.ofNat records.length)
    CompactSize.selfDelimiting (fun _ _ => trivial)
  intro count _
  apply (format.many count.toNat).congr
  intro records
  rw [← ofNat_eq_and_lt_iff]
  exact and_right_comm

end SelfDelimiting

open SelfDelimiting

namespace Digest

theorem selfDelimiting : SelfDelimiting (fun _ => True) Digest.bytes Digest.read where
  read_append := by
    intro digest _ rest
    have taken := takeField_append digest.bytes rest
    rw [digest.length_bytes] at taken
    simp [Digest.read, taken, ofBytes?, digest.length_bytes]
  eq_append := by
    intro bytes rest digest result
    refine ⟨trivial, ?_⟩
    cases taken : takeField 32 bytes with
    | none => simp [Digest.read, taken] at result
    | some split =>
        rcases split with ⟨field, behind⟩
        rcases eq_append_of_takeField taken with ⟨whole, sized⟩
        simp only [Digest.read, taken, ofBytes?, Option.bind_eq_bind, Option.bind_some,
          dif_pos sized, Option.pure_def, Option.some.injEq, Prod.mk.injEq] at result
        rcases result with ⟨rfl, rfl⟩
        exact whole

end Digest

theorem Script.selfDelimiting :
    SelfDelimiting (fun script => script.length < 2 ^ 64) Script.toField Script.read := by
  apply headed (fun script : Script => UInt64.ofNat script.length) CompactSize.selfDelimiting
    (fun _ _ => trivial)
  intro length _
  apply mapped Script.bytes Script.mk (byteField length.toNat) (fun _ _ => rfl)
  intro script bytes
  rw [ofNat_eq_and_lt_iff]
  constructor
  · rintro ⟨sized, rfl⟩
    exact ⟨sized, rfl⟩
  · rintro ⟨sized, rfl⟩
    exact ⟨sized, rfl⟩

/-- A word is written in a field and restored from it. -/
theorem toNat_eq_iff_ofNat {word : UInt32} {found : Nat} :
    word.toNat = found ↔ found < 256 ^ 4 ∧ word = UInt32.ofNat found := by
  constructor
  · rintro rfl
    exact ⟨word.toNat_lt, UInt32.ofNat_toNat.symm⟩
  · rintro ⟨fits, rfl⟩
    exact UInt32.toNat_ofNat_of_lt' fits

theorem signed32_eq_iff_ofNat {value : Int32} {found : Nat} :
    value.toUInt32.toNat = found ↔ found < 256 ^ 4 ∧ value = (UInt32.ofNat found).toInt32 := by
  rw [toNat_eq_iff_ofNat]
  constructor
  · rintro ⟨fits, same⟩
    exact ⟨fits, by rw [← same, Int32.toInt32_toUInt32]⟩
  · rintro ⟨fits, rfl⟩
    exact ⟨fits, UInt32.toUInt32_toInt32 _⟩

theorem signed64_eq_iff_ofNat {value : Int64} {found : Nat} :
    value.toUInt64.toNat = found ↔ found < 256 ^ 8 ∧ value = (UInt64.ofNat found).toInt64 := by
  constructor
  · rintro rfl
    exact ⟨value.toUInt64.toNat_lt, by rw [UInt64.ofNat_toNat, Int64.toInt64_toUInt64]⟩
  · rintro ⟨fits, rfl⟩
    rw [UInt64.toUInt64_toInt64]
    exact UInt64.toNat_ofNat_of_lt' fits

theorem OutPoint.selfDelimiting :
    SelfDelimiting (fun _ => True) OutPoint.toBytes OutPoint.read := by
  apply headed OutPoint.txid Digest.selfDelimiting (fun _ _ => trivial)
  intro txid _
  apply mapped (fun outPoint : OutPoint => outPoint.index.toNat)
    (fun index => ⟨txid, UInt32.ofNat index⟩) (littleEndianField 4) (fun _ _ => rfl)
  intro outPoint index
  rw [toNat_eq_iff_ofNat]
  constructor
  · rintro ⟨⟨_, rfl⟩, fits, same⟩
    exact ⟨fits, by rw [← same]⟩
  · rintro ⟨fits, rfl⟩
    exact ⟨⟨trivial, rfl⟩, fits, rfl⟩

theorem TxInput.selfDelimiting :
    SelfDelimiting (fun input => input.script.length < 2 ^ 64) TxInput.toBytes TxInput.read := by
  apply headed TxInput.source OutPoint.selfDelimiting (fun _ _ => trivial)
  intro source _
  apply headed TxInput.script Script.selfDelimiting (fun _ fits => fits.1)
  intro script scriptFits
  apply mapped (fun input : TxInput => input.sequence.toNat)
    (fun sequence => ⟨source, script, UInt32.ofNat sequence⟩) (littleEndianField 4)
    (fun _ _ => rfl)
  intro input sequence
  rw [toNat_eq_iff_ofNat]
  constructor
  · rintro ⟨⟨⟨_, rfl⟩, rfl⟩, fits, same⟩
    exact ⟨fits, by rw [← same]⟩
  · rintro ⟨fits, rfl⟩
    exact ⟨⟨⟨scriptFits, rfl⟩, rfl⟩, fits, rfl⟩

theorem TxOutput.selfDelimiting :
    SelfDelimiting (fun output => output.script.length < 2 ^ 64) TxOutput.toBytes
      TxOutput.read := by
  apply headed (fun output : TxOutput => output.value.toUInt64.toNat) (littleEndianField 8)
    (fun output _ => output.value.toUInt64.toNat_lt)
  intro value valueFits
  apply mapped TxOutput.script (fun script => ⟨(UInt64.ofNat value).toInt64, script⟩)
    Script.selfDelimiting (fun _ _ => rfl)
  intro output script
  rw [signed64_eq_iff_ofNat]
  constructor
  · rintro ⟨⟨fits, _, same⟩, rfl⟩
    exact ⟨fits, by rw [← same]⟩
  · rintro ⟨fits, rfl⟩
    exact ⟨⟨fits, valueFits, rfl⟩, rfl⟩

namespace Transaction

theorem selfDelimiting : SelfDelimiting IsSized toBytes read := by
  apply headed (fun transaction : Transaction => transaction.version.toUInt32.toNat)
    (littleEndianField 4) (fun transaction _ => transaction.version.toUInt32.toNat_lt)
  intro version versionFits
  apply headed Transaction.inputs (counted TxInput.selfDelimiting)
    (fun _ fits => ⟨fits.1.inputs, fits.1.inputScripts⟩)
  intro inputs inputsFit
  apply headed Transaction.outputs (counted TxOutput.selfDelimiting)
    (fun _ fits => ⟨fits.1.1.outputs, fits.1.1.outputScripts⟩)
  intro outputs outputsFit
  apply mapped (fun transaction : Transaction => transaction.lockTime.toNat)
    (fun lockTime => ⟨(UInt32.ofNat version).toInt32, inputs, outputs, UInt32.ofNat lockTime⟩)
    (littleEndianField 4) (fun _ _ => rfl)
  intro transaction lockTime
  rw [signed32_eq_iff_ofNat, toNat_eq_iff_ofNat]
  constructor
  · rintro ⟨⟨⟨⟨_, _, sameVersion⟩, rfl⟩, rfl⟩, fits, sameLockTime⟩
    exact ⟨fits, by rw [← sameVersion, ← sameLockTime]⟩
  · rintro ⟨fits, rfl⟩
    refine ⟨⟨⟨⟨?_, versionFits, rfl⟩, rfl⟩, rfl⟩, fits, rfl⟩
    exact ⟨inputsFit.1, outputsFit.1, inputsFit.2, outputsFit.2⟩

/-- The strict reader returns a transaction exactly from its serialised form, whatever follows, and
the serialised form of one transaction is never the beginning of that of another. -/
theorem read_append_iff_and_isPrefix_iff :
    (∀ (bytes rest : Bytes) (transaction : Transaction),
      read (bytes ++ rest) = some (transaction, rest) ↔
        transaction.IsSized ∧ transaction.toBytes = bytes) ∧
      ∀ first second : Transaction, first.IsSized → second.IsSized →
        (first.toBytes <+: second.toBytes ↔ first = second) := by
  constructor
  · intro bytes rest transaction
    constructor
    · intro result
      rcases selfDelimiting.eq_append result with ⟨sized, whole⟩
      exact ⟨sized, (List.append_cancel_right whole).symm⟩
    · rintro ⟨sized, rfl⟩
      exact selfDelimiting.read_append sized rest
  · intro first second firstSized secondSized
    constructor
    · exact selfDelimiting.eq_of_isPrefix firstSized secondSized
    · rintro rfl
      exact List.prefix_rfl

/-- A transaction with numbers below zero and a script whose length takes three bytes. -/
def assorted : Transaction where
  version := -1
  inputs := [⟨⟨.zero, 7⟩, ⟨List.replicate 253 0xab⟩, 0⟩, ⟨.null, .empty, finalSequence⟩]
  outputs := [⟨-5, ⟨[0xfd]⟩⟩, ⟨0, .empty⟩]
  lockTime := 500000

theorem isSized_assorted : IsSized assorted where
  inputs := by decide
  outputs := by decide
  inputScripts := by decide +kernel
  outputScripts := by decide

theorem read_append_assorted :
    assorted.IsSized ∧ read (assorted.toBytes ++ [0xfd]) = some (assorted, [0xfd]) ∧
      ¬assorted.toBytes <+: { assorted with lockTime := 0 }.toBytes := by
  have sized := isSized_assorted
  refine ⟨sized, ?_, ?_⟩
  · exact (read_append_iff_and_isPrefix_iff.1 _ _ _).mpr ⟨sized, rfl⟩
  · have otherSized : IsSized { assorted with lockTime := 0 } :=
      ⟨sized.inputs, sized.outputs, sized.inputScripts, sized.outputScripts⟩
    intro begins
    have same := (read_append_iff_and_isPrefix_iff.2 _ _ sized otherSized).mp begins
    exact absurd (congrArg lockTime same) (by decide)

end Transaction

end ChainProfile
