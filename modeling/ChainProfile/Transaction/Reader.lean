import ChainProfile.Transaction

/-!
# Reading transactions

The strict reader of the serialised form: every count and length has to be in
its shortest form.  Each reader returns what follows the part it read, so
readers are composed by passing the rest along.
-/

namespace ChainProfile

/-- Reads a given number of records. -/
def readMany {Record : Type} (read : Bytes → Option (Record × Bytes)) :
    Nat → Bytes → Option (List Record × Bytes)
  | 0, bytes => some ([], bytes)
  | count + 1, bytes => do
      let (record, rest) ← read bytes
      let (records, after) ← readMany read count rest
      return (record :: records, after)

/-- Reads a count in its shortest form and that many records. -/
def readCounted {Record : Type} (read : Bytes → Option (Record × Bytes)) (bytes : Bytes) :
    Option (List Record × Bytes) := do
  let (count, rest) ← CompactSize.readShortest bytes
  readMany read count.toNat rest

/-- Reads a digest in hash order. -/
def Digest.read (bytes : Bytes) : Option (Digest × Bytes) := do
  let (field, rest) ← takeField 32 bytes
  let digest ← Digest.ofBytes? field
  return (digest, rest)

/-- Reads a length in its shortest form and a script of that length. -/
def Script.read (bytes : Bytes) : Option (Script × Bytes) := do
  let (length, rest) ← CompactSize.readShortest bytes
  let (field, after) ← takeField length.toNat rest
  return (⟨field⟩, after)

/-- Reads a reference to an output. -/
def OutPoint.read (bytes : Bytes) : Option (OutPoint × Bytes) := do
  let (txid, rest) ← Digest.read bytes
  let (index, after) ← readLittleEndian 4 rest
  return (⟨txid, UInt32.ofNat index⟩, after)

/-- Reads an input. -/
def TxInput.read (bytes : Bytes) : Option (TxInput × Bytes) := do
  let (source, rest) ← OutPoint.read bytes
  let (script, behind) ← Script.read rest
  let (sequence, after) ← readLittleEndian 4 behind
  return (⟨source, script, UInt32.ofNat sequence⟩, after)

/-- Reads an output. -/
def TxOutput.read (bytes : Bytes) : Option (TxOutput × Bytes) := do
  let (value, rest) ← readLittleEndian 8 bytes
  let (script, after) ← Script.read rest
  return (⟨(UInt64.ofNat value).toInt64, script⟩, after)

/-- Reads a transaction and returns what follows it. -/
def Transaction.read (bytes : Bytes) : Option (Transaction × Bytes) := do
  let (version, afterVersion) ← readLittleEndian 4 bytes
  let (inputs, afterInputs) ← readCounted TxInput.read afterVersion
  let (outputs, afterOutputs) ← readCounted TxOutput.read afterInputs
  let (lockTime, after) ← readLittleEndian 4 afterOutputs
  return (⟨(UInt32.ofNat version).toInt32, inputs, outputs, UInt32.ofNat lockTime⟩, after)

end ChainProfile
