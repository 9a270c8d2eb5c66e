import ChainProfile.CompactSize
import ChainProfile.Digest
import ChainProfile.Script

/-!
# Transactions

A transaction spends outputs of earlier transactions and creates new ones.  Its
serialisation puts every count and every script length in front as a compact
size, and the double SHA-256 of that serialisation is its identifier.
-/

namespace ChainProfile

/-- A reference to an output of an earlier transaction. -/
structure OutPoint where
  txid : Digest
  index : UInt32
deriving DecidableEq

/-- What a transaction spends. -/
structure TxInput where
  source : OutPoint
  script : Script
  sequence : UInt32
deriving DecidableEq

/-- What a transaction creates: an amount and the script that guards it. -/
structure TxOutput where
  value : Int64
  script : Script
deriving DecidableEq

/-- What is spent and what is created. -/
structure Transaction where
  version : Int32
  inputs : List TxInput
  outputs : List TxOutput
  lockTime : UInt32
deriving DecidableEq

/-- The sequence number of a final input. -/
def finalSequence : UInt32 := 0xffffffff

namespace OutPoint

/-- The reference of a coinbase input, which spends nothing. -/
def null : OutPoint := ⟨.zero, 0xffffffff⟩

/-- Whether a reference is that of a coinbase input. -/
def isNull (outPoint : OutPoint) : Bool := outPoint = null

/-- The digest and the index of a reference. -/
def toBytes (outPoint : OutPoint) : Bytes :=
  outPoint.txid.bytes ++ littleEndian 4 outPoint.index.toNat

end OutPoint

/-- A script behind its length. -/
def Script.toField (script : Script) : Bytes :=
  CompactSize.encode (UInt64.ofNat script.length) ++ script.bytes

/-- The reference, the script and the sequence number of an input. -/
def TxInput.toBytes (input : TxInput) : Bytes :=
  input.source.toBytes ++ (input.script.toField ++ littleEndian 4 input.sequence.toNat)

/-- The amount in two's complement and the script. -/
def TxOutput.toBytes (output : TxOutput) : Bytes :=
  littleEndian 8 output.value.toUInt64.toNat ++ output.script.toField

/-- The records of a list behind their number. -/
def countedBytes {Record : Type} (toBytes : Record → Bytes) (records : List Record) : Bytes :=
  CompactSize.encode (UInt64.ofNat records.length) ++ records.flatMap toBytes

namespace Transaction

/-- The transaction that pays a new amount without spending an output. -/
def coinbase (spend : Script) (value : Int64) (payout : Script) : Transaction where
  version := 1
  inputs := [⟨.null, spend, finalSequence⟩]
  outputs := [⟨value, payout⟩]
  lockTime := 0

/-- A coinbase has one input, and that input spends nothing. -/
def isCoinbase (transaction : Transaction) : Bool :=
  match transaction.inputs with
  | [input] => input.source.isNull
  | _ => false

/-- The serialisation of a transaction: the version, the inputs, the outputs and the lock time. -/
def toBytes (transaction : Transaction) : Bytes :=
  littleEndian 4 transaction.version.toUInt32.toNat ++
    (countedBytes TxInput.toBytes transaction.inputs ++
      (countedBytes TxOutput.toBytes transaction.outputs ++
        littleEndian 4 transaction.lockTime.toNat))

/-- The hash that identifies a transaction. -/
def txid (transaction : Transaction) : Digest := doubleSha256 transaction.toBytes

/-- A transaction whose counts and script lengths fit the 64 bits that their fields have. -/
structure IsSized (transaction : Transaction) : Prop where
  inputs : transaction.inputs.length < UInt64.size
  outputs : transaction.outputs.length < UInt64.size
  inputScripts : ∀ input ∈ transaction.inputs, input.script.length < UInt64.size
  outputScripts : ∀ output ∈ transaction.outputs, output.script.length < UInt64.size

/-- The sum of the amounts that a transaction creates. -/
def totalOutput (transaction : Transaction) : Int64 :=
  (transaction.outputs.map TxOutput.value).sum

end Transaction

end ChainProfile
