import ChainProfile.Merkle
import ChainProfile.Transaction

/-!
# Blocks

A block is a header of eighty bytes and the transactions that the header's
Merkle root commits to.  Hashing the header identifies the block.
-/

namespace ChainProfile

/-- The part of a block that is hashed. -/
structure BlockHeader where
  version : Int32
  previous : Digest
  merkleRoot : Digest
  /-- Seconds since the epoch. -/
  time : UInt32
  /-- The target in compact form. -/
  bits : UInt32
  nonce : UInt32
deriving DecidableEq

namespace BlockHeader

/-- The eighty bytes of a header, its fields one after another with the lowest byte first. -/
def toBytes (header : BlockHeader) : Bytes :=
  littleEndian 4 header.version.toUInt32.toNat ++
    (header.previous.bytes ++
      (header.merkleRoot.bytes ++
        (littleEndian 4 header.time.toNat ++
          (littleEndian 4 header.bits.toNat ++ littleEndian 4 header.nonce.toNat))))

@[simp]
theorem length_toBytes (header : BlockHeader) : header.toBytes.length = 80 := by
  simp [toBytes, header.previous.length_bytes, header.merkleRoot.length_bytes]

/-- The hash that identifies a block. -/
def digest (header : BlockHeader) : Digest := doubleSha256 header.toBytes

end BlockHeader

/-- A header with the transactions of its block. -/
structure Block where
  header : BlockHeader
  transactions : List Transaction
deriving DecidableEq

namespace Block

/-- The hash of the header. -/
def digest (block : Block) : Digest := block.header.digest

/-- The hashes that identify the transactions, in their order. -/
def txids (block : Block) : List Digest := block.transactions.map Transaction.txid

/-- The Merkle root over the transactions, whatever the header says. -/
def merkleRoot (block : Block) : Digest := Merkle.root block.txids

/-- Writes the Merkle root of the transactions into the header. -/
def sealed (block : Block) : Block :=
  { block with header := { block.header with merkleRoot := block.merkleRoot } }

/-- Whether the header commits to the transactions. -/
def IsSealed (block : Block) : Prop := block.header.merkleRoot = block.merkleRoot

instance (block : Block) : Decidable block.IsSealed :=
  inferInstanceAs (Decidable (block.header.merkleRoot = block.merkleRoot))

/-- A block without a parent starts a chain. -/
def isGenesis (block : Block) : Bool := block.header.previous = .zero

/-- Every byte string that is hashed to identify a block and to commit to its transactions. -/
def preimages (block : Block) : List Bytes :=
  block.header.toBytes :: block.transactions.map Transaction.toBytes ++
    (Merkle.hashedPairs block.txids).map fun (left, right) => left.bytes ++ right.bytes

end Block

end ChainProfile
