import ChainProfile.Block
import ChainProfile.Transaction.Reader

/-!
# Reading block headers

The fields of a header stand at fixed places, so any eighty bytes are a header.
-/

namespace ChainProfile.BlockHeader

/-- Reads a header and returns what follows it. -/
def read (bytes : Bytes) : Option (BlockHeader × Bytes) := do
  let (version, afterVersion) ← readLittleEndian 4 bytes
  let (previous, afterPrevious) ← Digest.read afterVersion
  let (merkleRoot, afterRoot) ← Digest.read afterPrevious
  let (time, afterTime) ← readLittleEndian 4 afterRoot
  let (bits, afterBits) ← readLittleEndian 4 afterTime
  let (nonce, after) ← readLittleEndian 4 afterBits
  return (⟨(UInt32.ofNat version).toInt32, previous, merkleRoot, UInt32.ofNat time,
    UInt32.ofNat bits, UInt32.ofNat nonce⟩, after)

/-- The header that a whole byte string is. -/
def ofBytes? (bytes : Bytes) : Option BlockHeader := do
  let (header, rest) ← read bytes
  if rest.isEmpty then return header else none

end ChainProfile.BlockHeader
