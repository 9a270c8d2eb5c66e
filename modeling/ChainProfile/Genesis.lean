import ChainProfile.Block

/-!
# Genesis blocks

The first block of a chain is rebuilt from a handful of inputs.  Its coinbase
carries a message and pays a fixed reward; the header commits to that coinbase
directly, as a single transaction is its own Merkle root.
-/

namespace ChainProfile

/-- The inputs that a genesis block is rebuilt from. -/
structure GenesisSpec where
  /-- The text carried by the coinbase. -/
  message : String
  /-- The script that the reward is paid to. -/
  payout : Script
  time : UInt32
  bits : UInt32
  nonce : UInt32
deriving DecidableEq

namespace Genesis

/-- The smallest units in one coin. -/
def coin : Int64 := 100000000

/-- The amount that a genesis coinbase pays. -/
def reward : Int64 := 20 * coin

/-- The public key that every network's genesis coinbase pays to. -/
def payoutKey : Bytes := bigEndian 65
  0x04f88a76429dad346a10ecb5d36fcbf50bc2e009870e20c1a6df8db743e0b994afc1f91e079be8acc380b0ee7765519906e3d781519e9db48259f64160104939d8

/-- The script that every network's genesis coinbase pays to. -/
def payoutScript : Script := (Script.empty.pushData payoutKey).pushOpcode Script.checkSignature

/-- The script of a genesis coinbase: two numbers fixed by custom, then the message. -/
def spendScript (message : String) : Script :=
  ((Script.empty.pushInteger 486604799).pushNumber 4).pushData (utf8 message)

/-- The only transaction of a genesis block. -/
def coinbase (message : String) (payout : Script) : Transaction :=
  .coinbase (spendScript message) reward payout

/-- Rebuilds a genesis block.  Its header takes the hash of the coinbase for the Merkle root. -/
def block (spec : GenesisSpec) : Block :=
  let transaction := coinbase spec.message spec.payout
  { header :=
      { version := 1, previous := .zero, merkleRoot := transaction.txid
        time := spec.time, bits := spec.bits, nonce := spec.nonce }
    transactions := [transaction] }

end Genesis

/-- What a summary says of a genesis block. -/
structure GenesisInfo where
  digest : Digest
  merkleRoot : Digest
  time : UInt32
  bits : UInt32
  nonce : UInt32
  /-- What the first transaction pays in all. -/
  reward : Int64
deriving DecidableEq

/-- Summarizes a block.  The root is taken from its header. -/
def GenesisInfo.ofBlock (block : Block) : GenesisInfo where
  digest := block.digest
  merkleRoot := block.header.merkleRoot
  time := block.header.time
  bits := block.header.bits
  nonce := block.header.nonce
  reward := (block.transactions.head?.map Transaction.totalOutput).getD 0

end ChainProfile
