import ChainProfile.Base58.PrefixTable
import ChainProfile.Block
import ChainProfile.Emission
import ChainProfile.Genesis
import ChainProfile.Json.Form
import ChainProfile.Network
import ChainProfile.Peer

/-!
# Chain data in JSON

The JSON forms of transactions, blocks, networks, peers and their parts.  Byte
strings are arrays of numbers, a digest among them in hash order; the field names
are fixed by the data files that use them.
-/

namespace ChainProfile

open JsonForm

/-- A digest is an array of its bytes in hash order. -/
instance : JsonForm Digest where
  toJson digest := toJson digest.bytes
  ofJson? json := ofJson? json >>= Digest.ofBytes?

/-- A script is an array of its bytes. -/
instance : JsonForm Script where
  toJson script := toJson script.bytes
  ofJson? json := (ofJson? json).map Script.mk

instance : JsonForm OutPoint where
  toJson outPoint :=
    .record [("tx_hash", toJson outPoint.txid), ("index", toJson outPoint.index)]
  ofJson? json := do
    let [txid, index] ← json.allFields? ["tx_hash", "index"] | none
    return ⟨← ofJson? txid, ← ofJson? index⟩

instance : JsonForm TxInput where
  toJson input :=
    .record [("prev_out", toJson input.source), ("script_sig", toJson input.script),
      ("sequence", toJson input.sequence)]
  ofJson? json := do
    let [source, script, sequence] ← json.allFields? ["prev_out", "script_sig", "sequence"] | none
    return ⟨← ofJson? source, ← ofJson? script, ← ofJson? sequence⟩

instance : JsonForm TxOutput where
  toJson output :=
    .record [("value", toJson output.value), ("script_pubkey", toJson output.script)]
  ofJson? json := do
    let [value, script] ← json.allFields? ["value", "script_pubkey"] | none
    return ⟨← ofJson? value, ← ofJson? script⟩

instance : JsonForm Transaction where
  toJson transaction :=
    .record [("version", toJson transaction.version), ("inputs", toJson transaction.inputs),
      ("outputs", toJson transaction.outputs), ("lock_time", toJson transaction.lockTime)]
  ofJson? json := do
    let [version, inputs, outputs, lockTime] ←
      json.allFields? ["version", "inputs", "outputs", "lock_time"] | none
    return ⟨← ofJson? version, ← ofJson? inputs, ← ofJson? outputs, ← ofJson? lockTime⟩

instance : JsonForm BlockHeader where
  toJson header :=
    .record [("version", toJson header.version), ("prev_hash", toJson header.previous),
      ("merkle_root", toJson header.merkleRoot), ("time", toJson header.time),
      ("bits", toJson header.bits), ("nonce", toJson header.nonce)]
  ofJson? json := do
    let [version, previous, merkleRoot, time, bits, nonce] ←
      json.allFields? ["version", "prev_hash", "merkle_root", "time", "bits", "nonce"] | none
    return ⟨← ofJson? version, ← ofJson? previous, ← ofJson? merkleRoot, ← ofJson? time,
      ← ofJson? bits, ← ofJson? nonce⟩

instance : JsonForm Block where
  toJson block :=
    .record [("header", toJson block.header), ("transactions", toJson block.transactions)]
  ofJson? json := do
    let [header, transactions] ← json.allFields? ["header", "transactions"] | none
    return ⟨← ofJson? header, ← ofJson? transactions⟩

instance : JsonForm EmissionSchedule where
  toJson schedule :=
    .record [("halving_interval", toJson schedule.halvingInterval),
      ("fork2_height", toJson schedule.fork2Height)]
  ofJson? json := do
    let [halvingInterval, fork2Height] ←
      json.allFields? ["halving_interval", "fork2_height"] | none
    return ⟨← ofJson? halvingInterval, ← ofJson? fork2Height⟩

/-- A network is its identifier, and no other name of it is read. -/
instance : JsonForm Network where
  toJson network := toJson network.identifier
  ofJson? :=
    Json.choice? fun name => Network.all.find? fun network => network.identifier == name

/-- A kind is its name. -/
instance : JsonForm KeyKind where
  toJson kind := toJson kind.name
  ofJson? := Json.choice? KeyKind.ofName?

/-- A table is an array of its five entries. -/
instance : JsonForm PrefixTable where
  toJson table := toJson (KeyKind.all.map table.get)
  ofJson? json := ofJson? json >>= PrefixTable.ofList?

instance : JsonForm DnsSeed where
  toJson seed := .record [("name", toJson seed.name), ("host", toJson seed.host)]
  ofJson? json := do
    let [name, host] ← json.allFields? ["name", "host"] | none
    return ⟨← ofJson? name, ← ofJson? host⟩

/-- An address is its text. -/
instance : JsonForm SocketAddress where
  toJson address := toJson address.toText
  ofJson? json := ofJson? json >>= SocketAddress.ofText?

instance : JsonForm PeerAddress where
  toJson peer :=
    .record [("addr", toJson peer.address), ("services", toJson peer.services),
      ("time", toJson peer.time)]
  ofJson? json := do
    let [address, services, time] ← json.allFields? ["addr", "services", "time"] | none
    return ⟨← ofJson? address, ← ofJson? services, ← ofJson? time⟩

instance : JsonForm GenesisSpec where
  toJson spec :=
    .record [("coinbase_message", toJson spec.message), ("payout_script", toJson spec.payout),
      ("time", toJson spec.time), ("bits", toJson spec.bits), ("nonce", toJson spec.nonce)]
  ofJson? json := do
    let [message, payout, time, bits, nonce] ←
      json.allFields? ["coinbase_message", "payout_script", "time", "bits", "nonce"] | none
    return ⟨← ofJson? message, ← ofJson? payout, ← ofJson? time, ← ofJson? bits, ← ofJson? nonce⟩

/-- A report on a genesis block, which is written and never read. -/
def GenesisInfo.toJson (info : GenesisInfo) : Json :=
  .record [("hash", JsonForm.toJson info.digest), ("merkle_root", JsonForm.toJson info.merkleRoot),
    ("time", JsonForm.toJson info.time), ("bits", JsonForm.toJson info.bits),
    ("nonce", JsonForm.toJson info.nonce), ("reward", JsonForm.toJson info.reward)]

end ChainProfile
