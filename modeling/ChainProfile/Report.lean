import ChainProfile.Json.ChainData
import ChainProfile.Parameters

/-!
# Reports on parameters

The parameters of a network are reported as a record of printable values, which
has a JSON form, or as a banner of lines for a terminal.
-/

namespace ChainProfile

/-- The parameters of a network as they are printed. -/
structure ParameterSummary where
  network : Network
  messageStart : String
  defaultPort : UInt16
  rpcPort : UInt16
  targetLimit : String
  halvingInterval : UInt32
  interimInterval : UInt32
  fork2Height : UInt64
  auxpowChainId : Int16
  strictChainId : Bool
  dataDirectory : String
  requiresRpcPassword : Bool
  prefixes : List (KeyKind × String)
  dnsSeeds : List DnsSeed
  fixedSeeds : List PeerAddress
  genesisHash : String
  genesisMerkleRoot : String
  genesisTime : UInt32
  genesisBits : String
  genesisNonce : UInt32
deriving DecidableEq

/-- A compact target in eight hexadecimal digits behind their mark. -/
def bitsText (bits : UInt32) : String := "0x" ++ Hex.fixed 8 bits.toNat

namespace ParameterSummary

/-- The printed form of parameters. -/
def ofParameters (parameters : Parameters) : ParameterSummary where
  network := parameters.network
  messageStart := Hex.encode parameters.messageStart
  defaultPort := parameters.defaultPort
  rpcPort := parameters.rpcPort
  targetLimit := Hex.encode parameters.targetLimit.toBytes
  halvingInterval := parameters.emission.halvingInterval
  interimInterval := parameters.emission.interimInterval
  fork2Height := parameters.emission.fork2Height
  auxpowChainId := parameters.auxpowChainId
  strictChainId := parameters.strictChainId
  dataDirectory := parameters.dataDirectory
  requiresRpcPassword := parameters.requiresRpcPassword
  prefixes := parameters.prefixes.entries.map fun (kind, bytes) => (kind, Hex.encode bytes)
  dnsSeeds := parameters.dnsSeeds
  fixedSeeds := parameters.fixedSeeds
  genesisHash := parameters.genesisHash.toHex
  genesisMerkleRoot := parameters.genesis.header.merkleRoot.toHex
  genesisTime := parameters.genesis.header.time
  genesisBits := bitsText parameters.genesis.header.bits
  genesisNonce := parameters.genesis.header.nonce

/-- The record that a summary is printed as. -/
def toJson (summary : ParameterSummary) : Json :=
  .record [
    ("network", JsonForm.toJson summary.network),
    ("message_start", JsonForm.toJson summary.messageStart),
    ("default_port", JsonForm.toJson summary.defaultPort),
    ("rpc_port", JsonForm.toJson summary.rpcPort),
    ("pow_limit", JsonForm.toJson summary.targetLimit),
    ("subsidy_halving_interval", JsonForm.toJson summary.halvingInterval),
    ("subsidy_interim_interval", JsonForm.toJson summary.interimInterval),
    ("fork2_height", JsonForm.toJson summary.fork2Height),
    ("auxpow_chain_id", JsonForm.toJson summary.auxpowChainId),
    ("strict_chain_id", JsonForm.toJson summary.strictChainId),
    ("data_dir", JsonForm.toJson summary.dataDirectory),
    ("requires_rpc_password", JsonForm.toJson summary.requiresRpcPassword),
    ("base58_prefixes",
      .array (summary.prefixes.map fun (kind, text) =>
        .array [JsonForm.toJson kind, JsonForm.toJson text])),
    ("dns_seeds", JsonForm.toJson summary.dnsSeeds),
    ("fixed_seeds", JsonForm.toJson summary.fixedSeeds),
    ("genesis_hash", JsonForm.toJson summary.genesisHash),
    ("genesis_merkle_root", JsonForm.toJson summary.genesisMerkleRoot),
    ("genesis_time", JsonForm.toJson summary.genesisTime),
    ("genesis_bits", JsonForm.toJson summary.genesisBits),
    ("genesis_nonce", JsonForm.toJson summary.genesisNonce)]

end ParameterSummary

namespace Parameters

/-- The lines of the report in JSON. -/
def summaryLines (parameters : Parameters) : List String :=
  (ParameterSummary.ofParameters parameters).toJson.layout

/-- The data directory as it is shown. -/
def shownDirectory (parameters : Parameters) : String :=
  if parameters.dataDirectory.isEmpty then "(root)" else parameters.dataDirectory

/-- The lines of the report for a terminal. -/
def bannerLines (parameters : Parameters) : List String :=
  let genesis := GenesisInfo.ofBlock parameters.genesis
  let password := if parameters.requiresRpcPassword then "required" else "optional"
  [ "Bitmark (BMK) node",
    "",
    s!"Network:        {parameters.network.name}",
    s!"Message start:  {Hex.encode parameters.messageStart}",
    s!"P2P port:       {parameters.defaultPort.toNat}",
    s!"RPC port:       {parameters.rpcPort.toNat}",
    s!"Data dir:       {parameters.shownDirectory}",
    s!"RPC password:   {password}",
    "",
    "Genesis Block Information:",
    s!"  Hash:        {genesis.digest.toHex}",
    s!"  Merkle Root: {genesis.merkleRoot.toHex}",
    s!"  Time:        {genesis.time.toNat}",
    s!"  Bits:        {bitsText genesis.bits}",
    s!"  Nonce:       {genesis.nonce.toNat}",
    "",
    "Emission:",
    s!"  Halving interval: {parameters.emission.halvingInterval.toNat}",
    s!"  Fork 2 height:    {parameters.emission.fork2Height.toNat}",
    "",
    s!"Seeds: {parameters.dnsSeeds.length} DNS, {parameters.fixedSeeds.length} fixed" ] ++
  parameters.dnsSeeds.map (fun seed => s!"  {seed.host} ({seed.name})") ++
  parameters.fixedSeeds.map (fun seed => s!"  {seed.address.toText}")

end Parameters

end ChainProfile
