import ChainProfile.Emission
import ChainProfile.Error
import ChainProfile.Genesis
import ChainProfile.Peer

/-!
# Profiles

A profile is a network's constants before they are checked.  The production
profile states every field; the test profile is the production profile with some
fields replaced, and the regression profile the test profile with some more
replaced.  Single fields can be replaced further by a list of overrides.
-/

namespace ChainProfile

/-- The constants of a network, unchecked. -/
structure Profile where
  network : Network
  /-- The bytes that start every message on the wire. -/
  messageStart : Bytes
  /-- The public key that signs alerts. -/
  alertKey : Bytes
  defaultPort : UInt16
  rpcPort : UInt16
  /-- The leading zero bits of the easiest target. -/
  limitShift : UInt32
  emission : EmissionSchedule
  strictChainId : Bool
  /-- The chain identifier of merge-mined blocks. -/
  auxpowChainId : Int16
  equihashN : UInt32
  equihashK : UInt32
  mineBlocksOnDemand : Bool
  prefixes : PrefixTable
  dnsSeeds : List DnsSeed
  /-- Packed addresses of first peers. -/
  fixedSeeds : List UInt32
  /-- The directory below the data directory, empty for none. -/
  dataDirectory : String
  requiresRpcPassword : Bool
  genesisMessage : String
  genesisTime : UInt32
  genesisBits : UInt32
  genesisNonce : UInt32
  /-- The display form that the genesis hash has to have. -/
  expectedGenesisHash : String
  /-- The display form that the genesis Merkle root has to have. -/
  expectedMerkleRoot : String

namespace Profile

/-- The production profile. -/
def mainNetwork : Profile where
  network := .main
  messageStart := [0xf9, 0xbe, 0xb4, 0xd9]
  alertKey := bigEndian 65
    0x04bf5a75ff0f823840ef512b08add20bb4275ff6e097f2830ad28645e28cb5ea4dc2cfd0972b94019ad46f331b45ef4ba679f2e6c87fd19c864365fadb4f8d2269
  defaultPort := 9265
  rpcPort := 9266
  limitShift := 32
  emission := { halvingInterval := 788000, fork2Height := 450000 }
  strictChainId := false
  auxpowChainId := 0x5b
  equihashN := 0
  equihashK := 0
  mineBlocksOnDemand := true
  prefixes :=
    { pubkeyAddress := [85], scriptAddress := [5], secretKey := [213]
      extPublicKey := [0x04, 0x88, 0xb2, 0x1e], extSecretKey := [0x04, 0x88, 0xad, 0xe4] }
  dnsSeeds := [⟨"bitmark.co", "seed.bitmark.co"⟩]
  fixedSeeds := [0xac1f1f0a, 0xae240982, 0x253b1359]
  dataDirectory := ""
  requiresRpcPassword := true
  genesisMessage := "13/July/2014, with memory of the past, we look to the future. TDR"
  genesisTime := 1405274442
  genesisBits := 0x1d00ffff
  genesisNonce := 14385103
  expectedGenesisHash := "c1fb746e87e89ae75bdec2ef0639a1f6786744639ce3d0ece1dcf979b79137cb"
  expectedMerkleRoot := "d4715adf41222fae3d4bf41af30c675bc27228233d0f3cfd4ae0ae1d3e760ba8"

/-- The public test network.  Halving, chain identifiers, mining on demand and the password
requirement are the production network's. -/
def testNetwork : Profile :=
  { mainNetwork with
    network := .test
    messageStart := [0x0b, 0x11, 0x09, 0x07]
    alertKey := bigEndian 65
      0x0468770c9d451dd5d6d373ae6096d4ab0705c4ab66e55cc25c40788580039bd04b7672322b9bd26ce22a3ad95f490d7d188a905ce30246b2425eca8cc5102190d0
    defaultPort := 19265
    rpcPort := 19266
    limitShift := 8
    emission := { mainNetwork.emission with fork2Height := 2000 }
    prefixes :=
      { pubkeyAddress := [130], scriptAddress := [196], secretKey := [2]
        extPublicKey := [0x04, 0x35, 0x87, 0xcf], extSecretKey := [0x04, 0x35, 0x83, 0x94] }
    dnsSeeds := [⟨"bitmark.io", "us.bitmark.io"⟩, ⟨"bitmark.co", "explorer.bitmark.co"⟩]
    fixedSeeds := []
    dataDirectory := "testnet4"
    genesisMessage := "Testing Testnet"
    genesisTime := 1509891419
    genesisBits := 0x1e0ffff0
    genesisNonce := 1291475
    expectedGenesisHash := "572f069d470350b8facc52a0866671d2d3071230e4df45d193394ae153fa891d"
    expectedMerkleRoot := "f3a49f9a57255e02f1984ffd4d9523c0afb883a06535c7e5fcc501f77217bf10" }

/-- The local network for regression tests.  Alert key, RPC port, prefixes and the genesis
coinbase are the test network's. -/
def regressionNetwork : Profile :=
  { testNetwork with
    network := .regression
    messageStart := [0xfa, 0xbf, 0xb5, 0xda]
    defaultPort := 18444
    limitShift := 1
    emission := { halvingInterval := 150, fork2Height := 200 }
    dnsSeeds := []
    dataDirectory := "regtest"
    requiresRpcPassword := false
    genesisTime := 1405274400
    genesisBits := 0x207fffff
    genesisNonce := 713058
    expectedGenesisHash := "168329a349fc93768bfb02e536bbe1e1847d77a65764564552122fa9268d8841" }

/-- The profile of a network. -/
def ofNetwork : Network → Profile
  | .main => mainNetwork
  | .test => testNetwork
  | .regression => regressionNetwork

/-- A field to be replaced, with its new value. -/
inductive Override where
  | genesisNonce (nonce : UInt32)
  | genesisMessage (message : String)
  | expectedGenesisHash (display : String)
  | expectedMerkleRoot (display : String)
  | prefixes (table : PrefixTable)
  | fixedSeeds (seeds : List UInt32)

/-- The profile with one field replaced. -/
def override (profile : Profile) : Override → Profile
  | .genesisNonce nonce => { profile with genesisNonce := nonce }
  | .genesisMessage message => { profile with genesisMessage := message }
  | .expectedGenesisHash display => { profile with expectedGenesisHash := display }
  | .expectedMerkleRoot display => { profile with expectedMerkleRoot := display }
  | .prefixes table => { profile with prefixes := table }
  | .fixedSeeds seeds => { profile with fixedSeeds := seeds }

/-- The profile of a network with fields replaced one after another. -/
def customized (network : Network) (overrides : List Override) : Profile :=
  overrides.foldl override (ofNetwork network)

/-- The inputs of the genesis block that a profile describes. -/
def genesisSpec (profile : Profile) : GenesisSpec where
  message := profile.genesisMessage
  payout := Genesis.payoutScript
  time := profile.genesisTime
  bits := profile.genesisBits
  nonce := profile.genesisNonce

/-- The genesis block that a profile describes, if the profile passes every check.  The checks come
in a fixed order: the two expected display forms are well formed, the Merkle root and then the
hash are the expected ones, the prefixes are usable.  The first that fails gives the error. -/
def checkedGenesis (profile : Profile) : Except ChainError Block := do
  let expectedHash ← Digest.ofDisplay profile.expectedGenesisHash
  let expectedRoot ← Digest.ofDisplay profile.expectedMerkleRoot
  let genesis := Genesis.block profile.genesisSpec
  if genesis.header.merkleRoot ≠ expectedRoot then
    .error (.merkleRootMismatch profile.network expectedRoot genesis.header.merkleRoot)
  else if genesis.digest ≠ expectedHash then
    .error (.genesisHashMismatch profile.network expectedHash genesis.digest)
  else
    (profile.prefixes.validate profile.network).map fun _ => genesis

end Profile

end ChainProfile
