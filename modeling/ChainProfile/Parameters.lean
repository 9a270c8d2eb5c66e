import ChainProfile.Profile
import ChainProfile.Target

/-!
# Chain parameters

The parameters of a network are its profile after every check has passed: the
genesis block has the expected hash and Merkle root, and the prefixes tell the
kinds of keys apart.  Building fails at the first check that does not hold.  Once
every check has passed, the fixed seeds are given their times; building never ends
if the moment does not yield enough random words for that.
-/

namespace ChainProfile

/-- The checked constants of a network. -/
structure Parameters where
  network : Network
  messageStart : Bytes
  alertKey : Bytes
  defaultPort : UInt16
  rpcPort : UInt16
  /-- The easiest target that a block may claim. -/
  targetLimit : Target
  emission : EmissionSchedule
  strictChainId : Bool
  auxpowChainId : Int16
  equihashN : UInt32
  equihashK : UInt32
  mineBlocksOnDemand : Bool
  prefixes : PrefixTable
  dnsSeeds : List DnsSeed
  fixedSeeds : List PeerAddress
  dataDirectory : String
  requiresRpcPassword : Bool
  genesis : Block
  genesisHash : Digest

namespace Parameters

/-- The parameters of a profile whose genesis block has been checked, with the records of its fixed
seeds. -/
def ofChecked (profile : Profile) (genesis : Block) (fixedSeeds : List PeerAddress) :
    Parameters where
  network := profile.network
  messageStart := profile.messageStart
  alertKey := profile.alertKey
  defaultPort := profile.defaultPort
  rpcPort := profile.rpcPort
  targetLimit := Target.limit profile.limitShift
  emission := profile.emission
  strictChainId := profile.strictChainId
  auxpowChainId := profile.auxpowChainId
  equihashN := profile.equihashN
  equihashK := profile.equihashK
  mineBlocksOnDemand := profile.mineBlocksOnDemand
  prefixes := profile.prefixes
  dnsSeeds := profile.dnsSeeds
  fixedSeeds := fixedSeeds
  dataDirectory := profile.dataDirectory
  requiresRpcPassword := profile.requiresRpcPassword
  genesis := genesis
  genesisHash := genesis.digest

/-- Whether these are the parameters of the public test network. -/
def isTestNetwork (parameters : Parameters) : Bool := parameters.network = .test

/-- Whether these are the parameters of the regression network. -/
def isRegressionNetwork (parameters : Parameters) : Bool := parameters.network = .regression

end Parameters

/-- Builds the parameters that a profile describes, as of a moment.  There is no outcome if building
never ends. -/
def Profile.build (profile : Profile) (moment : Moment) : Option (Except ChainError Parameters) :=
  match profile.checkedGenesis with
  | .error error => some (.error error)
  | .ok genesis =>
      (FixedSeed.peers profile.defaultPort moment profile.fixedSeeds).map fun records =>
        .ok (.ofChecked profile genesis records)

/-- The parameters of every network. -/
structure Registry where
  main : Parameters
  test : Parameters
  regression : Parameters

namespace Registry

/-- Builds the parameters of every network, each as of its own moment.  Nothing is built behind an
error or behind a network whose building never ends. -/
def build (moment : Network → Moment) : Option (Except ChainError Registry) :=
  ExceptT.run do
    let main ← ExceptT.mk ((Profile.ofNetwork .main).build (moment .main))
    let test ← ExceptT.mk ((Profile.ofNetwork .test).build (moment .test))
    let regression ← ExceptT.mk ((Profile.ofNetwork .regression).build (moment .regression))
    return { main, test, regression }

/-- The parameters of a network. -/
def get (registry : Registry) : Network → Parameters
  | .main => registry.main
  | .test => registry.test
  | .regression => registry.regression

end Registry

end ChainProfile
