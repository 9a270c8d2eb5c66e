import ChainProfile.Base58
import ChainProfile.Base58.PrefixTable
import ChainProfile.Digest
import ChainProfile.Network
import ChainProfile.QuotedByte

/-!
# Causes of failure

Every operation that can be refused names its cause as a value.  The wording is
in `ChainError.message` and nowhere else.  Four causes mean that the constants of
the library contradict one another; the others come from what a user supplied.
-/

namespace ChainProfile

/-- Why a settings file is refused. -/
inductive SettingsFault where
  /-- The file is there but cannot be read as text. -/
  | unreadable
  /-- The text is malformed, or a setting has a value of the wrong type. -/
  | malformed
deriving DecidableEq

/-- Why a text is refused as a payload of a kind. -/
inductive AddressFault where
  /-- The text is not checked base 58. -/
  | notBase58 (fault : Base58Fault)
  /-- The data lacks the prefix of the kind on the network. -/
  | otherKind (kind : KeyKind) (network : Network)
deriving DecidableEq

/-- The causes for which an operation is refused. -/
inductive ChainError where
  /-- The rebuilt genesis block has another hash than the network states. -/
  | genesisHashMismatch (network : Network) (expected computed : Digest)
  /-- The rebuilt genesis block has another Merkle root than the network states. -/
  | merkleRootMismatch (network : Network) (expected computed : Digest)
  | prefixes (network : Network) (fault : PrefixFault)
  /-- Two networks were asked for at once. -/
  | conflictingSelection
  /-- No network has the name, which is given in small letters. -/
  | unknownNetwork (name : String)
  | invalidHex (fault : HexFault)
  | settings (fault : SettingsFault)
  | address (fault : AddressFault)
deriving DecidableEq

/-- What is said of a text that is not the display form of a digest. -/
def HexFault.message : HexFault → String
  | .oddLength => "Odd number of digits"
  | .wrongLength => "Invalid string length"
  | .foreignDigit byte index => s!"Invalid character {quotedByte byte} at position {index}"

/-- Bytes as decimal numbers between brackets. -/
private def decimalList (bytes : Bytes) : String :=
  "[" ++ ", ".intercalate (bytes.map fun byte => toString byte.toNat) ++ "]"

/-- What is said of a text that is not checked base 58. -/
def Base58Fault.message : Base58Fault → String
  | .nonAscii index =>
      s!"provided string contained non-ascii character starting at byte {index}"
  | .foreignSymbol byte index =>
      s!"provided string contained invalid character {quotedByte byte} at byte {index}"
  | .noChecksum => "provided string is too small to contain a checksum"
  | .wrongChecksum computed given =>
      s!"invalid checksum, calculated checksum: '{decimalList computed}', " ++
        s!"expected checksum: {decimalList given}"

/-- What is said of a settings file that is refused. -/
def SettingsFault.message : SettingsFault → String
  | .unreadable => "Failed to read"
  | .malformed => "Failed to parse config:"

/-- What is said of a text that is refused as a payload. -/
def AddressFault.message : AddressFault → String
  | .notBase58 fault => fault.message
  | .otherKind kind network => s!"not a {kind.name} for {network.name}"

namespace ChainError

/-- What is said of a cause of failure. -/
def message : ChainError → String
  | .genesisHashMismatch network expected computed =>
      s!"{network.name} genesis hash mismatch: expected {expected.toHex}, " ++
        s!"computed {computed.toHex}"
  | .merkleRootMismatch network expected computed =>
      s!"{network.name} genesis merkle root mismatch: expected {expected.toHex}, " ++
        s!"computed {computed.toHex}"
  | .prefixes network (.empty kind) => s!"{network.name} base58 prefix for {kind.name} is empty"
  | .prefixes network (.collision first second) =>
      s!"{network.name} base58 prefixes for {first.name} and {second.name} collide"
  | .conflictingSelection => "-testnet and -regtest are mutually exclusive"
  | .unknownNetwork name => s!"Unknown network: {name}"
  | .invalidHex fault => s!"Invalid hex literal: {fault.message}"
  | .settings fault => s!"Config error: {fault.message}"
  | .address fault => s!"Invalid address: {fault.message}"

/-- Whether a cause means that built-in constants contradict one another. -/
def isInvariantViolation : ChainError → Bool
  | .genesisHashMismatch .. => true
  | .merkleRootMismatch .. => true
  | .prefixes .. => true
  | _ => false

end ChainError

/-- The network with a name, or the name that no network has. -/
def Network.ofName (text : String) : Except ChainError Network :=
  match ofName? text with
  | some network => .ok network
  | none => .error (.unknownNetwork (folded text))

/-- The digest with a display form, or what is wrong with the form. -/
def Digest.ofDisplay (text : String) : Except ChainError Digest :=
  (ofHex text).mapError .invalidHex

/-- Refuses a table that is not usable, with its first fault and the network that it is for. -/
def PrefixTable.validate (table : PrefixTable) (network : Network) : Except ChainError Unit :=
  match table.firstFault? with
  | none => .ok ()
  | some fault => .error (.prefixes network fault)

end ChainProfile
