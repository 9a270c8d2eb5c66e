import ChainProfile.Base58.Check
import ChainProfile.Parameters

/-!
# Addresses

Keys and script hashes are shown as checked base 58 behind the prefix of their
kind.  The prefixes differ between networks, so reading an address demands the
prefix that the network gives to the wanted kind.
-/

namespace ChainProfile.Address

/-- The text of a payload of a kind: the prefix that the network gives to the kind and the payload,
in checked base 58. -/
def encode (parameters : Parameters) (kind : KeyKind) (payload : Bytes) : String :=
  Base58Check.encode (parameters.prefixes.get kind ++ payload)

/-- What follows the leading bytes, if they are the wanted ones. -/
def stripLeading : Bytes → Bytes → Option Bytes
  | [], data => some data
  | _ :: _, [] => none
  | wanted :: leading, byte :: data => if wanted = byte then stripLeading leading data else none

/-- Reads a text as a payload of a kind.  The checksum is looked at first, then the prefix. -/
def decode (parameters : Parameters) (kind : KeyKind) (text : String) : Except ChainError Bytes :=
  match Base58Check.decode text with
  | .error fault => .error (.address (.notBase58 fault))
  | .ok data =>
      match stripLeading (parameters.prefixes.get kind) data with
      | some payload => .ok payload
      | none => .error (.address (.otherKind kind parameters.network))

/-- The address that pays to a key with a hash. -/
def ofKeyHash (parameters : Parameters) (hash : Bytes) : String :=
  encode parameters .pubkeyAddress hash

/-- The address that pays to a script with a hash. -/
def ofScriptHash (parameters : Parameters) (hash : Bytes) : String :=
  encode parameters .scriptAddress hash

end ChainProfile.Address
