import ChainProfile.Base58
import ChainProfile.Digest

/-!
# Base 58 with a checksum

Before it is written, a byte string is followed by the first four bytes of its
double SHA-256, so that a mistyped text is refused.
-/

namespace ChainProfile.Base58Check

/-- The four bytes that guard a byte string. -/
def checksum (data : Bytes) : Bytes := (doubleSha256 data).bytes.take 4

/-- Writes a byte string with its checksum behind it. -/
def encode (data : Bytes) : String := Base58.encode (data ++ checksum data)

/-- Separates the last four bytes and compares them with the checksum of the rest. -/
def unguard (bytes : Bytes) : Except Base58Fault Bytes :=
  if bytes.length < 4 then .error .noChecksum
  else
    let data := bytes.take (bytes.length - 4)
    let given := bytes.drop (bytes.length - 4)
    if checksum data = given then .ok data else .error (.wrongChecksum (checksum data) given)

/-- Reads a byte string that is followed by its checksum. -/
def decode (text : String) : Except Base58Fault Bytes := do
  let bytes ← Base58.decode text
  unguard bytes

@[simp]
theorem length_checksum (data : Bytes) : (checksum data).length = 4 := by
  simp [checksum, (doubleSha256 data).length_bytes]

/-- Guarded data passes its own check. -/
theorem unguard_guarded (data : Bytes) : unguard (data ++ checksum data) = .ok data := by
  simp [unguard]

end ChainProfile.Base58Check
