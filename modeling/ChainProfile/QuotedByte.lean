import ChainProfile.Hex

/-!
# Showing a byte in a message

A message about an unwelcome byte shows it as the character with that code
point, between apostrophes.  A character that does not print is shown by its
escape; a double quote needs none.
-/

namespace ChainProfile

/-- The lower-case hexadecimal digits of a byte without leading zeros. -/
private def shortestHex (byte : UInt8) : List Char :=
  if byte < 16 then [Hex.digit byte.toNat] else Hex.digits byte

/-- Whether the character with a byte's code point has a printed form of its own. -/
def printsAsItself (byte : UInt8) : Bool :=
  (0x20 ≤ byte && byte ≤ 0x7e) || (0xa1 ≤ byte && byte != 0xad)

/-- A byte as it stands between apostrophes. -/
def escapedByte (byte : UInt8) : List Char :=
  if byte = 0x00 then ['\\', '0']
  else if byte = 0x09 then ['\\', 't']
  else if byte = 0x0a then ['\\', 'n']
  else if byte = 0x0d then ['\\', 'r']
  else if byte = 0x27 then ['\\', '\'']
  else if byte = 0x5c then ['\\', '\\']
  else if printsAsItself byte then [Char.ofNat byte.toNat]
  else ['\\', 'u', '\x7b'] ++ shortestHex byte ++ ['\x7d']

/-- A byte as a message shows it. -/
def quotedByte (byte : UInt8) : String :=
  String.ofList ('\'' :: escapedByte byte ++ ['\''])

end ChainProfile
