import ChainProfile.Bytes
import ChainProfile.Radix

/-!
# Base 58

A byte string is read as a big-endian number and written in base 58, with an
alphabet that leaves out characters easily mistaken for one another.  Leading
zero bytes do not change the number; each is written as one leading `1`.
-/

namespace ChainProfile

/-- Why a text is not base 58, or not guarded by a checksum. -/
inductive Base58Fault where
  | nonAscii (index : Nat)
  | foreignSymbol (byte : UInt8) (index : Nat)
  | noChecksum
  /-- The checksum of the decoded bytes is not the one that was given. -/
  | wrongChecksum (computed given : Bytes)
deriving DecidableEq

namespace Base58

/-- The digits in ascending order. -/
def alphabet : List Char :=
  "123456789ABCDEFGHJKLMNPQRSTUVWXYZabcdefghijkmnopqrstuvwxyz".toList

/-- The character that is written for a digit. -/
def symbol (digit : Nat) : Char := alphabet.getD digit '1'

/-- The digit that a byte is written for. -/
def digit? (byte : UInt8) : Option Nat := alphabet.findIdx? fun symbol => symbol.toNat == byte.toNat

/-- The digits that the bytes of a text stand for, or the first fault from the left; `index` is
the place of the first byte. -/
def digitsFrom : Nat → Bytes → Except Base58Fault (List Nat)
  | _, [] => .ok []
  | index, byte :: rest =>
      if 0x80 ≤ byte then .error (.nonAscii index)
      else
        match digit? byte with
        | none => .error (.foreignSymbol byte index)
        | some digit => (digitsFrom (index + 1) rest).map (digit :: ·)

/-- Writes a byte string in base 58: one `1` for each leading zero byte, then the digits of the
number. -/
def encode (bytes : Bytes) : String :=
  let zeros := (bytes.takeWhile (· = 0)).length
  let digits := (Radix.digits 58 (ofBigEndian bytes)).reverse
  String.ofList (List.replicate zeros '1' ++ digits.map symbol)

/-- The byte string that base 58 digits, highest first, stand for. -/
def ofDigits (digits : List Nat) : Bytes :=
  let zeros := (digits.takeWhile (· = 0)).length
  let value := Radix.ofDigits 58 digits.reverse
  List.replicate zeros 0 ++ bigEndian (byteLength value) value

/-- The byte string that a text stands for, or the first fault from the left. -/
def decode (text : String) : Except Base58Fault Bytes := (digitsFrom 0 (utf8 text)).map ofDigits

end Base58

end ChainProfile
