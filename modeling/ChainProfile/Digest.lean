import ChainProfile.Hex
import ChainProfile.Sha256

/-!
# Digests

Blocks and transactions are identified by the double SHA-256 of their bytes.  A
digest keeps the byte order of the hash function; its display form is the
hexadecimal text of the bytes in reverse, the way a little-endian number reads.
The type carries the proof that there are thirty-two bytes.
-/

namespace ChainProfile

/-- A 32-byte identifier in hash order. -/
structure Digest where
  bytes : Bytes
  length_bytes : bytes.length = 32
deriving DecidableEq

/-- Why a text is not the display form of a digest. -/
inductive HexFault where
  | oddLength
  /-- The digits do not make thirty-two bytes. -/
  | wrongLength
  | foreignDigit (byte : UInt8) (index : Nat)
deriving DecidableEq

namespace Digest

@[ext]
theorem ext_bytes {left right : Digest} (sameBytes : left.bytes = right.bytes) : left = right := by
  cases left
  cases right
  cases sameBytes
  rfl

/-- The digest of no block: thirty-two zero bytes. -/
def zero : Digest := ⟨List.replicate 32 0, List.length_replicate⟩

instance : Inhabited Digest := ⟨zero⟩

/-- The digest with the given bytes, if there are thirty-two. -/
def ofBytes? (bytes : Bytes) : Option Digest :=
  if width : bytes.length = 32 then some ⟨bytes, width⟩ else none

/-- Digests are compared as their bytes are, the first byte first. -/
instance : LE Digest := ⟨fun left right => left.bytes ≤ right.bytes⟩

instance (left right : Digest) : Decidable (left ≤ right) :=
  inferInstanceAs (Decidable (left.bytes ≤ right.bytes))

/-- The digests in ascending order. -/
def sort (digests : List Digest) : List Digest :=
  digests.mergeSort fun left right => decide (left ≤ right)

/-- The display form of a digest. -/
def toHex (digest : Digest) : String := Hex.encode digest.bytes.reverse

/-- The digits of a display form: one leading `0x` is not part of them. -/
def unmarked : Bytes → Bytes
  | 0x30 :: 0x78 :: digits => digits
  | digits => digits

/-- Reads a display form.  Parity is checked before length and length before digits. -/
def ofHex (text : String) : Except HexFault Digest :=
  let digits := unmarked (utf8 text)
  if digits.length % 2 = 1 then .error .oddLength
  else if width : digits.length = 64 then
    match decoded : Hex.decodePairs? digits with
    | some bytes => .ok ⟨bytes.reverse, by
        have paired := Hex.two_mul_length_of_decodePairs? decoded
        rw [List.length_reverse]
        omega⟩
    | none =>
        let index := digits.findIdx fun byte => (Hex.value? byte).isNone
        .error (.foreignDigit (digits.getD index 0) index)
  else .error .wrongLength

end Digest

/-- The hash of the hash of a byte string. -/
def doubleSha256 (data : Bytes) : Digest :=
  ⟨Sha256.digest (Sha256.digest data), Sha256.length_digest _⟩

/-- The digest above two digests that stand side by side. -/
def pairDigest (left right : Digest) : Digest := doubleSha256 (left.bytes ++ right.bytes)

end ChainProfile
