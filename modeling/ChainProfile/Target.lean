import ChainProfile.Bytes

/-!
# Proof-of-work targets

A target is a 256-bit number; a block meets it if its digest is no greater.  The
compact form packs a target into 32 bits: an exponent byte that counts bytes, a
sign bit, and a mantissa of 23 bits.  A negative or oversized compact form
stands for no target.
-/

namespace ChainProfile

/-- A 256-bit difficulty target. -/
abbrev Target := BitVec 256

namespace Target

/-- The easiest target that leaves `shift` leading zero bits. -/
def limit (shift : UInt32) : Target := BitVec.allOnes 256 >>> shift.toNat

/-- The exponent byte of a compact form. -/
def exponent (compact : UInt32) : UInt32 := compact >>> 24

/-- The mantissa of a compact form, without its sign bit. -/
def mantissa (compact : UInt32) : UInt32 := compact &&& 0x007fffff

/-- Whether a compact form has its sign bit set. -/
def isNegative (compact : UInt32) : Bool := compact &&& 0x00800000 ≠ 0

/-- Whether a mantissa shifted by an exponent leaves the 256-bit range. -/
def overflows (exponent mantissa : UInt32) : Bool :=
  34 < exponent || (0xff < mantissa && 33 < exponent) || (0xffff < mantissa && 32 < exponent)

/-- The target that a compact form stands for.  A mantissa of zero stands for zero, whatever the
sign and the exponent are. -/
def ofCompact? (compact : UInt32) : Option Target :=
  let size := exponent compact
  let word := mantissa compact
  if word ≠ 0 ∧ (isNegative compact ∨ overflows size word) then none
  else if size ≤ 3 then some (BitVec.ofNat 256 (word >>> (8 * (3 - size))).toNat)
  else some (BitVec.ofNat 256 word.toNat <<< (8 * (size - 3)).toNat)

/-- The compact form of a target.  The top three bytes are kept, or the top two and a zero byte
if the first of three would set the sign bit. -/
def toCompact (target : Target) : UInt32 :=
  let size := UInt32.ofNat (byteLength target.toNat)
  let word :=
    if size ≤ 3 then UInt32.ofNat target.toNat <<< (8 * (3 - size))
    else UInt32.ofNat (target >>> (8 * (size - 3)).toNat).toNat
  if word &&& 0x00800000 ≠ 0 then (word >>> 8) ||| ((size + 1) <<< 24)
  else word ||| (size <<< 24)

/-- Whether a compact form stands for a target other than zero and no easier than a limit. -/
def isWithin (compact : UInt32) (limit : Target) : Bool :=
  match ofCompact? compact with
  | none => false
  | some target => target ≠ 0 && target ≤ limit

/-- A compact form that is the only one for its target: zero itself, or an exponent of at least
one with a mantissa that uses its top byte and loses nothing below the units. -/
def IsCanonical (compact : UInt32) : Prop :=
  compact = 0 ∨
    (1 ≤ (exponent compact).toNat ∧ 0x008000 ≤ compact.toNat % 0x1000000 ∧
      compact.toNat % 0x1000000 ≤ 0x7fffff ∧
      1 <<< (8 * (3 - (exponent compact).toNat)) ∣ compact.toNat % 0x1000000)

/-- The thirty-two bytes of a target, highest first. -/
def toBytes (target : Target) : Bytes := bigEndian 32 target.toNat

end Target

end ChainProfile
