import ChainProfile.Bytes

/-!
# Script numbers

A number is written by its magnitude in as few little-endian bytes as hold it,
with the sign in the top bit of the last byte.  When the magnitude already uses
that bit, one more byte carries the sign.  Zero is the empty string.
-/

namespace ChainProfile.ScriptNumber

/-- The shortest form of a number. -/
def encode (value : Int64) : Bytes :=
  let magnitude := value.toInt.natAbs
  let body := littleEndian (byteLength magnitude) magnitude
  match body.getLast? with
  | none => []
  | some last =>
      if 0x80 ≤ last then body ++ [if value < 0 then 0x80 else 0x00]
      else if value < 0 then body.dropLast ++ [last ||| 0x80]
      else body

/-- The number that a byte string stands for, whether or not it is the shortest form. -/
def decode (bytes : Bytes) : Int :=
  match bytes.getLast? with
  | none => 0
  | some last =>
      let magnitude : Int := ofLittleEndian (bytes.dropLast ++ [last &&& 0x7f])
      if 0x80 ≤ last then -magnitude else magnitude

/-- A form from which no byte can be spared: the last byte holds more than the sign, or the
byte before it uses its own top bit. -/
def IsMinimal (bytes : Bytes) : Prop :=
  match bytes.reverse with
  | [] => True
  | [last] => last &&& 0x7f ≠ 0
  | last :: before :: _ => last &&& 0x7f ≠ 0 ∨ 0x80 ≤ before

end ChainProfile.ScriptNumber
