import ChainProfile.Bytes

/-!
# Hexadecimal text

Every byte is two digits, the high half first.  Written text is lower case;
reading takes digits of either case.  A reader works on the bytes of a text, so
that a fault is located by its byte position.
-/

namespace ChainProfile.Hex

/-- The lower-case digit for a number below sixteen. -/
def digit (value : Nat) : Char :=
  if value < 10 then Char.ofNat (48 + value) else Char.ofNat (87 + value)

/-- The value of an ASCII digit of either case. -/
def value? (byte : UInt8) : Option Nat :=
  if 48 ≤ byte ∧ byte ≤ 57 then some (byte.toNat - 48)
  else if 97 ≤ byte ∧ byte ≤ 102 then some (byte.toNat - 87)
  else if 65 ≤ byte ∧ byte ≤ 70 then some (byte.toNat - 55)
  else none

/-- The two digits of a byte. -/
def digits (byte : UInt8) : List Char := [digit (byte.toNat / 16), digit (byte.toNat % 16)]

/-- The digits of a byte string. -/
def encode (bytes : Bytes) : String := String.ofList (bytes.flatMap digits)

/-- Joins pairs of ASCII digits into bytes; an unpaired or foreign byte is refused. -/
def decodePairs? : Bytes → Option Bytes
  | [] => some []
  | [_] => none
  | high :: low :: rest => do
      let highValue ← value? high
      let lowValue ← value? low
      let bytes ← decodePairs? rest
      return UInt8.ofNat (16 * highValue + lowValue) :: bytes

/-- The byte string that a text of paired digits stands for. -/
def decode? (text : String) : Option Bytes := decodePairs? (utf8 text)

/-- The `count` lowest hexadecimal digits of a number, highest first. -/
def fixed (count value : Nat) : String :=
  String.ofList ((List.range count).reverse.map fun place => digit (value >>> (4 * place) % 16))

theorem two_mul_length_of_decodePairs? {digits bytes : Bytes}
    (decoded : decodePairs? digits = some bytes) : 2 * bytes.length = digits.length := by
  fun_induction decodePairs? digits generalizing bytes with
  | case1 => cases decoded; rfl
  | case2 => cases decoded
  | case3 high low rest ih =>
      cases highValue : value? high <;> cases lowValue : value? low <;>
        cases remaining : decodePairs? rest <;>
        simp [highValue, lowValue, remaining] at decoded
      subst decoded
      have := ih remaining
      simp only [List.length_cons]
      omega

end ChainProfile.Hex
