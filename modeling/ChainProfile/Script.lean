import ChainProfile.Script.Number

/-!
# Scripts

A script is a byte string built by appending: pushes of data, pushes of numbers
and single operation codes.  Running scripts is no concern of this library.
-/

namespace ChainProfile

/-- A program as the bytes that it is stored as. -/
structure Script where
  bytes : Bytes
deriving DecidableEq

namespace Script

/-- The script of no bytes. -/
def empty : Script := ⟨[]⟩

instance : Inhabited Script := ⟨empty⟩

/-- The operation that pushes minus one. -/
def pushNegativeOne : UInt8 := 0x4f

/-- The operation below the sixteen that push a small positive number. -/
def smallNumberBase : UInt8 := 0x50

/-- The operation that checks a signature against a public key. -/
def checkSignature : UInt8 := 0xac

/-- The bytes that announce a push of `length` data bytes, in the shortest form that fits. -/
def pushHeader (length : Nat) : Bytes :=
  if length < 0x4c then littleEndian 1 length
  else if length ≤ 0xff then 0x4c :: littleEndian 1 length
  else if length ≤ 0xffff then 0x4d :: littleEndian 2 length
  else 0x4e :: littleEndian 4 length

/-- Appends an operation. -/
def pushOpcode (script : Script) (opcode : UInt8) : Script := ⟨script.bytes ++ [opcode]⟩

/-- Appends a push of data. -/
def pushData (script : Script) (data : Bytes) : Script :=
  ⟨script.bytes ++ (pushHeader data.length ++ data)⟩

/-- Appends a push of a number as data, small numbers included. -/
def pushNumber (script : Script) (value : Int64) : Script :=
  script.pushData (ScriptNumber.encode value)

/-- Appends a push of a number; minus one and the numbers up to sixteen have operations of
their own. -/
def pushInteger (script : Script) (value : Int64) : Script :=
  if value = -1 then script.pushOpcode pushNegativeOne
  else if value = 0 then script.pushOpcode 0x00
  else if 1 ≤ value ∧ value ≤ 16 then
    script.pushOpcode (smallNumberBase + UInt8.ofNat value.toInt.toNat)
  else script.pushNumber value

/-- One step of building a script. -/
inductive Step where
  | integer (value : Int64)
  | number (value : Int64)
  | data (data : Bytes)
  | opcode (opcode : UInt8)

/-- Appends what one step stands for. -/
def push (script : Script) : Step → Script
  | .integer value => script.pushInteger value
  | .number value => script.pushNumber value
  | .data data => script.pushData data
  | .opcode opcode => script.pushOpcode opcode

/-- The script that a sequence of steps builds. -/
def build (steps : List Step) : Script := steps.foldl push empty

/-- The number of bytes of a script. -/
def length (script : Script) : Nat := script.bytes.length

/-- Whether a script has no bytes. -/
def isEmpty (script : Script) : Bool := script.bytes.isEmpty

end Script

end ChainProfile
