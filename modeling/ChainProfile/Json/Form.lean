import ChainProfile.Json.Printer
import ChainProfile.Json.Reader

/-!
# Data in JSON

A type with a JSON form can be written as a value and read back.  Reading is
strict about types and ranges.  A record is read from an object, whose members
may come in any order and among unknown ones, or from an array of its fields in
order; a field may not occur twice.  A choice among names is a string, or an
object whose only member has the name and null.
-/

namespace ChainProfile

/-- A type whose values can be written as JSON and read back. -/
class JsonForm (Data : Type) where
  toJson : Data → Json
  ofJson? : Json → Option Data

namespace Json

/-- The fields of a record, in the order of the names; a missing field is absent, and a repeated
one makes the record unreadable. -/
def fields? (names : List String) : Json → Option (List (Option Json))
  | .object members => do
      let named ← members.mapM fun (codes, value) => (textOf? codes).map fun name => (name, value)
      names.mapM fun name =>
        match named.filter fun member => member.1 == name with
        | [] => some none
        | [(_, value)] => some (some value)
        | _ => none
  | .array items =>
      if items.length ≤ names.length then
        some (items.map some ++ List.replicate (names.length - items.length) none)
      else none
  | _ => none

/-- The fields of a record of which none may be missing. -/
def allFields? (names : List String) (json : Json) : Option (List Json) := do
  (← fields? names json).mapM id

/-- The choice that a value names. -/
def choice? {Data : Type} (ofName? : String → Option Data) : Json → Option Data
  | .string codes => textOf? codes >>= ofName?
  | .object [(codes, .null)] => textOf? codes >>= ofName?
  | _ => none

/-- The integer that a literal without fraction and exponent stands for; zero has no sign. -/
def integerOf? (literal : List Char) : Option Int :=
  let magnitude (digits : List Char) : Option Nat :=
    if digits.all Char.isDigit then
      some (digits.foldl (fun value digit => 10 * value + (digit.toNat - 48)) 0)
    else none
  match literal with
  | '-' :: digits => (magnitude digits).bind fun value => if value = 0 then none else some (-value)
  | digits => (magnitude digits).map Int.ofNat

/-- The integer that a value stands for, if it is in the given range. -/
def integerWithin? (least greatest : Int) : Json → Option Int
  | .number literal => (integerOf? literal).filter fun value => least ≤ value && value ≤ greatest
  | _ => none

/-- Reads a text as data and writes the data in compact form. -/
def reformat? (Data : Type) [JsonForm Data] (text : String) : Option String := do
  let value ← ofText? text
  let data : Data ← JsonForm.ofJson? value
  return (JsonForm.toJson data).compact

end Json

instance : JsonForm Bool where
  toJson value := .bool value
  ofJson?
    | .bool value => some value
    | _ => none

instance : JsonForm String where
  toJson text := .ofText text
  ofJson?
    | .string codes => Json.textOf? codes
    | _ => none

instance : JsonForm UInt8 where
  toJson value := .ofInt value.toNat
  ofJson? json := (json.integerWithin? 0 0xff).map fun value => UInt8.ofNat value.toNat

instance : JsonForm UInt16 where
  toJson value := .ofInt value.toNat
  ofJson? json := (json.integerWithin? 0 0xffff).map fun value => UInt16.ofNat value.toNat

instance : JsonForm UInt32 where
  toJson value := .ofInt value.toNat
  ofJson? json := (json.integerWithin? 0 0xffffffff).map fun value => UInt32.ofNat value.toNat

instance : JsonForm UInt64 where
  toJson value := .ofInt value.toNat
  ofJson? json :=
    (json.integerWithin? 0 0xffffffffffffffff).map fun value => UInt64.ofNat value.toNat

instance : JsonForm Int16 where
  toJson value := .ofInt value.toInt
  ofJson? json := (json.integerWithin? (-0x8000) 0x7fff).map Int16.ofInt

instance : JsonForm Int32 where
  toJson value := .ofInt value.toInt
  ofJson? json := (json.integerWithin? (-0x80000000) 0x7fffffff).map Int32.ofInt

instance : JsonForm Int64 where
  toJson value := .ofInt value.toInt
  ofJson? json := (json.integerWithin? (-0x8000000000000000) 0x7fffffffffffffff).map Int64.ofInt

instance {Data : Type} [JsonForm Data] : JsonForm (List Data) where
  toJson items := .array (items.map JsonForm.toJson)
  ofJson?
    | .array items => items.mapM JsonForm.ofJson?
    | _ => none

end ChainProfile
