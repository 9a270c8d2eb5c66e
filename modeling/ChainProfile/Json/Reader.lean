import ChainProfile.Hex
import ChainProfile.Json

/-!
# Reading JSON

The strict grammar: no comments, no trailing commas, no control characters in
strings, no leading zeros or plus signs in numbers.  Nesting is limited only by
the length of the text, which bounds the recursion.
-/

namespace ChainProfile.Json

/-- What follows the blanks at the start of a text. -/
def skipBlanks (text : List Char) : List Char :=
  text.dropWhile fun symbol => symbol == ' ' || symbol == '\t' || symbol == '\n' || symbol == '\r'

/-- The value of a hexadecimal digit. -/
def hexValue? (symbol : Char) : Option Nat :=
  if symbol.toNat < 128 then Hex.value? (UInt8.ofNat symbol.toNat) else none

/-- The number that four hexadecimal digits name. -/
def unitOf? (a b c d : Char) : Option Nat := do
  return 4096 * (← hexValue? a) + 256 * (← hexValue? b) + 16 * (← hexValue? c) + (← hexValue? d)

/-- The code point that a letter behind a backslash stands for. -/
def escapeOf? : Char → Option Nat
  | '"' => some 0x22
  | '\\' => some 0x5c
  | '/' => some 0x2f
  | 'b' => some 0x08
  | 'f' => some 0x0c
  | 'n' => some 0x0a
  | 'r' => some 0x0d
  | 't' => some 0x09
  | _ => none

/-- Reads a string behind its opening quote; halves of surrogate pairs stay apart. -/
def readUnits : List Char → Option (List Nat × List Char)
  | [] => none
  | '"' :: rest => some ([], rest)
  | '\\' :: 'u' :: a :: b :: c :: d :: rest => do
      let unit ← unitOf? a b c d
      let (units, after) ← readUnits rest
      return (unit :: units, after)
  | '\\' :: letter :: rest => do
      let code ← escapeOf? letter
      let (units, after) ← readUnits rest
      return (code :: units, after)
  | symbol :: rest =>
      if symbol.toNat < 0x20 then none
      else do
        let (units, after) ← readUnits rest
        return (symbol.toNat :: units, after)

/-- Joins each high half of a surrogate pair with the low half that follows it. -/
def joinSurrogates : List Nat → List Nat
  | high :: low :: rest =>
      if 0xd800 ≤ high ∧ high ≤ 0xdbff ∧ 0xdc00 ≤ low ∧ low ≤ 0xdfff then
        (0x10000 + (high - 0xd800) * 0x400 + (low - 0xdc00)) :: joinSurrogates rest
      else high :: joinSurrogates (low :: rest)
  | [unit] => [unit]
  | [] => []

/-- Reads a string behind its opening quote. -/
def readString (text : List Char) : Option (List Nat × List Char) :=
  (readUnits text).map fun (units, rest) => (joinSurrogates units, rest)

/-- Separates a run of one or more decimal digits. -/
def readDigits (text : List Char) : Option (List Char × List Char) :=
  let digits := text.takeWhile Char.isDigit
  if digits.isEmpty then none else some (digits, text.drop digits.length)

/-- Separates the fraction of a number, which may be missing. -/
def readFraction : List Char → Option (List Char × List Char)
  | '.' :: rest => (readDigits rest).map fun (digits, after) => ('.' :: digits, after)
  | text => some ([], text)

/-- Separates the exponent of a number, which may be missing. -/
def readExponent : List Char → Option (List Char × List Char)
  | mark :: rest =>
      if mark = 'e' ∨ mark = 'E' then
        let (sign, digits) := rest.span fun symbol => symbol == '+' || symbol == '-'
        if 1 < sign.length then none
        else (readDigits digits).map fun (digits, after) => (mark :: sign ++ digits, after)
      else some ([], mark :: rest)
  | [] => some ([], [])

/-- Reads a number and keeps its literal. -/
def readNumber (text : List Char) : Option (Json × List Char) := do
  let (sign, unsigned) :=
    match text with
    | '-' :: rest => (['-'], rest)
    | _ => ([], text)
  let (whole, afterWhole) ← readDigits unsigned
  if whole.head? = some '0' ∧ 1 < whole.length then none
  else do
    let (fraction, afterFraction) ← readFraction afterWhole
    let (exponent, after) ← readExponent afterFraction
    return (.number (sign ++ whole ++ fraction ++ exponent), after)

/-- Reads a value that is neither a string nor holds other values. -/
def readScalar : List Char → Option (Json × List Char)
  | 'n' :: 'u' :: 'l' :: 'l' :: rest => some (.null, rest)
  | 't' :: 'r' :: 'u' :: 'e' :: rest => some (.bool true, rest)
  | 'f' :: 'a' :: 'l' :: 's' :: 'e' :: rest => some (.bool false, rest)
  | text => readNumber text

/-- Reads a name and the colon behind it. -/
def readName (text : List Char) : Option (List Nat × List Char) := do
  match skipBlanks text with
  | '"' :: rest =>
      let (name, behind) ← readString rest
      match skipBlanks behind with
      | ':' :: after => return (name, after)
      | _ => none
  | _ => none

mutual

/-- Reads a value; the first argument is fuel. -/
def readValue : Nat → List Char → Option (Json × List Char)
  | 0, _ => none
  | fuel + 1, text =>
      match skipBlanks text with
      | '"' :: rest => (readString rest).map fun (codes, after) => (.string codes, after)
      | '[' :: rest =>
          match skipBlanks rest with
          | ']' :: after => some (.array [], after)
          | _ => (readItems fuel rest).map fun (items, after) => (.array items, after)
      | '\x7b' :: rest =>
          match skipBlanks rest with
          | '\x7d' :: after => some (.object [], after)
          | _ => (readMembers fuel rest).map fun (members, after) => (.object members, after)
      | scalar => readScalar scalar

/-- Reads the items of an array that is not empty, up to its closing bracket. -/
def readItems : Nat → List Char → Option (List Json × List Char)
  | 0, _ => none
  | fuel + 1, text => do
      let (item, rest) ← readValue fuel text
      match skipBlanks rest with
      | ',' :: following =>
          let (items, after) ← readItems fuel following
          return (item :: items, after)
      | ']' :: after => return ([item], after)
      | _ => none

/-- Reads the members of an object that is not empty, up to its closing brace. -/
def readMembers : Nat → List Char → Option (List (List Nat × Json) × List Char)
  | 0, _ => none
  | fuel + 1, text => do
      let (name, behind) ← readName text
      let (value, rest) ← readValue fuel behind
      match skipBlanks rest with
      | ',' :: following =>
          let (members, after) ← readMembers fuel following
          return ((name, value) :: members, after)
      | '\x7d' :: after => return ([(name, value)], after)
      | _ => none

end

/-- The value that a whole text stands for.  Every call reads at least one character or is
followed by one that does, so twice the length of the text is enough fuel. -/
def ofText? (text : String) : Option Json :=
  let symbols := text.toList
  match readValue (2 * symbols.length + 1) symbols with
  | some (value, rest) => if (skipBlanks rest).isEmpty then some value else none
  | none => none

end ChainProfile.Json
