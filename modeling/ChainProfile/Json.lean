/-!
# JSON values

A number keeps its literal, as the same number written differently is not taken
everywhere.  A string is a list of code points rather than characters: an escape
may name one half of a surrogate pair, which is well formed but stands for no
character.  Members keep their order and may repeat a name.
-/

namespace ChainProfile

/-- A JSON value. -/
inductive Json where
  | null
  | bool (value : Bool)
  | number (literal : List Char)
  | string (codes : List Nat)
  | array (items : List Json)
  | object (members : List (List Nat × Json))
deriving Inhabited

namespace Json

/-- Whether a code point is one half of a surrogate pair. -/
def isSurrogate (code : Nat) : Bool := 0xd800 ≤ code && code ≤ 0xdfff

/-- The code points of a text. -/
def codesOf (text : String) : List Nat := text.toList.map Char.toNat

/-- The text with the given code points, if each is a character. -/
def textOf? (codes : List Nat) : Option String :=
  if codes.any isSurrogate then none else some (String.ofList (codes.map Char.ofNat))

/-- A text as a string. -/
def ofText (text : String) : Json := .string (codesOf text)

/-- An integer as a number. -/
def ofInt (value : Int) : Json := .number (toString value).toList

/-- Members with the given names in order. -/
def record (members : List (String × Json)) : Json :=
  .object (members.map fun (name, value) => (codesOf name, value))

end Json

end ChainProfile
