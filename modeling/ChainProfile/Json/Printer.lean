import ChainProfile.Hex
import ChainProfile.Json

/-!
# Printing JSON

There is a compact form without blanks, and a laid-out form with one item or
member to a line and two blanks for each level.  In strings the quote, the
backslash and control characters are escaped, the five common ones by a letter;
everything else stands for itself.
-/

namespace ChainProfile.Json

/-- How a code point is written in a string. -/
def escapedCode (code : Nat) : String :=
  if code = 0x22 then "\\\""
  else if code = 0x5c then "\\\\"
  else if code = 0x08 then "\\b"
  else if code = 0x0c then "\\f"
  else if code = 0x0a then "\\n"
  else if code = 0x0d then "\\r"
  else if code = 0x09 then "\\t"
  else if code < 0x20 || isSurrogate code then "\\u" ++ Hex.fixed 4 code
  else String.singleton (Char.ofNat code)

/-- A string between its quotes. -/
def quoted (codes : List Nat) : String := "\"" ++ String.join (codes.map escapedCode) ++ "\""

mutual

/-- The compact form of a value. -/
def compact : Json → String
  | .null => "null"
  | .bool true => "true"
  | .bool false => "false"
  | .number literal => String.ofList literal
  | .string codes => quoted codes
  | .array items => "[" ++ ",".intercalate (compactItems items) ++ "]"
  | .object members => "\x7b" ++ ",".intercalate (compactMembers members) ++ "\x7d"

/-- The compact forms of the items of an array. -/
def compactItems : List Json → List String
  | [] => []
  | item :: items => compact item :: compactItems items

/-- The compact forms of the members of an object, each behind its name and a colon. -/
def compactMembers : List (List Nat × Json) → List String
  | [] => []
  | (name, value) :: members => (quoted name ++ ":" ++ compact value) :: compactMembers members

end

/-- Puts a text in front of the first line of a block. -/
def prependToFirst (text : String) : List String → List String
  | [] => [text]
  | line :: lines => (text ++ line) :: lines

/-- Puts a comma behind the last line of a block. -/
def withComma : List String → List String
  | [] => []
  | [line] => [line ++ ","]
  | line :: lines => line :: withComma lines

/-- Joins blocks of lines; every block but the last ends in a comma. -/
def separated : List (List String) → List String
  | [] => []
  | [block] => block
  | block :: blocks => withComma block ++ separated blocks

/-- Moves lines in by one level. -/
def indented (lines : List String) : List String := lines.map ("  " ++ ·)

mutual

/-- The lines of the laid-out form of a value. -/
def layout : Json → List String
  | .array (item :: items) =>
      "[" :: indented (separated (layout item :: layoutItems items)) ++ ["]"]
  | .object ((name, value) :: members) =>
      let first := prependToFirst (quoted name ++ ": ") (layout value)
      "\x7b" :: indented (separated (first :: layoutMembers members)) ++ ["\x7d"]
  | .array [] => ["[]"]
  | .object [] => ["\x7b\x7d"]
  | .null => ["null"]
  | .bool value => [if value then "true" else "false"]
  | .number literal => [String.ofList literal]
  | .string codes => [quoted codes]

/-- The blocks of lines of the items of an array. -/
def layoutItems : List Json → List (List String)
  | [] => []
  | item :: items => layout item :: layoutItems items

/-- The blocks of lines of the members of an object. -/
def layoutMembers : List (List Nat × Json) → List (List String)
  | [] => []
  | (name, value) :: members =>
      prependToFirst (quoted name ++ ": ") (layout value) :: layoutMembers members

end

end ChainProfile.Json
