import ChainProfile.Hex
import ChainProfile.Text

/-!
# Patterns

A pattern describes texts.  Nothing is ever matched with one here: what counts is
whether a pattern can be used.  This module has the marks from which patterns are
built and what they may stand for; brackets and groups are built on it.

A pattern is read in a mode.  In a spaced mode, white space and comments between
the marks are skipped.  Outside the mode of all characters, bytes are described,
and only what keeps to whole characters is allowed.  No table of the cases of
letters and of the classes of all characters is at hand, so a mode that ignores
case has no place for a single character unless bytes are described, and neither
has the mode of all characters for a class of digits, spaces or words.
-/

namespace ChainProfile.Pattern

/-- How the marks of a pattern are taken. -/
structure Mode where
  /-- White space and comments stand between the marks. -/
  spaced : Bool
  /-- The case of letters is ignored. -/
  caseless : Bool
  /-- All characters are described and not bytes. -/
  unicode : Bool
deriving DecidableEq

/-- The mode in which every pattern begins. -/
def Mode.initial : Mode where
  spaced := false
  caseless := false
  unicode := true

/-- A text from its first mark on: without white space, and without comments, which begin with a
number sign and end with their line.  The flag tells whether a comment has begun. -/
def skipSpace : Bool → List Char → List Char
  | _, [] => []
  | true, symbol :: rest => skipSpace (symbol ≠ '\n') rest
  | false, symbol :: rest =>
      if symbol = '#' then skipSpace true rest
      else if Text.isWhiteSpace symbol then skipSpace false rest
      else symbol :: rest

/-- What is left of a text where a mark is expected. -/
def Mode.skip (mode : Mode) (text : List Char) : List Char :=
  if mode.spaced then skipSpace false text else text

/-- A mark that is complete in itself. -/
inductive Mark where
  /-- A character that stands for itself; it may be written as a byte with two digits. -/
  | character (symbol : Char) (asByte : Bool)
  /-- A class of digits, spaces or word characters, or of all others. -/
  | category (complement : Bool)
  | anyCharacter
  | edge
  /-- A place at the edge of a word, or away from one. -/
  | wordEdge
deriving DecidableEq

/-- Whether a mark may stand outside of brackets. -/
def Mark.isUsable (mode : Mode) : Mark → Bool
  | .character symbol asByte =>
      if mode.unicode then !mode.caseless else !asByte || symbol.toNat < 0x80
  | .category complement => !mode.unicode && !complement
  | .anyCharacter => mode.unicode
  | .edge => true
  | .wordEdge => true

/-- Whether a mark may stand in brackets. -/
def Mark.isUsableInBrackets (mode : Mode) : Mark → Bool
  | .character symbol _ => if mode.unicode then !mode.caseless else symbol.toNat < 0x80
  | .category complement => !mode.unicode && !complement
  | _ => false

/-- Reads hexadecimal digits, in a spaced mode with space between them. -/
def readHexDigits (mode : Mode) : Nat → List Char → Option (List Nat × List Char)
  | 0, text => some ([], text)
  | count + 1, text =>
      match mode.skip text with
      | [] => none
      | symbol :: rest => do
          let digit ← if symbol.toNat < 0x80 then Hex.value? (UInt8.ofNat symbol.toNat) else none
          let (digits, after) ← readHexDigits mode count rest
          return (digit :: digits, after)

/-- Reads the character with the code point that digits of a given number state. -/
def readCodePoint (mode : Mode) (count : Nat) (text : List Char) : Option (Mark × List Char) := do
  let (digits, rest) ← readHexDigits mode count text
  let value := digits.foldl (fun value digit => 16 * value + digit) 0
  if value.isValidChar then return (.character (Char.ofNat value) (count == 2), rest) else none

/-- The letters that name control characters, and these. -/
def controlLetters : List (Char × Char) := [
  ('a', '\x07'), ('f', '\x0c'), ('n', '\n'), ('r', '\r'), ('t', '\t'), ('v', '\x0b')]

/-- The mark that a letter or sign names behind a backslash.  A sign of ASCII names itself. -/
def escaped? (symbol : Char) : Option Mark :=
  if "dsw".toList.contains symbol then some (.category false)
  else if "DSW".toList.contains symbol then some (.category true)
  else if "Az".toList.contains symbol then some .edge
  else if "bB<>".toList.contains symbol then some .wordEdge
  else if symbol.toNat < 0x80 ∧ ¬ symbol.isAlphanum then some (.character symbol false)
  else (controlLetters.lookup symbol).map fun control => .character control false

/-- Reads a mark behind a backslash. -/
def readEscape (mode : Mode) : List Char → Option (Mark × List Char)
  | 'x' :: rest => readCodePoint mode 2 rest
  | 'u' :: rest => readCodePoint mode 4 rest
  | 'U' :: rest => readCodePoint mode 8 rest
  | symbol :: rest => (escaped? symbol).map fun mark => (mark, rest)
  | [] => none

/-- How deeply a list of parts is nested: a single part is not nested any deeper by the list, and
several are nested by one. -/
def joinedDepth : List Nat → Nat
  | [] => 0
  | [depth] => depth
  | depths => 1 + depths.foldl max 0

end ChainProfile.Pattern
