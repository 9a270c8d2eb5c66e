/-!
# Parts of texts

A text falls into parts at a separator, has white space around it or not, and has a
part between any two of its bytes.
-/

namespace ChainProfile.Text

/-- The parts of a text between the occurrences of a separator.  There is always one more part than
there are separators. -/
def parts (separator : Char) : List Char → List (List Char)
  | [] => [[]]
  | symbol :: rest =>
      if symbol = separator then [] :: parts separator rest
      else
        match parts separator rest with
        | first :: others => (symbol :: first) :: others
        | [] => [[symbol]]

/-- Whether a character lies in one of several closed ranges of code points. -/
def inRanges (ranges : List (Nat × Nat)) (symbol : Char) : Bool :=
  ranges.any fun (least, greatest) => least ≤ symbol.toNat && symbol.toNat ≤ greatest

/-- The white space of Unicode. -/
def whiteSpaceRanges : List (Nat × Nat) := [
  (0x09, 0x0D), (0x20, 0x20), (0x85, 0x85), (0xA0, 0xA0), (0x1680, 0x1680), (0x2000, 0x200A),
  (0x2028, 0x2029), (0x202F, 0x202F), (0x205F, 0x205F), (0x3000, 0x3000)]

/-- Whether a character is white space. -/
def isWhiteSpace (symbol : Char) : Bool := inRanges whiteSpaceRanges symbol

/-- A text without the white space around it. -/
def trimmed (text : List Char) : List Char :=
  ((text.dropWhile isWhiteSpace).reverse.dropWhile isWhiteSpace).reverse

/-- The number of bytes that a text takes. -/
def width : List Char → Nat
  | [] => 0
  | symbol :: rest => symbol.utf8Size + width rest

/-- Whether a place, counted in bytes, is where a character of a text begins or where the text
ends. -/
def isBoundary : Nat → List Char → Bool
  | 0, _ => true
  | _ + 1, [] => false
  | place + 1, symbol :: rest =>
      symbol.utf8Size ≤ place + 1 && isBoundary (place + 1 - symbol.utf8Size) rest

/-- The characters of a text that begin at one byte or later and before another, where the text
itself begins at a given byte. -/
def between (start stop : Nat) : Nat → List Char → List Char
  | _, [] => []
  | place, symbol :: rest =>
      let later := between start stop (place + symbol.utf8Size) rest
      if start ≤ place ∧ place < stop then symbol :: later else later

end ChainProfile.Text
