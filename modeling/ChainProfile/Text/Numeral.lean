/-!
# Numerals

The text of a number of any size: decimal digits, which a point may part and an
exponent may follow, or a word for infinity or for no number.  A sign may stand in
front.
-/

namespace ChainProfile.Text

/-- A text without the sign in front of it. -/
def unsigned (text : List Char) : List Char :=
  match text with
  | '+' :: rest => rest
  | '-' :: rest => rest
  | _ => text

/-- Whether a text is one or more decimal digits. -/
def isDigits (text : List Char) : Bool := text ≠ [] && text.all Char.isDigit

/-- Whether a text is decimal digits, of which a point may part the last, with an exponent or
without.  A digit has to stand on one side of the point at least. -/
def isDecimal (text : List Char) : Bool :=
  let whole := text.takeWhile Char.isDigit
  let beyond := text.drop whole.length
  let fraction :=
    match beyond with
    | '.' :: rest => rest.takeWhile Char.isDigit
    | _ => []
  let exponent :=
    match beyond with
    | '.' :: rest => rest.drop fraction.length
    | _ => beyond
  isDigits (whole ++ fraction) &&
    match exponent with
    | [] => true
    | mark :: digits => mark.toLower = 'e' && isDigits (unsigned digits)

/-- The words that stand for no finite number. -/
def numeralWords : List String := ["inf", "infinity", "nan"]

/-- Whether a text is a numeral.  The ASCII case of words does not matter. -/
def isNumeral (text : List Char) : Bool :=
  numeralWords.contains (String.ofList ((unsigned text).map Char.toLower)) ||
    isDecimal (unsigned text)

end ChainProfile.Text
