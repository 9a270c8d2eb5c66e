import ChainProfile.Hex
import ChainProfile.Toml

/-!
# Numbers and moments of time in TOML

A number or a moment is read from a whole word, by trying the forms in turn: a
moment of time, a number with a fraction or an exponent, an integer.  Digits may
be separated by single underscores.
-/

namespace ChainProfile.Toml

/-- The value of a digit of a base. -/
def digitIn? (base : Nat) (symbol : Char) : Option Nat :=
  if symbol.toNat < 128 then (Hex.value? (UInt8.ofNat symbol.toNat)).filter (· < base) else none

/-- Whether digits are separated, if at all, by single underscores; `afterDigit` tells whether a
digit stands in front. -/
def areDigits (base : Nat) : Bool → List Char → Bool
  | afterDigit, [] => afterDigit
  | afterDigit, symbol :: rest =>
      if symbol = '_' then afterDigit && areDigits base false rest
      else (digitIn? base symbol).isSome && areDigits base true rest

/-- The number that digits of a base stand for; underscores do not count. -/
def numberOf (base : Nat) (digits : List Char) : Nat :=
  (digits.filterMap (digitIn? base)).foldl (fun number digit => base * number + digit) 0

/-- Removes a sign and tells whether it is a minus. -/
def unsigned : List Char → Bool × List Char
  | '-' :: rest => (true, rest)
  | '+' :: rest => (false, rest)
  | word => (false, word)

/-- Whether a word is a whole decimal number: without a leading zero unless it is zero itself. -/
def isWhole (digits : List Char) : Bool :=
  areDigits 10 false digits && (digits.head? != some '0' || digits.length == 1)

/-- The integer that a word stands for, if it fits 64 bits. -/
def integer? (word : List Char) : Option Int :=
  let based (base : Nat) (digits : List Char) : Option Int :=
    if areDigits base false digits then some (numberOf base digits) else none
  let value : Option Int :=
    match word with
    | '0' :: 'x' :: digits => based 16 digits
    | '0' :: 'o' :: digits => based 8 digits
    | '0' :: 'b' :: digits => based 2 digits
    | _ =>
        let (isNegative, digits) := unsigned word
        if isWhole digits then
          let magnitude : Int := numberOf 10 digits
          some (if isNegative then -magnitude else magnitude)
        else none
  value.filter fun number => -0x8000000000000000 ≤ number && number ≤ 0x7fffffffffffffff

/-- Whether a decimal number rounds to infinity in double precision: from the middle between the
greatest finite number and the next power of two on.  The number of digits decides first, so
that no power is computed which the literal does not bound. -/
def roundsToInfinity (mantissa : Nat) (exponent : Int) : Bool :=
  let middle : Nat := 1 <<< 1024 - 1 <<< 970
  let places : Int := (Nat.toDigits 10 mantissa).length + exponent
  if mantissa = 0 ∨ places < 309 then false
  else if 309 < places then true
  else if 0 ≤ exponent then middle ≤ mantissa * Nat.pow 10 exponent.toNat
  else middle * Nat.pow 10 (-exponent).toNat ≤ mantissa

/-- Whether a character may stand among digits. -/
def isDigitOrMark (symbol : Char) : Bool := symbol.isDigit || symbol = '_'

/-- Whether a word is a number with a fraction or an exponent, or an infinity or no number.  A
positive number beyond the range of double precision is refused. -/
def isFloat (word : List Char) : Bool :=
  let (isNegative, digits) := unsigned word
  if digits = ['i', 'n', 'f'] || digits = ['n', 'a', 'n'] then true
  else
    let whole := digits.takeWhile isDigitOrMark
    let behind := digits.drop whole.length
    let (fraction, tail) :=
      match behind with
      | '.' :: rest =>
          let fraction := rest.takeWhile isDigitOrMark
          (some fraction, rest.drop fraction.length)
      | _ => (none, behind)
    let exponent :=
      match tail with
      | 'e' :: rest => some rest
      | 'E' :: rest => some rest
      | _ => none
    let (isShrinking, power) := unsigned (exponent.getD [])
    let isFormed :=
      isWhole whole && fraction.all (areDigits 10 false) &&
        (if exponent.isSome then areDigits 10 false power else tail.isEmpty) &&
        (fraction.isSome || exponent.isSome)
    let places := ((fraction.getD []).filterMap (digitIn? 10)).length
    let power : Int := numberOf 10 power
    let scale : Int := (if isShrinking then -power else power) - places
    isFormed &&
      (isNegative || !roundsToInfinity (numberOf 10 (whole ++ fraction.getD [])) scale)

/-- Reads a decimal field of fixed width whose value has a limit. -/
def readField (width greatest : Nat) (word : List Char) : Option (Nat × List Char) :=
  let field := word.take width
  if field.length = width ∧ field.all Char.isDigit ∧ numberOf 10 field ≤ greatest then
    some (numberOf 10 field, word.drop width)
  else none

/-- Steps over a given character. -/
def readMark (mark : Char) : List Char → Option (List Char)
  | symbol :: rest => if symbol = mark then some rest else none
  | [] => none

/-- The days of a month, in a leap year one more in February. -/
def daysInMonth (year month : Nat) : Nat :=
  if month = 2 then
    if year % 4 = 0 ∧ (year % 100 ≠ 0 ∨ year % 400 = 0) then 29 else 28
  else if month = 4 ∨ month = 6 ∨ month = 9 ∨ month = 11 then 30
  else 31

/-- Steps over a date, whose month and day have to exist. -/
def readDate (word : List Char) : Option (List Char) := do
  let (year, afterYear) ← readField 4 9999 word
  let (month, afterMonth) ← readField 2 12 (← readMark '-' afterYear)
  let (day, rest) ← readField 2 (daysInMonth year month) (← readMark '-' afterMonth)
  if month = 0 ∨ day = 0 then none else return rest

/-- Steps over a time of day; a minute may have a leap second. -/
def readTime (word : List Char) : Option (List Char) := do
  let (_, afterHour) ← readField 2 23 word
  let (_, afterMinute) ← readField 2 59 (← readMark ':' afterHour)
  let (_, afterSecond) ← readField 2 60 (← readMark ':' afterMinute)
  match afterSecond with
  | '.' :: rest =>
      let fraction := rest.takeWhile Char.isDigit
      if fraction.isEmpty then none else return rest.drop fraction.length
  | rest => return rest

/-- Whether a word is a distance from universal time. -/
def isOffset (word : List Char) : Bool :=
  match word with
  | ['Z'] => true
  | ['z'] => true
  | sign :: rest =>
      (sign = '+' || sign = '-') &&
        (do
          let (_, afterHour) ← readField 2 23 rest
          let (_, after) ← readField 2 59 (← readMark ':' afterHour)
          return after).any List.isEmpty
  | [] => false

/-- Whether a word is a date. -/
def isDate (word : List Char) : Bool := (readDate word).any List.isEmpty

/-- Whether a word is a time of day behind a date, with or without an offset. -/
def isTimeOfDate (word : List Char) : Bool :=
  (readTime word).any fun rest => rest.isEmpty || isOffset rest

/-- Whether a word is a moment: a date, a time of day, or both joined. -/
def isMoment (word : List Char) : Bool :=
  isDate word || (readTime word).any List.isEmpty ||
    match readDate word with
    | some (separator :: rest) =>
        (separator = 'T' || separator = 't' || separator = ' ') && isTimeOfDate rest
    | _ => false

/-- The value that a word stands for. -/
def scalar? (word : List Char) : Option Toml :=
  if word = ['t', 'r', 'u', 'e'] then some (.boolean true)
  else if word = ['f', 'a', 'l', 's', 'e'] then some (.boolean false)
  else if isMoment word then some (.moment word)
  else if isFloat word then some (.float word)
  else (integer? word).map .integer

end ChainProfile.Toml
