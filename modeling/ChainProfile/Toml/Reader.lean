import ChainProfile.Toml.Scalar

/-!
# Reading TOML

A document is a sequence of lines, each blank, a comment, a header or a key with
a value; only strings between triple quotes and arrays go on over line ends.
Every reader returns what follows the part it read.  Values nest to a fixed depth,
and dotted keys have a limited number of parts.
-/

namespace ChainProfile.Toml

/-- The parts that a dotted key may not reach, and the levels that nested values may not. -/
def depthLimit : Nat := 80

/-- Whether a character is a blank within a line. -/
def isBlank (symbol : Char) : Bool := symbol = ' ' || symbol = '\t'

/-- Whether a character may stand in a comment or string: no control character but the tab. -/
def isTextSymbol (symbol : Char) : Bool :=
  symbol = '\t' || (0x20 ≤ symbol.toNat && symbol.toNat ≠ 0x7f)

/-- What follows the blanks at the start of a text. -/
def skipBlanks (text : List Char) : List Char := text.dropWhile isBlank

/-- Steps over a line end of either kind. -/
def readLineEnd : List Char → Option (List Char)
  | '\n' :: rest => some rest
  | '\r' :: '\n' :: rest => some rest
  | _ => none

/-- Steps over a comment, if one begins here, and stops at a character that may not stand in it. -/
def skipComment : List Char → List Char
  | '#' :: rest => rest.dropWhile isTextSymbol
  | text => text

/-- Steps over blanks and a comment up to the end of the line or of the text. -/
def finishLine (text : List Char) : Option (List Char) :=
  match skipComment (skipBlanks text) with
  | [] => some []
  | rest => readLineEnd rest

/-- Steps over blanks and line ends. -/
def skipSpace : List Char → List Char
  | ' ' :: rest => skipSpace rest
  | '\t' :: rest => skipSpace rest
  | '\n' :: rest => skipSpace rest
  | '\r' :: '\n' :: rest => skipSpace rest
  | text => text

/-- Steps over blanks, line ends and comments, at most as many comments as the first argument
says. -/
def skipFiller : Nat → List Char → Option (List Char)
  | 0, text => some text
  | fuel + 1, text =>
      match skipSpace text with
      | '#' :: rest => readLineEnd (rest.dropWhile isTextSymbol) >>= skipFiller fuel
      | rest => some rest

/-- The character that hexadecimal digits name, if it is one. -/
def namedCharacter? (digits : List Char) : Option Char :=
  let code := numberOf 16 digits
  if areDigits 16 false digits && !digits.contains '_' && code.isValidChar then
    some (Char.ofNat code)
  else none

/-- Reads the character that stands behind a backslash. -/
def readEscape : List Char → Option (Char × List Char)
  | 'b' :: rest => some ('\x08', rest)
  | 't' :: rest => some ('\t', rest)
  | 'n' :: rest => some ('\n', rest)
  | 'f' :: rest => some ('\x0c', rest)
  | 'r' :: rest => some ('\r', rest)
  | '"' :: rest => some ('"', rest)
  | '\\' :: rest => some ('\\', rest)
  | 'u' :: rest =>
      if rest.length < 4 then none
      else (namedCharacter? (rest.take 4)).map fun symbol => (symbol, rest.drop 4)
  | 'U' :: rest =>
      if rest.length < 8 then none
      else (namedCharacter? (rest.take 8)).map fun symbol => (symbol, rest.drop 8)
  | _ => none

/-- Reads a string with escapes on one line, behind its opening quote. -/
def readBasic : Nat → List Char → Option (List Char × List Char)
  | 0, _ => none
  | _, [] => none
  | fuel + 1, symbol :: rest =>
      if symbol = '"' then some ([], rest)
      else if symbol = '\\' then do
        let (named, behind) ← readEscape rest
        let (body, after) ← readBasic fuel behind
        return (named :: body, after)
      else if isTextSymbol symbol then
        (readBasic fuel rest).map fun (body, after) => (symbol :: body, after)
      else none

/-- Reads a string without escapes on one line, behind its opening quote. -/
def readLiteral (text : List Char) : Option (List Char × List Char) :=
  let body := text.takeWhile fun symbol => isTextSymbol symbol && symbol ≠ '\''
  match text.drop body.length with
  | '\'' :: rest => some (body, rest)
  | _ => none

/-- Reads the rest of a string between triple quotes; up to two quotes in front of the closing
ones belong to the string.  With escapes, a backslash at the end of a line joins the lines. -/
def readLines (quote : Char) : Nat → List Char → Option (List Char × List Char)
  | 0, _ => none
  | fuel + 1, text =>
      let quotes := (text.takeWhile (· = quote)).length
      if 3 ≤ quotes then
        let inside := min (quotes - 3) 2
        some (List.replicate inside quote, text.drop (inside + 3))
      else
        match text with
        | [] => none
        | '\r' :: '\n' :: rest =>
            (readLines quote fuel rest).map fun (body, after) => ('\n' :: body, after)
        | symbol :: rest =>
            if symbol = '\\' ∧ quote = '"' then
              match readLineEnd (skipBlanks rest) with
              | some behind => readLines quote fuel (skipSpace behind)
              | none => do
                  let (named, behind) ← readEscape rest
                  let (body, after) ← readLines quote fuel behind
                  return (named :: body, after)
            else if symbol = '\n' || isTextSymbol symbol then
              (readLines quote fuel rest).map fun (body, after) => (symbol :: body, after)
            else none

/-- Steps over the line end that may follow opening triple quotes. -/
def skipFirstLineEnd (text : List Char) : List Char := (readLineEnd text).getD text

/-- Reads a string of any of the four kinds. -/
def readString : List Char → Option (String × List Char)
  | '"' :: '"' :: '"' :: rest =>
      (readLines '"' (rest.length + 1) (skipFirstLineEnd rest)).map
        fun (body, after) => (String.ofList body, after)
  | '\'' :: '\'' :: '\'' :: rest =>
      (readLines '\'' (rest.length + 1) (skipFirstLineEnd rest)).map
        fun (body, after) => (String.ofList body, after)
  | '"' :: rest =>
      (readBasic (rest.length + 1) rest).map fun (body, after) => (String.ofList body, after)
  | '\'' :: rest => (readLiteral rest).map fun (body, after) => (String.ofList body, after)
  | _ => none

/-- Whether a character may stand in a key without quotes. -/
def isKeySymbol (symbol : Char) : Bool := symbol.isAlphanum || symbol = '-' || symbol = '_'

/-- Reads one part of a key, with the blanks around it. -/
def readKeyPart (text : List Char) : Option (String × List Char) := do
  let start := skipBlanks text
  let (part, rest) ←
    match start with
    | '"' :: inner =>
        (readBasic (inner.length + 1) inner).map fun (body, after) => (String.ofList body, after)
    | '\'' :: inner => (readLiteral inner).map fun (body, after) => (String.ofList body, after)
    | _ =>
        let part := start.takeWhile isKeySymbol
        if part.isEmpty then none else some (String.ofList part, start.drop part.length)
  return (part, skipBlanks rest)

/-- Reads the parts of a dotted key, at most as many as the first argument says. -/
def readKeyParts : Nat → List Char → Option (List String × List Char)
  | 0, _ => none
  | fuel + 1, text => do
      let (part, rest) ← readKeyPart text
      match rest with
      | '.' :: behind =>
          let (parts, after) ← readKeyParts fuel behind
          return (part :: parts, after)
      | _ => return ([part], rest)

/-- Reads a dotted key as the path in front of its last part and that part. -/
def readKey (text : List Char) : Option (List String × String × List Char) := do
  let (parts, rest) ← readKeyParts (depthLimit - 1) text
  let name ← parts.getLast?
  return (parts.dropLast, name, rest)

/-- Whether a character may stand in a number or a moment. -/
def isWordSymbol (symbol : Char) : Bool :=
  isKeySymbol symbol || symbol = '+' || symbol = '.' || symbol = ':'

/-- Reads a value that is no string and holds no other values.  Date and time may be separated by
a blank. -/
def readScalar (text : List Char) : Option (Toml × List Char) :=
  let word := text.takeWhile isWordSymbol
  let rest := text.drop word.length
  match rest with
  | ' ' :: behind =>
      let time := behind.takeWhile isWordSymbol
      if isDate word && isTimeOfDate time then
        some (.moment (word ++ ' ' :: time), behind.drop time.length)
      else (scalar? word).map fun value => (value, rest)
  | _ => (scalar? word).map fun value => (value, rest)

/-- Reads the items of an array behind its opening bracket; a comma may follow the last one. -/
def readItems (readItem : List Char → Option (Toml × List Char)) :
    Nat → List Char → Option (List Toml × List Char)
  | 0, _ => none
  | fuel + 1, text => do
      let start ← skipFiller text.length text
      match start with
      | ']' :: after => return ([], after)
      | _ =>
          let (item, rest) ← readItem start
          let behind ← skipFiller rest.length rest
          match behind with
          | ',' :: following =>
              let (items, after) ← readItems readItem fuel following
              return (item :: items, after)
          | ']' :: after => return ([item], after)
          | _ => none

/-- Reads a dotted key, an equals sign and a value. -/
def readPair (readItem : List Char → Option (Toml × List Char)) (text : List Char) :
    Option ((List String × String × Toml) × List Char) := do
  let (path, name, behind) ← readKey text
  let start ← readMark '=' behind
  let (value, rest) ← readItem (skipBlanks start)
  return ((path, name, value), rest)

/-- Reads the pairs of a table between braces behind its first brace; there is at least one. -/
def readPairs (readItem : List Char → Option (Toml × List Char)) :
    Nat → List Char → Option (List (List String × String × Toml) × List Char)
  | 0, _ => none
  | fuel + 1, text => do
      let (pair, rest) ← readPair readItem text
      match skipBlanks rest with
      | ',' :: following =>
          let (pairs, after) ← readPairs readItem fuel following
          return (pair :: pairs, after)
      | '\x7d' :: after => return ([pair], after)
      | _ => none

/-- Reads a value that holds others to at most the given number of levels. -/
def readValue : Nat → List Char → Option (Toml × List Char)
  | levels, text =>
      match text with
      | '"' :: _ => (readString text).map fun (body, after) => (.string body, after)
      | '\'' :: _ => (readString text).map fun (body, after) => (.string body, after)
      | '[' :: rest =>
          match levels with
          | 0 => none
          | levels + 1 =>
              (readItems (readValue levels) (rest.length + 1) rest).map
                fun (items, after) => (.array items, after)
      | '\x7b' :: rest =>
          match levels with
          | 0 => none
          | levels + 1 =>
              match skipBlanks rest with
              | '\x7d' :: after => some (.inlineTable [], after)
              | _ => do
                  let (pairs, after) ← readPairs (readValue levels) (rest.length + 1) rest
                  let entries ← assembleInline pairs
                  return (.inlineTable entries, after)
      | _ => readScalar text

/-- Reads one statement up to the end of its line. -/
def readStatement (text : List Char) : Option (Statement × List Char) :=
  match text with
  | '[' :: '[' :: rest => do
      let (path, name, behind) ← readKey rest
      let after ← readMark ']' (← readMark ']' behind)
      return (.elementHeader path name, ← finishLine after)
  | '[' :: rest => do
      let (path, name, behind) ← readKey rest
      let after ← readMark ']' behind
      return (.header path name, ← finishLine after)
  | _ => do
      let ((path, name, value), after) ← readPair (readValue (depthLimit - 1)) text
      return (.assign path name value, ← finishLine after)

/-- Reads the statements of a document; every step reads at least one character. -/
def readStatements : Nat → List Char → Option (List Statement)
  | 0, _ => none
  | fuel + 1, text =>
      match skipSpace text with
      | [] => some []
      | '#' :: rest => finishLine ('#' :: rest) >>= readStatements fuel
      | start => do
          let (statement, rest) ← readStatement start
          let statements ← readStatements fuel rest
          return statement :: statements

/-- The entries of a document.  A byte order mark in front is no part of it. -/
def ofText? (text : String) : Option Entries :=
  let symbols :=
    match text.toList with
    | '\ufeff' :: rest => rest
    | symbols => symbols
  readStatements (symbols.length + 1) symbols >>= assemble

end ChainProfile.Toml
