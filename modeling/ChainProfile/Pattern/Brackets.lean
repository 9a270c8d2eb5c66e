import ChainProfile.Pattern

/-!
# Brackets

Brackets describe one character by a list of characters, ranges, classes and
further brackets.  Two lists may be joined by an operation, and what they describe
may be turned into its complement.
-/

namespace ChainProfile.Pattern.Brackets

/-- The names of the classes that may stand in brackets. -/
def classNames : List String := [
  "alnum", "alpha", "ascii", "blank", "cntrl", "digit", "graph", "lower", "print", "punct",
  "space", "upper", "word", "xdigit"]

/-- Reads a named class behind its opening bracket: a name between two colons, and whether its
complement is meant. -/
def readClass? (text : List Char) : Option (Bool × List Char) :=
  match text with
  | ':' :: inner =>
      let complement := inner.head? = some '^'
      let start := if complement then inner.tail else inner
      let name := start.takeWhile fun symbol => symbol ≠ ':'
      match start.drop name.length with
      | ':' :: ']' :: rest =>
          if classNames.contains (String.ofList name) then some (complement, rest) else none
      | _ => none
  | _ => none

/-- Whether a named class, or its complement, may stand in brackets. -/
def isClassUsable (mode : Mode) (complement : Bool) : Bool :=
  if mode.unicode then !mode.caseless else !complement

/-- The character that is seen behind a minus sign.  In a spaced mode white space is not seen, and
of a comment only its sign is not; if nothing else follows, what stands next is seen all the
same. -/
def seenBehind (mode : Mode) (rest : List Char) : Option Char :=
  if mode.spaced then
    let visible := rest.dropWhile Text.isWhiteSpace
    let seen :=
      match visible with
      | '#' :: comment => comment.dropWhile Text.isWhiteSpace
      | _ => visible
    if seen.isEmpty then rest.head? else seen.head?
  else rest.head?

/-- Reads a mark, which a backslash may begin. -/
def readMark (mode : Mode) : List Char → Option (Mark × List Char)
  | '\\' :: rest => readEscape mode rest
  | symbol :: rest => some (.character symbol false, rest)
  | [] => none

/-- Reads a mark or a range between two characters, of which the second must not be before the
first. -/
def readRange (mode : Mode) (text : List Char) : Option (List Char) := do
  let (first, afterFirst) ← readMark mode text
  if !first.isUsableInBrackets mode then none
  else
    match mode.skip afterFirst with
    | [] => none
    | '-' :: behind =>
        if seenBehind mode behind = some ']' ∨ seenBehind mode behind = some '-' then
          return '-' :: behind
        else
          let (last, rest) ← readMark mode (mode.skip behind)
          match first, last with
          | .character least _, .character greatest _ =>
              if last.isUsableInBrackets mode ∧ least.toNat ≤ greatest.toNat then return rest
              else none
          | _, _ => none
    | rest => return rest

/-- The depth of lists joined by operations, the earlier first. -/
def operationDepth (left : Option Nat) (right : Nat) : Nat :=
  match left with
  | some depth => 1 + max depth right
  | none => right

/-- Reads minus signs, each of which stands for itself, and counts them. -/
def readMinusSigns (mode : Mode) : Nat → List Char → Nat × List Char
  | 0, text => (0, text)
  | fuel + 1, text =>
      match text with
      | '-' :: rest =>
          let (count, after) := readMinusSigns mode fuel (mode.skip rest)
          (count + 1, after)
      | _ => (0, text)

/-- Reads the beginning of brackets behind the opening one: the sign of the complement, minus
signs, and a closing bracket that stands for itself where it comes first.  Returns whether the
complement is meant, and the number of characters that stand for themselves. -/
def readOpening (mode : Mode) (text : List Char) : Bool × Nat × List Char :=
  let start := mode.skip text
  let complement := start.head? = some '^'
  let inner := if complement then mode.skip start.tail else start
  match readMinusSigns mode inner.length inner with
  | (0, ']' :: rest) => (complement, 1, mode.skip rest)
  | (count, rest) => (complement, count, rest)

mutual

/-- Reads brackets behind the opening one, and finds how deeply they are nested. -/
def read (mode : Mode) : Nat → List Char → Option (Nat × List Char)
  | 0, _ => none
  | fuel + 1, text => do
      let (complement, count, rest) := readOpening mode text
      let plain := Mark.character '-' false
      if (complement ∧ ¬ mode.unicode) ∨ (0 < count ∧ ¬ plain.isUsableInBrackets mode) then none
      else
        let (depth, after) ← readItems mode fuel none (List.replicate count 0) rest
        return (depth + 1, after)

/-- Reads the items of brackets up to the closing one.  Given are the depth of the lists before
the last operation and the depths of the items behind it. -/
def readItems (mode : Mode) : Nat → Option Nat → List Nat → List Char → Option (Nat × List Char)
  | 0, _, _, _ => none
  | fuel + 1, left, items, text =>
      let operation (rest : List Char) : Option (Nat × List Char) :=
        readItems mode fuel (some (operationDepth left (joinedDepth items))) [] rest
      match mode.skip text with
      | [] => none
      | ']' :: rest => some (operationDepth left (joinedDepth items), rest)
      | '&' :: '&' :: rest => operation rest
      | '-' :: '-' :: rest => operation rest
      | '~' :: '~' :: rest => operation rest
      | '[' :: rest =>
          match readClass? rest with
          | some (complement, after) =>
              if isClassUsable mode complement then readItems mode fuel left (0 :: items) after
              else none
          | none => do
              let (depth, after) ← read mode fuel rest
              readItems mode fuel left (depth :: items) after
      | marks => do
          let rest ← readRange mode marks
          readItems mode fuel left (0 :: items) rest

end

end ChainProfile.Pattern.Brackets
