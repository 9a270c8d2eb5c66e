import ChainProfile.Pattern.Brackets
import ChainProfile.Text.Alphanumeric

/-!
# Reading patterns

A pattern is a list of branches, each a sequence of parts: marks, brackets and
groups, which may be repeated.  A group may have a name, which no other group of
the pattern has, or may set the mode for what it holds.  A mode may also be set
without a group, and then holds up to the end of the group around it.
-/

namespace ChainProfile.Pattern

/-- Why a pattern cannot be used. -/
inductive Fault where
  /-- The text is no pattern, or asks for what no table is at hand for. -/
  | malformed
  /-- The edges of words are asked for, and what a word is is not known for all characters. -/
  | wordEdge
deriving DecidableEq

/-- What is said of a pattern that cannot be used. -/
def Fault.message : Fault → String
  | .malformed => "error building NFA"
  | .wordEdge =>
      "unsupported regex feature for DFAs: cannot build DFAs for regexes with Unicode word " ++
        "boundaries; switch to ASCII word boundaries, or heuristically enable Unicode word " ++
        "boundaries or use a different regex engine"

/-- The deepest nesting of a pattern that can be used. -/
def depthLimit : Nat := 250

/-- A part of a sequence, with how deeply it is nested. -/
structure Part where
  depth : Nat
  /-- Whether the part can be repeated; a change of the mode cannot. -/
  isRepeatable : Bool

/-- What is known where a pattern has been read up to some place. -/
structure Progress where
  mode : Mode
  names : List String
  /-- Whether the edges of words were asked for where all characters are described. -/
  asksForWords : Bool
  /-- The depths of the branches before this one, the latest first. -/
  branches : List Nat
  /-- The parts of this branch, the latest first. -/
  parts : List Part

namespace Progress

/-- The progress before the first mark. -/
def initial : Progress where
  mode := .initial
  names := []
  asksForWords := false
  branches := []
  parts := []

/-- The progress behind a further part. -/
def add (progress : Progress) (part : Part) : Progress :=
  { progress with parts := part :: progress.parts }

/-- The progress behind a further mark. -/
def addMark (progress : Progress) (mark : Mark) : Progress :=
  let asks := mark = .wordEdge && progress.mode.unicode
  { progress.add ⟨0, true⟩ with asksForWords := progress.asksForWords || asks }

/-- The depths of the branches, the one that has been read so far among them. -/
def branchDepths (progress : Progress) : List Nat :=
  joinedDepth (progress.parts.map Part.depth) :: progress.branches

/-- The progress behind a bar, at the start of a further branch. -/
def branch (progress : Progress) : Progress :=
  { progress with branches := progress.branchDepths, parts := [] }

/-- How deeply all that has been read is nested. -/
def depth (progress : Progress) : Nat := joinedDepth progress.branchDepths

/-- The progress behind a repetition of the last part. -/
def repeated? (progress : Progress) : Option Progress :=
  match progress.parts with
  | part :: parts =>
      if part.isRepeatable then some { progress with parts := ⟨part.depth + 1, true⟩ :: parts }
      else none
  | [] => none

/-- The progress behind a group whose inside has been read; the mode is again that before it. -/
def close (progress inside : Progress) : Progress :=
  { progress.add ⟨inside.depth + 1, true⟩ with
    names := inside.names, asksForWords := inside.asksForWords }

end Progress

/-! ## Groups -/

/-- The letters of the settings of a mode. -/
def settingLetters : List Char := ['i', 'm', 's', 'U', 'u', 'R', 'x']

/-- A mode in which a setting is on or off.  Settings that change nothing here are passed over. -/
def Mode.set (isOn : Bool) (mode : Mode) (letter : Char) : Mode :=
  match letter with
  | 'i' => { mode with caseless := isOn }
  | 'u' => { mode with unicode := isOn }
  | 'x' => { mode with spaced := isOn }
  | _ => mode

/-- The mode that settings make of a mode: each setting at most once, and behind a minus sign those
that are off, of which there must be one. -/
def Mode.change? (mode : Mode) (settings : List Char) : Option Mode :=
  let on := settings.takeWhile fun symbol => symbol ≠ '-'
  let off := (settings.drop on.length).tail
  if (settings.all fun symbol => symbol = '-' || settingLetters.contains symbol) ∧
      settings.Nodup ∧ settings.getLast? ≠ some '-' then
    some (off.foldl (Mode.set false) (on.foldl (Mode.set true) mode))
  else none

/-- Whether a text may be the name of a group. -/
def isGroupName (name : List Char) : Bool :=
  match name with
  | first :: others =>
      (first = '_' || Text.isAlphabetic first) &&
        others.all fun symbol => "_.[]".toList.contains symbol || Text.isAlphanumeric symbol
  | [] => false

/-- What a parenthesis begins. -/
inductive Opening where
  /-- A group, whose inside is read with the given progress. -/
  | group (inside : Progress)
  /-- A change of the mode, and no group. -/
  | change (mode : Mode)

/-- Reads the name of a group up to the sign that ends it. -/
def readName (progress : Progress) (text : List Char) : Option (Opening × List Char) :=
  let name := text.takeWhile fun symbol => symbol ≠ '>'
  match text.drop name.length with
  | _ :: rest =>
      if isGroupName name ∧ ¬ progress.names.contains (String.ofList name) then
        some (.group { progress with
          names := String.ofList name :: progress.names, branches := [], parts := [] }, rest)
      else none
  | [] => none

/-- Reads settings up to the colon of a group or the end of the parentheses. -/
def readSettings (progress : Progress) (text : List Char) : Option (Opening × List Char) := do
  let settings := text.takeWhile fun symbol => symbol ≠ ':' && symbol ≠ ')'
  let mode ← progress.mode.change? settings
  match text.drop settings.length with
  | ':' :: rest => return (.group { progress with mode, branches := [], parts := [] }, rest)
  | ')' :: rest => if settings = [] then none else return (.change mode, rest)
  | _ => none

/-- Reads the beginning of parentheses behind the opening one. -/
def readOpening (progress : Progress) (text : List Char) : Option (Opening × List Char) :=
  match progress.mode.skip text with
  | '?' :: 'P' :: '<' :: rest => readName progress rest
  | '?' :: '<' :: rest => readName progress rest
  | '?' :: rest => readSettings progress rest
  | rest => some (.group { progress with branches := [], parts := [] }, rest)

/-! ## Sequences -/

/-- The sign behind a repetition that makes it as short as can be is part of it. -/
def skipShortest : List Char → List Char
  | '?' :: rest => rest
  | text => text

/-- Reads a mark outside of brackets, where a point and two signs have a meaning of their own. -/
def readPlainMark (mode : Mode) (text : List Char) : Option (Mark × List Char) := do
  let (mark, rest) ←
    match text with
    | '.' :: rest => some (Mark.anyCharacter, rest)
    | '^' :: rest => some (Mark.edge, rest)
    | '$' :: rest => some (Mark.edge, rest)
    | _ => Brackets.readMark mode text
  if mark.isUsable mode then return (mark, rest) else none

/-- Reads parts and branches up to the end of the text or to a closing parenthesis.  A brace would
begin a count of repetitions, which needs a closing brace; texts of patterns have none. -/
def readParts : Nat → Progress → List Char → Option (Progress × List Char)
  | 0, _, _ => none
  | fuel + 1, progress, text =>
      match progress.mode.skip text with
      | [] => some (progress, [])
      | ')' :: rest => some (progress, ')' :: rest)
      | '|' :: rest => readParts fuel progress.branch rest
      | '\x7b' :: _ => none
      | '[' :: rest => do
          let (depth, after) ← Brackets.read progress.mode (2 * text.length) rest
          readParts fuel (progress.add ⟨depth, true⟩) after
      | '(' :: rest => do
          let (opening, after) ← readOpening progress rest
          match opening with
          | .change mode => readParts fuel { progress.add ⟨0, false⟩ with mode } after
          | .group start =>
              match ← readParts fuel start after with
              | (inside, ')' :: behind) => readParts fuel (progress.close inside) behind
              | _ => none
      | symbol :: rest =>
          if symbol = '?' ∨ symbol = '*' ∨ symbol = '+' then do
            readParts fuel (← progress.repeated?) (skipShortest rest)
          else do
            let (mark, after) ← readPlainMark progress.mode (symbol :: rest)
            readParts fuel (progress.addMark mark) after

/-- What is wrong with a pattern, if it cannot be used. -/
def fault? (text : List Char) : Option Fault :=
  match readParts (text.length + 1) .initial text with
  | some (progress, []) =>
      if depthLimit < progress.depth then some .malformed
      else if progress.asksForWords then some .wordEdge
      else none
  | _ => some .malformed

end ChainProfile.Pattern
