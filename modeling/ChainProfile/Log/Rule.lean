import ChainProfile.Log
import ChainProfile.Network
import ChainProfile.Pattern.Reader
import ChainProfile.Text.Numeral

/-!
# Log rules

A rule says how much of the log is shown for the records that it covers.  In full
it is written `source[span{field}]=verbosity`.  A rule covers the records whose
source begins with its own and that state its field.  A rule that names a span, or
a value for its field, covers no record, since no record stands in a span.  Every
part of a rule may be left out: a lone word is a verbosity if it names one and a
source otherwise, and a rule without a verbosity shows everything that it covers.
-/

namespace ChainProfile

/-- How much of the log is shown. -/
inductive Verbosity where
  | silent
  /-- The records of a level and of every graver one. -/
  | upTo (level : LogLevel)
deriving DecidableEq

namespace Verbosity

/-- Every verbosity with its name, each at the place of its number. -/
def named : List (String × Verbosity) := [
  ("off", .silent), ("error", .upTo .error), ("warn", .upTo .warn), ("info", .upTo .info),
  ("debug", .upTo .debug), ("trace", .upTo .trace)]

/-- Whether the records of a level are shown. -/
def shows : Verbosity → LogLevel → Bool
  | .silent, _ => false
  | .upTo limit, level => level.rank ≤ limit.rank

/-- The number that a text of decimal digits states; a plus sign may stand in front. -/
def number? (text : List Char) : Option Nat :=
  let digits := if text.head? = some '+' then text.tail else text
  if digits ≠ [] ∧ digits.all Char.isDigit then
    some (digits.foldl (fun number digit => 10 * number + (digit.toNat - '0'.toNat)) 0)
  else none

/-- The verbosity that a text names in any ASCII case, or states by its number. -/
def ofText? (text : String) : Option Verbosity :=
  match number? text.toList with
  | some number => named[number]?.map (·.2)
  | none => named.lookup (Network.folded text)

end Verbosity

/-- The field that a rule asks for, with the value that it has to have. -/
structure FieldTest where
  name : String
  value : Option String
deriving DecidableEq

namespace FieldTest

/-- A field is written as its name, or as its name and its value with an equals sign between. -/
def ofText (text : String) : FieldTest :=
  match Text.parts '=' text.toList with
  | name :: value :: _ => ⟨String.ofList name, some (String.ofList value)⟩
  | _ => ⟨text, none⟩

/-- What is wrong with the value of a field.  A value that is no numeral is a pattern. -/
def fault? (field : FieldTest) : Option Pattern.Fault := do
  let value ← field.value
  if Text.isNumeral value.toList then none else Pattern.fault? value.toList

end FieldTest

/-- A rule, of which every part but the verbosity may be missing. -/
structure LogRule where
  source : Option String
  span : Option String
  field : Option FieldTest
  verbosity : Verbosity
deriving DecidableEq

namespace LogRule

/-- Why a text is not a rule. -/
inductive Fault where
  | malformed
  /-- The value of the field is a pattern that cannot be used. -/
  | field (fault : Pattern.Fault)
  | verbosity
  /-- A part would begin or end within a character. -/
  | torn
deriving DecidableEq

/-- What is said of a text that is not a rule. -/
def Fault.message : Fault → String
  | .malformed => "invalid filter directive"
  | .field fault => "invalid field filter: " ++ fault.message
  | .verbosity =>
      "error parsing level filter: expected one of \"off\", \"error\", \"warn\", \"info\", " ++
        "\"debug\", \"trace\", or a number 0-5"
  | .torn => "a part begins or ends within a character"

/-- The rule that shows the errors of every source. -/
def errorsOnly : LogRule where
  source := none
  span := none
  field := none
  verbosity := .upTo .error

/-- Whether a rule speaks of records and not of spans. -/
def concernsRecords (rule : LogRule) : Bool :=
  rule.span.isNone && rule.field.all fun field => field.value.isNone

/-- Whether a rule covers a record. -/
def covers (rule : LogRule) (record : LogRecord) : Bool :=
  rule.concernsRecords &&
    (rule.source.all fun source => source.toList.isPrefixOf record.source.toList) &&
    rule.field.all fun field => record.hasField field.name

/-- Whether the first of two rules that cover one record goes before the second: the longer source
goes first, then a rule with a field, then the field whose name is later in the alphabet. -/
def goesBefore (left right : LogRule) : Bool :=
  (compare (left.source.map String.length) (right.source.map String.length)).then
    (compare (left.field.map FieldTest.name) (right.field.map FieldTest.name)) == .gt

/-! ## Reading

Where the parts of a rule lie is found in the text without the white space around
it, and at these places, which count bytes, they are cut from the text as it is
given.  So white space in front of a rule spoils it, and white space behind it
belongs to its last part.  White space of several bytes in front may even put a
place within a character, where no part can be cut.
-/

/-- The part of a text between two places, which count bytes. -/
def cut (text : List Char) (start stop : Nat) : Except Fault String :=
  if Text.isBoundary start text ∧ Text.isBoundary stop text then
    .ok (String.ofList (Text.between start stop 0 text))
  else .error .torn

/-- Whether a character can begin a source. -/
def startsSource (symbol : Char) : Bool :=
  symbol = '-' || symbol = ':' || symbol = '_' || Text.isAlphanumeric symbol

/-- The verbosity that begins at a place; where no word is left, everything is shown. -/
def readVerbosity (text : List Char) (place : Nat) : Except Fault Verbosity := do
  let word ← cut text place (Text.width text)
  if word = "" then return .upTo .trace
  else
    match Verbosity.ofText? word with
    | some verbosity => return verbosity
    | none => throw .verbosity

/-- The verbosity behind the brackets, of which the given part of the text is left. -/
def readEnd (text : List Char) (place : Nat) : List Char → Except Fault Verbosity
  | [] => .ok (.upTo .trace)
  | '=' :: _ => readVerbosity text (place + 1)
  | _ => .error .malformed

/-- The field of a rule from the inside of its braces on, with what stands behind them.  The braces
cannot be empty, but even an empty part is cut first, and the value of the field is looked at before
what stands behind. -/
def readField (text : List Char) (place : Nat) (inner : List Char) :
    Except Fault (FieldTest × Nat × List Char) := do
  let written := inner.takeWhile fun symbol => symbol ≠ '\x7d'
  let fieldEnd := place + Text.width written
  match inner.drop written.length with
  | '\x7d' :: behind =>
      let stated ← cut text place fieldEnd
      if stated = "" then throw .malformed
      else
        let field := FieldTest.ofText stated
        match field.fault?, behind with
        | some fault, _ => throw (.field fault)
        | none, ']' :: after => return (field, fieldEnd + 2, after)
        | none, _ => throw .malformed
  | _ => throw .malformed

/-- A rule from the inside of its brackets on, with the given part of the text left. -/
def readBrackets (text : List Char) (source : Option String) (place : Nat) (rest : List Char) :
    Except Fault LogRule := do
  let name := rest.takeWhile fun symbol => symbol ≠ ']' && symbol ≠ '\x7b'
  let nameEnd := place + Text.width name
  match rest.drop name.length with
  | ']' :: after =>
      let span ← cut text place nameEnd
      let verbosity ← readEnd text (nameEnd + 1) after
      return { source, span := some span, field := none, verbosity }
  | '\x7b' :: inner =>
      let name ← cut text place nameEnd
      let span := if name = "" then none else some name
      let (field, behind, after) ← readField text (nameEnd + 1) inner
      let verbosity ← readEnd text behind after
      return { source, span, field := some field, verbosity }
  | _ => throw .malformed

/-- The rule that a lone word states. -/
def ofWord (word : String) : LogRule :=
  match Verbosity.ofText? word with
  | some verbosity => { source := none, span := none, field := none, verbosity }
  | none => { source := some word, span := none, field := none, verbosity := .upTo .trace }

/-- Reads a rule. -/
def ofText (text : List Char) : Except Fault LogRule := do
  match Text.trimmed text with
  | [] => throw .malformed
  | '[' :: rest => readBrackets text none 1 rest
  | first :: rest =>
      let further := rest.takeWhile fun symbol => symbol ≠ '=' && symbol ≠ '['
      let sourceEnd := Text.width (first :: further)
      if startsSource first then
        match rest.drop further.length with
        | [] => return ofWord (String.ofList text)
        | '[' :: inner =>
            let source ← cut text 0 sourceEnd
            readBrackets text (some source) (sourceEnd + 1) inner
        | _ =>
            let source ← cut text 0 sourceEnd
            let verbosity ← readVerbosity text (sourceEnd + 1)
            return { source := some source, span := none, field := none, verbosity }
      else throw .malformed

end LogRule

end ChainProfile
