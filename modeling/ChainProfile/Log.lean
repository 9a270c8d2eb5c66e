/-!
# Log records

A record has a level, the part of the program that it comes from, a message and
named fields.  It is written on one line.
-/

namespace ChainProfile

/-- The levels of records, the gravest first. -/
inductive LogLevel where
  | error
  | warn
  | info
  | debug
  | trace
deriving DecidableEq

namespace LogLevel

/-- The name that is written for a level. -/
def name : LogLevel → String
  | .error => "ERROR"
  | .warn => "WARN"
  | .info => "INFO"
  | .debug => "DEBUG"
  | .trace => "TRACE"

/-- The place of a level; the gravest level has the first. -/
def rank : LogLevel → Nat
  | .error => 1
  | .warn => 2
  | .info => 3
  | .debug => 4
  | .trace => 5

end LogLevel

/-- A record of the log. -/
structure LogRecord where
  level : LogLevel
  /-- The part of the program that speaks. -/
  source : String
  message : String
  /-- What the record states beside its message. -/
  fields : List (String × String)
deriving DecidableEq

namespace LogRecord

/-- The name under which the message counts as a field. -/
def messageField : String := "message"

/-- Whether a record states a field, its message among them. -/
def hasField (name : String) (record : LogRecord) : Bool :=
  name == messageField || record.fields.any fun (field, _) => name == field

/-- The line that a record is written on. -/
def line (record : LogRecord) : String :=
  record.level.name ++ " " ++ record.source ++ ": " ++
    " ".intercalate (record.message :: record.fields.map fun (name, value) => name ++ "=" ++ value)

end LogRecord

end ChainProfile
