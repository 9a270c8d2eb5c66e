import ChainProfile.Settings

/-!
# Command-line arguments

The words of a command line are read from left to right.  A word with two hyphens
names a switch or an option, a word with one hyphen starts with the letter of one;
there are no other words but the values of options.  An option's value is attached
or is the next word.  A value from the next word takes effect only when the
following option, switch or the end is reached, so a word that is not understood is
reported before an unsuitable value in front of it.
-/

namespace ChainProfile

/-- Why a command line is refused, or that it asks for help. -/
inductive ArgumentFault where
  | unknownArgument
  /-- A switch or option is given twice. -/
  | argumentConflict
  | invalidValue
  | tooManyValues
  | displayHelp
deriving DecidableEq

namespace ArgumentFault

/-- The name of a fault. -/
def name : ArgumentFault → String
  | .unknownArgument => "UnknownArgument"
  | .argumentConflict => "ArgumentConflict"
  | .invalidValue => "InvalidValue"
  | .tooManyValues => "TooManyValues"
  | .displayHelp => "DisplayHelp"

/-- Asking for help is a success, every fault a failure of usage. -/
def exitCode : ArgumentFault → UInt8
  | .displayHelp => 0
  | _ => 2

end ArgumentFault

/-- What a command line can say. -/
structure Arguments where
  testnet : Bool
  regtest : Bool
  config : Option String
  logLevel : Option String
  json : Bool
deriving DecidableEq

namespace Arguments

/-- What a command line without words says. -/
def empty : Arguments where
  testnet := false
  regtest := false
  config := none
  logLevel := none
  json := false

instance : Inhabited Arguments := ⟨empty⟩

/-- The switches, which take no value. -/
inductive Switch where
  | testnet
  | regtest
  | json
  | help

/-- The options, which take a value. -/
inductive ValueOption where
  | config
  | logLevel

/-- Turns a switch on; no switch may be turned on twice. -/
def turnOn (arguments : Arguments) : Switch → Except ArgumentFault Arguments
  | .testnet =>
      if arguments.testnet then .error .argumentConflict
      else .ok { arguments with testnet := true }
  | .regtest =>
      if arguments.regtest then .error .argumentConflict
      else .ok { arguments with regtest := true }
  | .json =>
      if arguments.json then .error .argumentConflict else .ok { arguments with json := true }
  | .help => .error .displayHelp

/-- Gives an option its value.  A path may not be empty. -/
def give (arguments : Arguments) (value : String) : ValueOption → Except ArgumentFault Arguments
  | .config =>
      if arguments.config.isSome then .error .argumentConflict
      else if value.isEmpty then .error .invalidValue
      else .ok { arguments with config := some value }
  | .logLevel =>
      if arguments.logLevel.isSome then .error .argumentConflict
      else .ok { arguments with logLevel := some value }

/-- A command line on the way: what has taken effect, and the option that waits for its value or
for its value to take effect. -/
structure Progress where
  arguments : Arguments
  waiting : Option (ValueOption × Option String)

namespace Progress

/-- What has taken effect once the waiting option has been given its value; it needs one. -/
def settle (progress : Progress) : Except ArgumentFault Arguments :=
  match progress.waiting with
  | none => .ok progress.arguments
  | some (_, none) => .error .invalidValue
  | some (option, some value) => progress.arguments.give value option

/-- A switch is reached. -/
def onSwitch (progress : Progress) (switch : Switch) : Except ArgumentFault Progress := do
  let settled ← progress.settle
  let arguments ← settled.turnOn switch
  return { arguments, waiting := none }

/-- An option is reached, with its value if that is attached. -/
def onOption (progress : Progress) (option : ValueOption) (attached : Option String) :
    Except ArgumentFault Progress := do
  let settled ← progress.settle
  match attached with
  | some value => return { arguments := ← settled.give value option, waiting := none }
  | none => return { arguments := settled, waiting := some (option, none) }

end Progress

/-- The switch that a name stands for. -/
def switchOfName? (name : String) : Option Switch :=
  if name = "testnet" then some .testnet
  else if name = "regtest" then some .regtest
  else if name = "json" then some .json
  else if name = "help" then some .help
  else none

/-- The option that a name stands for. -/
def optionOfName? (name : String) : Option ValueOption :=
  if name = "config" then some .config
  else if name = "log-level" then some .logLevel
  else none

/-- The option that a letter stands for. -/
def optionOfLetter? : Char → Option ValueOption
  | 'c' => some .config
  | 'l' => some .logLevel
  | _ => none

/-- Reads what follows two hyphens: a name, and perhaps an equals sign and a value. -/
def readLong (progress : Progress) (word : List Char) : Except ArgumentFault Progress :=
  let name := String.ofList (word.takeWhile (· ≠ '='))
  let attached :=
    match word.dropWhile (· ≠ '=') with
    | _ :: value => some (String.ofList value)
    | [] => none
  match switchOfName? name, optionOfName? name with
  | some switch, _ => if attached.isSome then .error .tooManyValues else progress.onSwitch switch
  | none, some option => progress.onOption option attached
  | none, none => .error .unknownArgument

/-- Reads what follows one hyphen: a letter, and perhaps a value with or without an equals sign. -/
def readShort (progress : Progress) : List Char → Except ArgumentFault Progress
  | [] => .error .unknownArgument
  | letter :: rest =>
      if letter = 'h' then progress.onSwitch .help
      else
        match optionOfLetter? letter, rest with
        | none, _ => .error .unknownArgument
        | some option, [] => progress.onOption option none
        | some option, '=' :: value => progress.onOption option (some (String.ofList value))
        | some option, value => progress.onOption option (some (String.ofList value))

/-- Reads a word that starts with no hyphen, or is a single one: the value that is waited for. -/
def readValue (progress : Progress) (word : String) : Except ArgumentFault Progress :=
  match progress.waiting with
  | some (option, none) => .ok { progress with waiting := some (option, some word) }
  | _ => .error .unknownArgument

/-- Reads words one after another.  Two hyphens alone may only be the last word. -/
def readWords (progress : Progress) : List String → Except ArgumentFault Arguments
  | [] => progress.settle
  | word :: words => do
      match word.toList with
      | ['-', '-'] => if words.isEmpty then progress.settle else .error .unknownArgument
      | '-' :: '-' :: long => readWords (← readLong progress long) words
      | '-' :: letter :: short => readWords (← readShort progress (letter :: short)) words
      | _ => readWords (← readValue progress word) words

/-- What the words of a command line say. -/
def parse (words : List String) : Except ArgumentFault Arguments :=
  readWords { arguments := empty, waiting := none } words

/-- A command line can be asked for its two network switches. -/
instance : SwitchSource Arguments where
  isOn arguments name default :=
    if name = testnetSwitch then arguments.testnet
    else if name = regtestSwitch then arguments.regtest
    else default

end Arguments

/-- Settings with a command line laid over them: its switches turn settings on, never off, and its
log level replaces theirs. -/
def Settings.overlaid (settings : Settings) (arguments : Arguments) : Settings where
  testnet := settings.testnet || arguments.testnet
  regtest := settings.regtest || arguments.regtest
  logLevel := arguments.logLevel.getD settings.logLevel

end ChainProfile
