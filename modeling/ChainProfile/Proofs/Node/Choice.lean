import ChainProfile.Node
import ChainProfile.Proofs.Log.Reading
import ChainProfile.Proofs.Parameters.Registry

/-!
# The network that a run starts on

Each of the two switches can be given on the command line and in the settings file,
and counts the same in both places, so a conflict may be split between them.  A run
fails for the first of three reasons that holds: the settings cannot be loaded, the
log filter breaks, both networks are asked for.  The second is no matter of plain
filters.  A run that fails reports nothing and leaves the selection as it was; any
other run starts on the network that is asked for.
-/

namespace ChainProfile

namespace Node

/-- What a run comes to, its log records aside. -/
structure Ending where
  exitCode : UInt8
  output : List String
  errors : List String
  selector : Selector
deriving DecidableEq

/-- The end of a run that reports nothing and leaves the selection as it was. -/
def Ending.failed (selector : Selector) (exitCode : UInt8) (errors : List String) : Ending where
  exitCode
  output := []
  errors
  selector

/-- What an outcome comes to, its log records aside. -/
def Outcome.ending (outcome : Outcome) : Ending where
  exitCode := outcome.exitCode
  output := outcome.output
  errors := outcome.errors
  selector := outcome.selector

/-- Whether the command line or the settings ask for the test network. -/
def asksForTest (arguments : Arguments) (settings : Settings) : Bool :=
  arguments.testnet || settings.testnet

/-- Whether the command line or the settings ask for the regression network. -/
def asksForRegression (arguments : Arguments) (settings : Settings) : Bool :=
  arguments.regtest || settings.regtest

/-- The network that is asked for where only one is. -/
def wanted (arguments : Arguments) (settings : Settings) : Network :=
  if asksForRegression arguments settings then .regression
  else if asksForTest arguments settings then .test
  else .main

section Stages

variable {surroundings : Surroundings} {arguments : Arguments} {settings : Settings}

variable {registry : Registry} {filter : LogFilter} {complaints : List String}

end Stages

end Node

end ChainProfile
