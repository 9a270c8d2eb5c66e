import ChainProfile.Arguments
import ChainProfile.Log.Filter
import ChainProfile.Report
import ChainProfile.Selector

/-!
# Running a node

A run loads the settings, lays the command line over them, makes sure that the
parameters of every network are there, chooses the network by the switches and
reports its parameters.  A run is a function: what it shows and whether it
succeeds is a value, and so is the selection that it leaves.
-/

namespace ChainProfile.Node

/-- What a run shows and leaves. -/
structure Outcome where
  exitCode : UInt8
  records : List LogRecord
  /-- The lines of the report. -/
  output : List String
  /-- The lines on the error channel. -/
  errors : List String
  selector : Selector

/-- What a run meets: the files by their paths, the log filter that the environment sets, the
parameters of every network, and the selection so far. -/
structure Surroundings where
  fileAt : String → FileState
  logFilter : Option String
  registry : Except ChainError Registry
  selector : Selector

/-- The field in which a record names a network. -/
def networkField (network : Network) : String × String := ("network", network.name)

/-- What is logged when the parameters of a network have been built. -/
def buildRecords (parameters : Parameters) : List LogRecord :=
  [ { level := .debug, source := "bmk_core::p2p::seeds", message := "materialized fixed seeds"
      fields := [
        ("count", toString parameters.fixedSeeds.length),
        ("port", toString parameters.defaultPort.toNat)] },
    { level := .debug, source := "bmk_core::node::params", message := "chain parameters constructed"
      fields := [
        networkField parameters.network, ("genesis_hash", parameters.genesisHash.toHex)] } ]

/-- What is logged when the parameters of every network have been built. -/
def registryRecords (registry : Registry) : List LogRecord :=
  (Network.all.map registry.get).flatMap buildRecords ++
    [ { level := .debug, source := "bmk_core::node::registry"
        message := "parameter registry initialized", fields := [] } ]

/-- What is logged when a node starts on a network. -/
def startRecords (network : Network) : List LogRecord :=
  [ { level := .info, source := "bmk_core::node::registry", message := "selected chain parameters"
      fields := [networkField network] },
    { level := .info, source := "bmk_node", message := "node starting"
      fields := [networkField network] } ]

/-- What is logged when a run ends with an error. -/
def failureRecord (what : String) (error : ChainError) : LogRecord where
  level := .error
  source := "bmk_node"
  message := what ++ ": " ++ error.message
  fields := []

/-- The settings of a run: those of the file that the command line names, or the defaults. -/
def loadSettings (arguments : Arguments) (fileAt : String → FileState) :
    Except ChainError Settings :=
  match arguments.config with
  | none => .ok .default
  | some path => Settings.load (fileAt path)

/-- The lines that report parameters, as JSON if the command line asks for it. -/
def report (arguments : Arguments) (parameters : Parameters) : List String :=
  if arguments.json then parameters.summaryLines else parameters.bannerLines

/-- Runs a node with settings that the command line has been laid over, and with the filter of what
is logged; what was complained of before comes first. -/
def runFiltered (surroundings : Surroundings) (arguments : Arguments) (settings : Settings)
    (filter : LogFilter) (complaints : List String) : Outcome :=
  let shown (records : List LogRecord) := records.filter filter.shows
  let failed (records : List LogRecord) (error : ChainError) : Outcome :=
    { exitCode := 1, records := shown records, output := []
      errors := complaints ++ ["Error: " ++ error.message], selector := surroundings.selector }
  match surroundings.registry with
  | .error error => failed [failureRecord "Fatal" error] error
  | .ok registry =>
      match Network.chosenBy settings with
      | .error error =>
          failed (registryRecords registry ++ [failureRecord "Invalid network selection" error])
            error
      | .ok network =>
          { exitCode := 0
            records := shown (registryRecords registry ++ startRecords network)
            output := report arguments (registry.get network)
            errors := complaints
            selector := surroundings.selector.select network }

/-- Runs a node with settings that the command line has been laid over.  A log filter that breaks
ends the run before anything is logged, with an exit code of its own. -/
def runWith (surroundings : Surroundings) (arguments : Arguments) (settings : Settings) : Outcome :=
  match LogFilter.chosen surroundings.logFilter settings.logLevel with
  | .done filter complaints => runFiltered surroundings arguments settings filter complaints
  | .broken complaints =>
      { exitCode := 101, records := [], output := []
        errors := complaints ++ ["", LogRule.Fault.torn.message]
        selector := surroundings.selector }

/-- Runs a node.  Settings that cannot be loaded end the run before anything is logged. -/
def run (surroundings : Surroundings) (arguments : Arguments) : Outcome :=
  match loadSettings arguments surroundings.fileAt with
  | .error error =>
      { exitCode := 1, records := [], output := [], errors := [error.message]
        selector := surroundings.selector }
  | .ok settings => runWith surroundings arguments (settings.overlaid arguments)

end ChainProfile.Node
