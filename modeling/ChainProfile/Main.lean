import ChainProfile.Node
import Std.Time.Format

/-!
# Command line

The program reads its arguments, the settings file, the environment, the clock
and random bytes, runs a node on them, and prints what the run shows.
-/

namespace ChainProfile.CommandLine

/-- The text that explains the command line. -/
def usage : String :=
  "\n".intercalate [
    "Bitmark node: resolves and reports the active chain parameters",
    "",
    "Usage: bmk-node [OPTIONS]",
    "",
    "Options:",
    "      --testnet                Use the public test network",
    "      --regtest                Use the private regression-test network",
    "  -c, --config <CONFIG>        Path to a TOML configuration file",
    "  -l, --log-level <LOG_LEVEL>  Log level (trace, debug, info, warn, error); " ++
      "RUST_LOG takes precedence",
    "      --json                   Print the parameters as JSON",
    "  -h, --help                   Print help"]

/-- Whether an error code says that a path leads through a plain file.  Some calls give the code
with its sign turned. -/
def isThroughFile (code : UInt32) : Bool := code = 20 || code = 0 - 20

/-- What is found at a path.  Nothing is at the end of a path that leads through a plain file, that
is too long or that goes in circles. -/
def fileAt (path : String) : IO FileState := do
  try
    return .content (← IO.FS.readBinFile path).data.toList
  catch failure =>
    match failure with
    | .noFileOrDirectory .. | .invalidArgument .. => return .missing
    | .inappropriateType _ code _ =>
        return if isThroughFile code then .missing else .unreadable
    | _ => return .unreadable

/-- The time of day in seconds, with random words in plenty and zeros behind them. -/
def currentMoment : IO Moment := do
  let stamp ← Std.Time.Timestamp.now
  let random ← IO.getRandomBytes 2048
  let words := (List.range 256).map fun place =>
    UInt64.ofNat (ofLittleEndian ((random.data.toList.drop (8 * place)).take 8))
  return .ofWords (Int64.ofInt stamp.toSecondsSinceUnixEpoch.toInt) words

/-- Prints a record behind the time of day, with the level to the right of its column. -/
def printRecord (record : LogRecord) : IO Unit := do
  let time := Std.Time.DateTime.ofTimestamp (← Std.Time.Timestamp.now) .UTC
  let indent := "".pushn ' ' (5 - record.level.name.length)
  IO.println (time.format "uuuu-MM-dd'T'HH:mm:ss.SSSSSS" ++ "Z " ++ indent ++ record.line)

/-- Runs a node on its surroundings and prints what the run shows. -/
def runNode (arguments : Arguments) : IO UInt32 := do
  let file ← (arguments.config.map fileAt).getD (pure .missing)
  let main ← currentMoment
  let test ← currentMoment
  let regression ← currentMoment
  let moment : Network → Moment
    | .main => main
    | .test => test
    | .regression => regression
  -- Zeros are accepted, so building ends.
  let some registry := Registry.build moment | return 1
  let outcome := Node.run {
    fileAt := fun _ => file
    logFilter := ← IO.getEnv "RUST_LOG"
    registry
    selector := .initial } arguments
  outcome.records.forM printRecord
  outcome.output.forM fun line => IO.println line
  outcome.errors.forM fun line => IO.eprintln line
  return outcome.exitCode.toUInt32

end ChainProfile.CommandLine

open ChainProfile in
/-- Reads the arguments and runs a node, or explains what is wrong with them. -/
def main (words : List String) : IO UInt32 := do
  match Arguments.parse words with
  | .ok arguments => CommandLine.runNode arguments
  | .error .displayHelp =>
      IO.println CommandLine.usage
      return 0
  | .error fault =>
      IO.eprintln ("error: " ++ fault.name)
      IO.eprintln ""
      IO.eprintln CommandLine.usage
      return fault.exitCode.toUInt32
