import FederatedLogin.Logging.Event
import FederatedLogin.Operator.Command
import FederatedLogin.Platform.Standard

/-!
# The command line

The outer layer of the operator command: it collects the arguments, the environment, the bundle
file and the first line of standard input, runs the command, and writes what came of it.  It holds
no client for the network, so the service is out of reach for it.
-/

open FederatedLogin FederatedLogin.Logging FederatedLogin.Platform FederatedLogin.Text

/-- The variables that the command looks at. -/
def variableNames : List String :=
  ["LOG_LEVEL", "FEDERATION_VERIFY_URL", "FEDERATION_CA_BUNDLE_PATH",
   "FEDERATION_HTTP_TIMEOUT_SECONDS", "FEDERATION_DATABASE_URL"]

/-- The variables that are set, with their values. -/
def readEnvironment : IO Environment :=
  variableNames.filterMapM fun name => do
    return (← IO.getEnv name).map fun value => (name, value)

/-- The file under a path, if it can be read as text. -/
def readText (path : String) : IO (Option String) := do
  try
    return some (← IO.FS.readFile path)
  catch _ =>
    return none

/-- The files that a run looks at: the working directory, and the bundle if there is one. -/
def readFiles (environment : Environment) : IO Files := do
  let directory ← IO.currentDir
  let files : Files := { workingDirectory := Files.namesIn directory.toString }
  match Settings.bundlePath? environment with
  | none => return files
  | some path =>
      match ← readText path with
      | none => return files
      | some source => return files.put (files.placeOf (Utf8.encode path)) (.text source)

/-- A source of randomness that holds more bytes than a run can use. -/
def readRandom : IO RandomSource := do
  let bytes ← IO.getRandomBytes 64
  return { byteAt := fun index => (bytes[index]?).getD 0 }

/-- Writes the events of a run to the log, as an environment sets it up.  A run whose log cannot be
set up has no events. -/
def writeEvents (environment : Environment) (events : List Event) : IO Unit := do
  match Loggers.configure {} (environment.get? "LOG_LEVEL") with
  | (.error _, _) => return
  | (.ok (), loggers) =>
      for event in events do
        match loggers.emit (event.toOwnEvent "token_federation") with
        | .ok lines =>
            for line in lines do
              IO.eprintln (line.print .ascii)
        | .error trouble => IO.eprintln trouble.message

/-- Runs the operator command. -/
def main (arguments : List String) : IO UInt32 := do
  let environment ← readEnvironment
  let files ← readFiles environment
  let random ← readRandom
  let input ← (← IO.getStdin).getLine
  let invocation : Operator.Invocation :=
    { arguments, environment, input, reply := .requestFailed .sending "ConnectError" "no network" }
  let (report, _) := Operator.run invocation { files, random }
  writeEvents environment report.events
  match report.ending with
  | .status code output =>
      IO.print output
      return UInt32.ofNat code
  | .usage code =>
      IO.println "usage: token-federation [-h] [--principal PRINCIPAL] [--check-config]"
      return UInt32.ofNat code
  | .escaped failure =>
      IO.eprintln (failure.kind ++ ": " ++ quoted failure.message)
      return 1
