import FederatedLogin.Client
import FederatedLogin.Database.Opening
import FederatedLogin.Json.Printer
import FederatedLogin.Logging.Emission
import FederatedLogin.Login.Session
import FederatedLogin.Operator.Arguments
import FederatedLogin.Settings.Basic
import FederatedLogin.Text.Line

/-!
# The operator command

The command resolves one token, the first line of standard input, to its local user and prints the
user as one JSON line.  With the check of the configuration it stops before the token is read.  The
log is set up first of all, and a run ends there if it cannot be.

A run takes the files and the randomness it finds and leaves them changed; nothing else connects
one run with the next.
-/

namespace FederatedLogin.Operator

open FederatedLogin.Text FederatedLogin.Verification

variable [Platform]

/-- What a run finds and leaves. -/
structure Surroundings where
  files : Files
  random : RandomSource

/-- What a run is started with. -/
structure Invocation where
  arguments : List String
  environment : Environment
  input : String
  reply : Reply

/-- How a run ends. -/
inductive Ending where
  /-- With a status, and with what it printed. -/
  | status (code : Nat) (output : String)
  /-- Before it started, because of its arguments. -/
  | usage (code : Nat)
  /-- With trouble outside the family of failures. -/
  | escaped (failure : Failure)
  deriving DecidableEq, Repr

/-- What came of a run. -/
structure Report where
  ending : Ending
  events : List Event
  requests : List Verification.Request

/-- The status of success. -/
def statusOk : Nat :=
  0

/-- The status of a login that failed. -/
def statusFailed : Nat :=
  1

/-- The status of an invalid configuration. -/
def statusMisconfigured : Nat :=
  2

/-- Sets up the log with the level that an environment names. -/
def setUpLog (environment : Environment) : Except Trouble Unit :=
  (Logging.Loggers.configure {} (environment.get? "LOG_LEVEL")).1

/-- The token on standard input: its first line without the blanks around it. -/
def tokenOf (input : String) : String :=
  strip (firstLine endsInputLine input)

/-- The line that shows a user. -/
def printed (user : User) : String :=
  (Json.Value.record
      [("user_id", match user.id with
          | some id => .integer id
          | none => .null),
       ("federation_key", .string user.federationKey), ("username", .string user.username),
       ("email", .string user.email)]).print .ascii ++ "\n"

/-- What a login works with: a store, how far it can be used, and where it is kept if that is a
file. -/
structure OpenStore where
  store : Store
  access : Access := {}
  place : Option FilePath := none

/-- Opens the store that settings name, with its table made. -/
def openStore (files : Files) (settings : Settings) : Files × Except Failure OpenStore :=
  match settings.databaseUrl with
  | none => (files, .ok { store := .memory Store.Memory.empty })
  | some url =>
      match Settings.connection url with
      | .error failure => (files, .error failure)
      | .ok connection =>
          let (files, opened) := connection.connect files
          (files, opened.map fun database =>
            { store := .database (some database.table)
              access := database.access
              place := database.place })

/-- The files after a store is put back in its place. -/
def keepStore (files : Files) (place : Option FilePath) (store : Store) : Files :=
  match place, store with
  | some place, .database (some table) => files.put place (.database table)
  | _, _ => files

/-- What a part of a run came to. -/
structure Progress (α : Type) where
  result : Except Failure α
  events : List Event
  requests : List Verification.Request
  left : Surroundings

/-- A login on an open store. -/
def resolveOn (opened : OpenStore) (settings : Settings) (invocation : Invocation)
    (credential : Credential) (found : Surroundings) : Progress User :=
  let client := Client.build found.files settings.verifyUrl settings.bundlePath settings.timeout
  match client.result with
  | .error failure => ⟨.error failure, client.events, [], found⟩
  | .ok ready =>
      let made := login ready.url credential invocation.reply
        { store := opened.store, random := found.random, access := opened.access }
      ⟨made.outcome.result, client.events ++ made.outcome.events, made.requests,
        { files := keepStore found.files opened.place made.outcome.backend.store
          random := made.outcome.backend.random }⟩

/-- The resolution of a token. -/
def resolve (invocation : Invocation) (credential : Credential) (found : Surroundings) :
    Progress User :=
  match Settings.load invocation.environment with
  | .error failure => ⟨.error failure, [], [], found⟩
  | .ok settings =>
      let loaded := settings.loadedEvent
      let (files, opened) := openStore found.files settings
      let found := { found with files }
      match opened with
      | .error failure => ⟨.error failure, [loaded], [], found⟩
      | .ok opened =>
          let progress := resolveOn opened settings invocation credential found
          { progress with events := loaded :: progress.events }

/-- The check of the configuration, which opens no database. -/
def checkConfig (invocation : Invocation) (found : Surroundings) : Progress Unit :=
  match Settings.load invocation.environment with
  | .error failure => ⟨.error failure, [], [], found⟩
  | .ok settings =>
      let client := Client.build found.files settings.verifyUrl settings.bundlePath settings.timeout
      ⟨client.result.map fun _ => (), settings.loadedEvent :: client.events, [], found⟩

/-- How a run ends after a failure, and what it logs about it. -/
def endingOf (principal : Principal) (failure : Failure) : Ending × List Event :=
  match failure with
  | .configuration _ => (.status statusMisconfigured "", [.configurationInvalid failure])
  | .outside _ => (.escaped failure, [])
  | _ => (.status statusFailed "", [.authenticationFailed principal failure])

/-- The report on what a run came to. -/
def reportOn {α : Type} (principal : Principal) (output : α → String) (progress : Progress α) :
    Report × Surroundings :=
  match progress.result with
  | .ok value =>
      (⟨.status statusOk (output value), progress.events, progress.requests⟩, progress.left)
  | .error failure =>
      let (ending, events) := endingOf principal failure
      (⟨ending, progress.events ++ events, progress.requests⟩, progress.left)

/-- Does what the arguments of a run ask for, once the log is set up. -/
def obey (invocation : Invocation) (found : Surroundings) : Report × Surroundings :=
  match readArguments invocation.arguments with
  | .helped => (⟨.usage 0, [], []⟩, found)
  | .misused => (⟨.usage 2, [], []⟩, found)
  | .asked request =>
      if request.checksConfig then
        reportOn request.principal (fun _ => "") (checkConfig invocation found)
      else
        let token := tokenOf invocation.input
        if token = "" then
          (⟨.status statusFailed "", [.tokenMissing request.principal], []⟩, found)
        else
          reportOn request.principal printed
            (resolve invocation ⟨request.principal, token⟩ found)

/-- Runs the command. -/
def run (invocation : Invocation) (found : Surroundings) : Report × Surroundings :=
  match setUpLog invocation.environment with
  | .error trouble => (⟨.escaped (.outside trouble), [], []⟩, found)
  | .ok () => obey invocation found

section

variable {invocation : Invocation}

/-- With the log set up, a run does what its arguments ask for. -/
theorem run_of_setUp (isSetUp : setUpLog invocation.environment = .ok ())
    (found : Surroundings) : run invocation found = obey invocation found := by
  rw [run, isSetUp]

/-- Without a log a run ends before it looks at anything. -/
theorem run_of_not_setUp {trouble : Trouble}
    (refused : setUpLog invocation.environment = .error trouble) (found : Surroundings) :
    run invocation found = (⟨.escaped (.outside trouble), [], []⟩, found) := by
  rw [run, refused]

end

/-- Runs the command several times, each run with what the one before it left. -/
def runs (found : Surroundings) : List Invocation → Surroundings × List Report
  | [] => (found, [])
  | invocation :: rest =>
      let (report, left) := run invocation found
      let (last, reports) := runs left rest
      (last, report :: reports)

end FederatedLogin.Operator
