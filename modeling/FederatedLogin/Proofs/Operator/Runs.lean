import FederatedLogin.Platform.Standard
import FederatedLogin.Proofs.Operator.Resolution
import FederatedLogin.Proofs.Session.Advance

/-!
# Runs one after another

The command keeps nothing between its runs but the files and the randomness.  Where these hold a
database, runs that log in come to what the logins of one session over one database come to, in
order: each run shows the user or the failure that the session answers with, and the file holds the
rows of the session.  Other runs leave everything as it is.
-/

namespace FederatedLogin.Operator

open FederatedLogin.OpenDatabase FederatedLogin.Store FederatedLogin.Verification

/-! ## Runs and their records -/

/-- The record of a run: what it was started with and found, and what it came to and left. -/
structure Record where
  invocation : Invocation
  found : Surroundings
  report : Report
  left : Surroundings

section

variable [Platform]

/-- The record of one run. -/
def record (found : Surroundings) (invocation : Invocation) : Record :=
  ⟨invocation, found, (run invocation found).1, (run invocation found).2⟩

/-- The records of runs, each of which finds what the one before it left. -/
def history (found : Surroundings) : List Invocation → List Record
  | [] => []
  | invocation :: rest => record found invocation :: history (run invocation found).2 rest

/-- The credential that a run logs in with.  Runs that check the configuration log in with none, and
neither do those without a token or with arguments that ask for nothing. -/
def Invocation.credential? (invocation : Invocation) : Option Credential :=
  match readArguments invocation.arguments with
  | .asked request =>
      let token := tokenOf invocation.input
      if request.checksConfig || token = "" then none else some ⟨request.principal, token⟩
  | .helped | .misused => none

/-- The login that a run is, as a step of a session. -/
def Invocation.login? (invocation : Invocation) : Option Session.Step :=
  invocation.credential?.map fun credential => .login credential invocation.reply

variable {invocation : Invocation} {credential : Credential} {found : Surroundings}

omit [Platform] in
/-- A run logs in with the token of standard input, if it is to log in and there is one. -/
theorem credential?_eq_some_iff : invocation.credential? = some credential ↔
    ∃ request, readArguments invocation.arguments = .asked request ∧
      request.checksConfig = false ∧ tokenOf invocation.input ≠ "" ∧
      credential = ⟨request.principal, tokenOf invocation.input⟩ := by
  rw [Invocation.credential?]
  cases asked : readArguments invocation.arguments with
  | helped => simp
  | misused => simp
  | asked request =>
      simp only [Option.ite_none_left_eq_some, Bool.or_eq_true, decide_eq_true_eq, not_or,
        Bool.not_eq_true, Option.some.injEq, Reading.asked.injEq, exists_eq_left', and_assoc,
        eq_comm (a := credential)]

theorem obey_of_credential (logsIn : invocation.credential? = some credential)
    (found : Surroundings) : obey invocation found =
      reportOn credential.principal printed (resolve invocation credential found) := by
  obtain ⟨request, asked, noCheck, supplied, rfl⟩ := credential?_eq_some_iff.mp logsIn
  simp only [obey, asked, noCheck, supplied, Bool.false_eq_true, if_false]

theorem run_of_credential (isSetUp : setUpLog invocation.environment = .ok ())
    (logsIn : invocation.credential? = some credential) (found : Surroundings) :
    run invocation found =
      reportOn credential.principal printed (resolve invocation credential found) := by
  rw [run_of_setUp isSetUp, obey_of_credential logsIn]

omit [Platform] in
theorem left_reportOn {α : Type} (principal : Principal) (output : α → String)
    (progress : Progress α) : (reportOn principal output progress).2 = progress.left := by
  rw [reportOn]
  split <;> rfl

omit [Platform] in
theorem requests_reportOn {α : Type} (principal : Principal) (output : α → String)
    (progress : Progress α) :
    (reportOn principal output progress).1.requests = progress.requests := by
  rw [reportOn]
  split <;> rfl

theorem left_checkConfig (invocation : Invocation) (found : Surroundings) :
    (checkConfig invocation found).left = found := by
  rw [checkConfig]
  split <;> rfl

theorem requests_checkConfig (invocation : Invocation) (found : Surroundings) :
    (checkConfig invocation found).requests = [] := by
  rw [checkConfig]
  split <;> rfl

/-- A run that does not log in leaves what it found, and sends nothing. -/
theorem idle_of_no_credential (noLogin : invocation.credential? = none) :
    (run invocation found).2 = found ∧ (run invocation found).1.requests = [] := by
  rw [Invocation.credential?] at noLogin
  cases isSetUp : setUpLog invocation.environment with
  | error trouble =>
      rw [run_of_not_setUp isSetUp]
      exact ⟨rfl, rfl⟩
  | ok done =>
      rw [run_of_setUp isSetUp, obey]
      cases asked : readArguments invocation.arguments with
      | helped => exact ⟨rfl, rfl⟩
      | misused => exact ⟨rfl, rfl⟩
      | asked request =>
          simp only [asked] at noLogin ⊢
          cases checks : request.checksConfig with
          | true =>
              simp only [if_true, left_reportOn, left_checkConfig, requests_reportOn,
                requests_checkConfig, and_self]
          | false =>
              have blank : tokenOf invocation.input = "" := by
                by_contra supplied
                simp [checks, supplied] at noLogin
              simp only [blank, Bool.false_eq_true, if_false, if_true, and_self]

/-- A run that is no step of a session leaves what it found. -/
theorem left_of_no_login (noLogin : invocation.login? = none) :
    (run invocation found).2 = found := by
  rw [Invocation.login?, Option.map_eq_none_iff] at noLogin
  exact (idle_of_no_credential noLogin).1

/-! ## A run and a step -/

omit [Platform] in
/-- The ending after a failure of a login at a service. -/
theorem endingOf_of_login {failure : Failure} (ofLogin : failure.isOfService ∨ failure.isStorage)
    (principal : Principal) : (endingOf principal failure).1 = .status statusFailed "" := by
  cases failure <;> first | rfl | simp [Failure.isOfService, Failure.isStorage] at ofLogin

/-- What is found before a run, and a session before a login: one table at a place, and one
randomness. -/
structure Follows (path base : String) (place : FilePath) (found : Surroundings)
    (session : Session) : Prop where
  base_eq : session.base = base
  place_eq : DatabaseUrl.placeOf found.files path = place
  site : Site found.files place
  exists_table : ∃ table, session.backend = .onTable table found.random ∧
    Stores found.files place table

/-- What a run shows by its ending of the answer to a login. -/
inductive Shows : Except Failure Session.Answer → Ending → Prop where
  | resolved (user : User) : Shows (.ok (.user user)) (.status statusOk (printed user))
  | failed (failure : Failure) : Shows (.error failure) (.status statusFailed "")

/-- The record of a run on a database at a place agrees with that of a login. -/
structure Agrees (place : FilePath) (record : Record) (entry : Session.Entry) : Prop where
  ending : Shows entry.result record.report.ending
  requests : entry.requests = some record.report.requests
  rows : ∃ table, record.left.files.content? place = some (.database table) ∧
    entry.rows = some table.rows

variable {environment : Environment} {settings : Settings} {client : Client} {path base : String}
  {place : FilePath} {session : Session}

/-- The ending of a run shows how its login ended. -/
theorem shows_login (prepared : Prepared environment path base settings client)
    {backend : Backend} (plain : backend.Plain) {reply : Reply} (plainReply : reply.isPlain)
    (credential : Credential) {progress : Progress User}
    (result_eq : progress.result = (login base credential reply backend).outcome.result) :
    Shows ((login base credential reply backend).outcome.result.map .user)
      (reportOn credential.principal printed progress).1.ending := by
  obtain ⟨address, isTarget, absolute⟩ := prepared.service.exists_target
  have reported := reported_login isTarget (fun _ => absolute) plainReply plain credential
  rw [reportOn, result_eq]
  cases ended : (login base credential reply backend).outcome.result with
  | ok user => exact .resolved user
  | error failure =>
      rw [ended] at reported
      cases reported with
      | failed kind =>
          have ofLogin : failure.isOfService ∨ failure.isStorage := by
            rcases kind with ⟨ofService, _⟩ | ⟨storage, _⟩
            · exact .inl ofService
            · exact .inr storage
          simp only [endingOf_of_login ofLogin]
          exact .failed failure

/-- A run that logs in and the login of a session that it follows agree, and it follows the session
afterwards. -/
theorem follows_login (prepared : Prepared environment path base settings client)
    (follows : Follows path base place found session)
    (under : invocation.environment = environment) (plain : invocation.reply.isPlain)
    (logsIn : invocation.credential? = some credential) :
    Follows path base place (run invocation found).2
        (session.step (.login credential invocation.reply)).1 ∧
      Agrees place (record found invocation)
        (session.step (.login credential invocation.reply)).2 := by
  obtain ⟨rfl, rfl, site, table, isTable, stores⟩ := follows
  obtain ⟨result_eq, requests_eq, random_eq, left, holding, files_eq⟩ :=
    exists_resolve prepared site stores invocation under credential
  have run_eq := run_of_credential (under ▸ prepared.isSetUp) logsIn found
  obtain ⟨after, random, isAfter⟩ := isOnTable_login ⟨table, found.random, rfl⟩ session.base
    credential invocation.reply
  have restored : (run invocation found).2.files =
      left.put (DatabaseUrl.placeOf found.files path) (.database after) := by
    rw [run_eq, left_reportOn, files_eq, isAfter]
    rfl
  have holds : Holding found.files (run invocation found).2.files
      (DatabaseUrl.placeOf found.files path) := by
    rw [restored]
    exact holding.put nofun
  have here : (run invocation found).2.files.content? (DatabaseUrl.placeOf found.files path) =
      some (.database after) := by
    rw [restored, Files.content?_put, if_pos rfl]
  have backend_eq : (session.step (.login credential invocation.reply)).1.backend =
      .onTable after random := by
    simp only [Session.step, Session.after, isTable, isAfter]
  constructor
  · refine ⟨session.step_base _, ?_, site.of_holding holds, after, ?_, .kept after here⟩
    · simp only [DatabaseUrl.placeOf, Files.placeOf, holds.directories.absolute]
    · rw [backend_eq, run_eq, left_reportOn, random_eq, isAfter]
      rfl
  · refine ⟨?_, ?_, after, here, ?_⟩
    · simp only [Session.step, Session.after, record, run_eq, isTable]
      exact shows_login prepared (Backend.clear_onTable table found.random).plain plain credential
        result_eq
    · simp only [Session.step, Session.after, record, run_eq, isTable,
        requests_reportOn, requests_eq]
    · simp only [Session.step, Session.after, isTable, isAfter]
      rfl

/-! ## Runs and sessions -/

/-- The records of runs that log in. -/
def logins (records : List Record) : List Record :=
  records.filter fun record => record.invocation.login?.isSome

/-- Runs that follow a session follow its logins to the end. -/
theorem runs_follow (prepared : Prepared environment path base settings client)
    {invocations : List Invocation}
    (each : ∀ invocation ∈ invocations,
      invocation.environment = environment ∧ invocation.reply.isPlain)
    (follows : Follows path base place found session) :
    List.Forall₂ (Agrees place) (logins (history found invocations))
      (session.run (invocations.filterMap Invocation.login?)).2 := by
  induction invocations generalizing found session with
  | nil => exact .nil
  | cons first rest ih =>
      obtain ⟨under, plain⟩ := each first List.mem_cons_self
      have restEach : ∀ invocation ∈ rest,
          invocation.environment = environment ∧ invocation.reply.isPlain :=
        fun invocation restMem => each invocation (List.mem_cons_of_mem _ restMem)
      cases logsIn : first.credential? with
      | none =>
          have noLogin : first.login? = none := by
            rw [Invocation.login?, logsIn, Option.map_none]
          have same : (run first found).2 = found := left_of_no_login noLogin
          rw [history, same, logins, List.filter_cons_of_neg (by simp [record, noLogin]),
            List.filterMap_cons_none noLogin]
          exact ih restEach follows
      | some credential =>
          have isLogin : first.login? = some (.login credential first.reply) := by
            rw [Invocation.login?, logsIn, Option.map_some]
          obtain ⟨restFollows, agrees⟩ := follows_login prepared follows under plain logsIn
          rw [history, logins, List.filter_cons_of_pos (by simp [record, isLogin]),
            List.filterMap_cons_some isLogin, Session.run_cons]
          exact .cons agrees (ih restEach restFollows)

/-- Every record of a history is that of a run. -/
theorem eq_record_of_mem_history {invocations : List Invocation} {taken : Record}
    (takenMem : taken ∈ history found invocations) :
    taken = record taken.found taken.invocation := by
  induction invocations generalizing found with
  | nil => cases takenMem
  | cons first rest ih =>
      rcases List.mem_cons.mp takenMem with rfl | restMem
      · rfl
      · exact ih restMem

/-- Under an environment that passes the check and names a database in a file, but no bundle, runs
compose to one session over one database.  The runs that log in agree, in order, with the logins of
the session: each returns success and prints the user that the session answers with, or returns
failure and prints nothing where the session answers with one, and the file holds the rows of the
session.  The other runs leave everything as they found it.

The file has to be at a site, and missing or empty at the start. -/
theorem runs_compose_to_session {checkInput : String} {checkReply : Reply}
    (passes : (run ⟨["--check-config"], environment, checkInput, checkReply⟩ found).1.Returns
      statusOk)
    (file : environment.NamesFile path) (service : environment.NamesService base)
    (site : Site found.files (DatabaseUrl.placeOf found.files path))
    (vacant : Stores found.files (DatabaseUrl.placeOf found.files path) .empty)
    {invocations : List Invocation}
    (each : ∀ invocation ∈ invocations,
      invocation.environment = environment ∧ invocation.reply.isPlain) :
    let records := history found invocations
    let session := Session.start base Kind.database.empty found.random
    List.Forall₂ (Agrees (DatabaseUrl.placeOf found.files path)) (logins records)
        (session.run (invocations.filterMap Invocation.login?)).2 ∧
      ∀ record ∈ records, record.invocation.login? = none → record.left = record.found := by
  intro records session
  obtain ⟨settings, client, prepared⟩ := exists_prepared passes file service
  constructor
  · exact runs_follow prepared each ⟨rfl, rfl, site, .empty, rfl, vacant⟩
  · intro taken takenMem noLogin
    rw [eq_record_of_mem_history takenMem]
    exact left_of_no_login noLogin

end

/-- An environment with a service and a database in a file. -/
def withFile (path : String) : Environment :=
  [("FEDERATION_VERIFY_URL", "http://verify.example.com"),
    ("FEDERATION_DATABASE_URL", DatabaseUrl.fileMarker ++ path)]

theorem placeOf_users : DatabaseUrl.placeOf {} "users.db" = [Text.Utf8.encode "users.db"] := by
  decide +kernel

/-- A file in an empty directory. -/
theorem site_users : Site {} (DatabaseUrl.placeOf {} "users.db") := by
  have isPlace : Files.IsPlace (DatabaseUrl.placeOf {} "users.db") := by
    apply Files.isPlace_placeOf
    intro part partMem
    cases partMem
  rw [placeOf_users] at isPlace ⊢
  refine ⟨isPlace, by decide, by decide, by decide, by decide, by decide, ?_, by decide⟩
  intro reached content _ here
  cases here

theorem namesFile_users : (withFile "users.db").NamesFile "users.db" := by
  refine ⟨rfl, ?_, ?_, ?_, ?_, rfl⟩ <;> decide +kernel

theorem namesService_users : (withFile "users.db").NamesService "http://verify.example.com" :=
  ⟨⟨"http://verify.example.com", by decide +kernel, by decide +kernel⟩, by decide +kernel⟩

section

open scoped Platform

/-- A check, a first login, a run without a token, and a login that is turned away. -/
theorem four_runs_compose_to_session :
    let invocation (arguments : List String) (input : String) (reply : Reply) : Invocation :=
      ⟨arguments, withFile "users.db", input, reply⟩
    let invocations := [invocation ["--check-config"] "" (.response 200 []),
      invocation [] "tok" (.response 200 assertingBody), invocation [] " " (.response 200 []),
      invocation ["--principal", "al"] "tok" (.response 401 [])]
    let session := Session.start "http://verify.example.com" Kind.database.empty (.arithmetic 0)
    invocations.map Invocation.credential? =
        [none, some ⟨.named "cli", "tok"⟩, none, some ⟨.named "al", "tok"⟩] ∧
      List.Forall₂ (Agrees [Text.Utf8.encode "users.db"])
        (logins (history ⟨{}, .arithmetic 0⟩ invocations))
        (session.run (invocations.filterMap Invocation.login?)).2 := by
  intro invocation invocations session
  have passes : (run ⟨["--check-config"], withFile "users.db", "", .response 200 []⟩
      ⟨{}, .arithmetic 0⟩).1.Returns statusOk :=
    (check_returns_ok_iff _ _ _ _).mpr ⟨rfl, ⟨"http://verify.example.com", none,
        Settings.defaultTimeout, some (DatabaseUrl.fileMarker ++ "users.db")⟩,
      ⟨"http://verify.example.com", Settings.defaultTimeout, false⟩, rfl, rfl⟩
  have each : ∀ invocation ∈ invocations,
      invocation.environment = withFile "users.db" ∧ invocation.reply.isPlain := by
    simp [invocations, invocation, Reply.isPlain]
  have composed := runs_compose_to_session passes namesFile_users
    namesService_users site_users (.missing rfl) each
  rw [placeOf_users] at composed
  exact ⟨by decide +kernel, composed.1⟩


/-- A directory with the name of its journal stands in the way of a database.  It is never made, and
the login of a session has no counterpart. -/
theorem journal_directory_refuses_login :
    let journal := ([Text.Utf8.encode "users.db-journal"], FileContent.directory)
    let found : Surroundings := ⟨{ entries := [journal] }, .arithmetic 0⟩
    let place := DatabaseUrl.placeOf found.files "users.db"
    let reply : Reply := .response 200 assertingBody
    let session := Session.start "http://verify.example.com" Kind.database.empty found.random
    (run ⟨["--check-config"], withFile "users.db", "", reply⟩ found).1.ending =
        .status statusOk "" ∧
      (Address.ofText? (Address.authenticateUrl "http://verify.example.com")).isSome ∧
      place = [Text.Utf8.encode "users.db"] ∧ found.files.isDirectory place.dropLast ∧
      found.files.content? place = none ∧
      (session.step (.login ⟨.named "cli", "tok"⟩ reply)).2.result.isOk ∧
      (run ⟨[], withFile "users.db", "tok", reply⟩ found).1.ending = .status statusFailed "" := by
  decide +kernel

end

end FederatedLogin.Operator
