import FederatedLogin.Operator.Command
import FederatedLogin.Platform.Standard
import FederatedLogin.Proofs.Client

/-!
# What the check of the configuration leaves out

The check reads the settings and sets up the client; a run opens the store between the two.  So a
configuration that passes the check can still be refused by a run, in two ways: the database is
asked for with a driver that cannot be used, or the bundle of trusted certificates is the file that
the database is opened in.  Nothing else makes the difference, whatever is logged in with and
whatever the service replies.
-/

namespace FederatedLogin

/-- What is wrong with settings that the check does not see. -/
inductive Settings.Overlooked [Platform] (settings : Settings) (files : Files) : Prop where
  /-- The database cannot be asked for in this way. -/
  | driver (url : String) (fault : ConfigurationFault) (isUrl : settings.databaseUrl = some url)
      (unusable : Settings.connection url = .error (.configuration fault))
  /-- The path of the bundle, for an https address, leads to the place of the database. -/
  | bundle (client : Client) (path : String) (place : FilePath) (opened : Operator.OpenStore)
      (built : (Client.build files settings.verifyUrl settings.bundlePath
        settings.timeout).result = .ok client)
      (secure : client.usesTls) (isPath : settings.bundlePath = some path)
      (isOpen : (Operator.openStore files settings).2 = .ok opened)
      (placed : opened.place = some place) (leads : Client.LeadsTo files path place)

namespace Operator

open FederatedLogin.Verification

/-- Whether a run returns a status. -/
def Report.Returns (report : Report) (code : Nat) : Prop :=
  ∃ output, report.ending = .status code output

section Report

variable {α : Type} {principal : Principal} {output : α → String} {progress : Progress α}

theorem returns_ok_iff : (reportOn principal output progress).1.Returns statusOk ↔
    ∃ value, progress.result = .ok value := by
  rw [reportOn]
  cases progress.result with
  | ok value => exact ⟨fun _ => ⟨value, rfl⟩, fun _ => ⟨output value, rfl⟩⟩
  | error failure =>
      constructor
      · rintro ⟨text, ending⟩
        cases failure <;> cases ending
      · rintro ⟨value, succeeded⟩
        cases succeeded

theorem returns_misconfigured_iff :
    (reportOn principal output progress).1.Returns statusMisconfigured ↔
      ∃ fault, progress.result = .error (.configuration fault) := by
  rw [reportOn]
  cases progress.result with
  | ok value =>
      constructor
      · rintro ⟨text, ending⟩
        cases ending
      · rintro ⟨fault, failed⟩
        cases failed
  | error failure =>
      constructor
      · rintro ⟨text, ending⟩
        cases failure with
        | configuration fault => exact ⟨fault, rfl⟩
        | _ => cases ending
      · rintro ⟨fault, failed⟩
        cases failed
        exact ⟨"", rfl⟩

end Report

section

variable [Platform] {environment : Environment} {settings : Settings} {found : Surroundings}

/-! ## The check -/

theorem obey_check (environment : Environment) (input : String) (reply : Reply)
    (found : Surroundings) :
    obey ⟨["--check-config"], environment, input, reply⟩ found =
      reportOn (.named "cli") (fun _ => "")
        (checkConfig ⟨["--check-config"], environment, input, reply⟩ found) := by
  have asked : readArguments ["--check-config"] = .asked { checksConfig := true } := by
    decide +kernel
  simp only [obey, asked, if_true]

/-- The check passes exactly when the log can be set up, the settings can be read and the client can
be set up. -/
theorem check_returns_ok_iff (environment : Environment) (input : String) (reply : Reply)
    (found : Surroundings) :
    (run ⟨["--check-config"], environment, input, reply⟩ found).1.Returns statusOk ↔
      setUpLog environment = .ok () ∧
        ∃ settings client, Settings.load environment = .ok settings ∧
          (Client.build found.files settings.verifyUrl settings.bundlePath
            settings.timeout).result = .ok client := by
  cases isSetUp : setUpLog environment with
  | error trouble =>
      rw [run_of_not_setUp isSetUp]
      simp [Report.Returns]
  | ok done =>
      rw [run_of_setUp isSetUp, obey_check, returns_ok_iff, checkConfig]
      cases loaded : Settings.load environment with
      | error failure => simp
      | ok settings =>
          cases built : (Client.build found.files settings.verifyUrl settings.bundlePath
              settings.timeout).result with
          | error failure => simp [built, Except.map]
          | ok client => simp [built, Except.map]

/-! ## The opening of the store -/

theorem openStore_misconfigured_iff {files : Files} {fault : ConfigurationFault} :
    (openStore files settings).2 = .error (.configuration fault) ↔
      ∃ url, settings.databaseUrl = some url ∧
        Settings.connection url = .error (.configuration fault) := by
  rw [openStore]
  cases settings.databaseUrl with
  | none => simp
  | some url =>
      cases connected : Settings.connection url with
      | error failure => simp [connected]
      | ok connection =>
          simp only [connected, Option.some.injEq, exists_eq_left', reduceCtorEq, iff_false]
          cases made : connection.connect files with
          | mk left opened =>
              cases opened with
              | ok database => simp [Except.map]
              | error failure =>
                  have other := Connection.connect_blameless made
                  intro same
                  cases same
                  cases other

/-- A store that is open leaves what the opening of a database leaves. -/
theorem openStore_leaves {files left : Files} {opened : OpenStore}
    (isOpen : openStore files settings = (left, .ok opened)) :
    ∃ database, OpenDatabase.Leaves files left database ∧ database.place = opened.place := by
  rw [openStore] at isOpen
  cases isUrl : settings.databaseUrl with
  | none =>
      simp only [isUrl] at isOpen
      cases isOpen
      exact ⟨{ table := .empty }, .memory _ rfl, rfl⟩
  | some url =>
      simp only [isUrl] at isOpen
      cases connected : Settings.connection url with
      | error failure => simp [connected] at isOpen
      | ok connection =>
          simp only [connected] at isOpen
          cases made : connection.connect files with
          | mk after result =>
              rw [made] at isOpen
              cases result with
              | error failure => simp [Except.map] at isOpen
              | ok database =>
                  cases isOpen
                  exact ⟨database, Connection.connect_leaves made, rfl⟩

/-! ## The run -/

theorem obey_resolve (environment : Environment) {input : String} (supplied : tokenOf input ≠ "")
    (reply : Reply) (found : Surroundings) :
    obey ⟨[], environment, input, reply⟩ found =
      reportOn (.named "cli") printed
        (resolve ⟨[], environment, input, reply⟩ ⟨.named "cli", tokenOf input⟩ found) := by
  have asked : readArguments [] = .asked {} := rfl
  simp only [obey, asked, if_neg supplied, Bool.false_eq_true, if_false]

/-- On an open store, only the client can be refused because of the configuration. -/
theorem resolveOn_misconfigured_iff (opened : OpenStore) (settings : Settings)
    (invocation : Invocation) (credential : Credential) (found : Surroundings)
    (fault : ConfigurationFault) :
    (resolveOn opened settings invocation credential found).result =
        .error (.configuration fault) ↔
      (Client.build found.files settings.verifyUrl settings.bundlePath
        settings.timeout).result = .error (.configuration fault) := by
  simp only [resolveOn]
  cases built : (Client.build found.files settings.verifyUrl settings.bundlePath
      settings.timeout).result with
  | error failure => simp
  | ok client =>
      simp only [reduceCtorEq, iff_false]
      intro failed
      have clear : Backend.Clear
          { store := opened.store, random := found.random, access := opened.access } :=
        ⟨rfl, rfl, rfl⟩
      have other := blameless_login clear client.url credential invocation.reply _ failed
      cases other

/-! ## What is overlooked -/

/-- Of settings that keep the store from opening, the check overlooks nothing but the driver. -/
theorem overlooked_iff_of_error {files : Files} {failure : Failure}
    (refused : (openStore files settings).2 = .error failure) :
    settings.Overlooked files ↔ ∃ fault, failure = .configuration fault := by
  constructor
  · intro overlooked
    cases overlooked with
    | driver url fault isUrl unusable =>
        have misconfigured : (openStore files settings).2 = .error (.configuration fault) :=
          openStore_misconfigured_iff.mpr ⟨url, isUrl, unusable⟩
        rw [refused] at misconfigured
        exact ⟨fault, Except.error.inj misconfigured⟩
    | bundle client path place opened built secure isPath isOpen =>
        rw [refused] at isOpen
        cases isOpen
  · rintro ⟨fault, rfl⟩
    obtain ⟨url, isUrl, unusable⟩ := openStore_misconfigured_iff.mp refused
    exact .driver url fault isUrl unusable

/-- Of settings with which the store opens, the check overlooks nothing but the bundle. -/
theorem overlooked_iff_of_ok {files : Files} {opened : OpenStore} {client : Client}
    (isOpen : (openStore files settings).2 = .ok opened)
    (built : (Client.build files settings.verifyUrl settings.bundlePath
      settings.timeout).result = .ok client) :
    settings.Overlooked files ↔
      client.usesTls ∧ ∃ path place, settings.bundlePath = some path ∧
        opened.place = some place ∧ Client.LeadsTo files path place := by
  constructor
  · intro overlooked
    cases overlooked with
    | driver url fault isUrl unusable =>
        have misconfigured : (openStore files settings).2 = .error (.configuration fault) :=
          openStore_misconfigured_iff.mpr ⟨url, isUrl, unusable⟩
        rw [isOpen] at misconfigured
        cases misconfigured
    | bundle other path place same otherBuilt secure isPath sameOpen placed leads =>
        rw [built, Except.ok.injEq] at otherBuilt
        rw [isOpen, Except.ok.injEq] at sameOpen
        subst otherBuilt sameOpen
        exact ⟨secure, path, place, isPath, placed, leads⟩
  · rintro ⟨secure, path, place, isPath, placed, leads⟩
    exact .bundle client path place opened built secure isPath isOpen placed leads

theorem resolve_misconfigured_iff (invocation : Invocation) {client : Client}
    (loaded : Settings.load invocation.environment = .ok settings)
    (built : (Client.build found.files settings.verifyUrl settings.bundlePath
      settings.timeout).result = .ok client) (credential : Credential) :
    (∃ fault, (resolve invocation credential found).result = .error (.configuration fault)) ↔
      settings.Overlooked found.files := by
  simp only [resolve, loaded]
  cases isOpen : openStore found.files settings with
  | mk left result =>
      have result_eq : (openStore found.files settings).2 = result := by rw [isOpen]
      cases result with
      | error failure =>
          rw [overlooked_iff_of_error result_eq]
          simp only [Except.error.injEq]
      | ok opened =>
          obtain ⟨database, leaves, samePlace⟩ := openStore_leaves isOpen
          rw [overlooked_iff_of_ok result_eq built, ← samePlace,
            ← Client.build_misconfigured_iff leaves built]
          simp only [resolveOn_misconfigured_iff]

/-- A configuration that passes the check is refused by a run exactly when something is wrong with
it that the check does not see.  What is logged in with and what the service replies have no part in
this. -/
theorem run_misconfigured_iff_overlooked {checkInput : String} {checkReply : Reply}
    (passes : (run ⟨["--check-config"], environment, checkInput, checkReply⟩ found).1.Returns
      statusOk) {input : String} (supplied : tokenOf input ≠ "") (reply : Reply) :
    (run ⟨[], environment, input, reply⟩ found).1.Returns statusMisconfigured ↔
      ∃ settings, Settings.load environment = .ok settings ∧
        settings.Overlooked found.files := by
  obtain ⟨isSetUp, settings, client, loaded, built⟩ :=
    (check_returns_ok_iff environment checkInput checkReply found).mp passes
  let invocation : Invocation := ⟨[], environment, input, reply⟩
  have refused := resolve_misconfigured_iff invocation loaded built
    ⟨.named "cli", tokenOf input⟩
  rw [run_of_setUp isSetUp, obey_resolve environment supplied reply found,
    returns_misconfigured_iff, refused]
  constructor
  · intro overlooked
    exact ⟨settings, loaded, overlooked⟩
  · rintro ⟨other, otherLoaded, overlooked⟩
    rw [loaded, Except.ok.injEq] at otherLoaded
    rwa [otherLoaded]

end

/-- An environment whose bundle is the file of the database. -/
def sharedFile : Environment :=
  [("FEDERATION_VERIFY_URL", "https://verify.example.com"),
    ("FEDERATION_CA_BUNDLE_PATH", "users.db"),
    ("FEDERATION_DATABASE_URL", "sqlite+aiosqlite:///users.db")]

/-- The bundle is missing when the configuration is checked. -/
theorem check_sharedFile [Platform] (random : RandomSource) :
    (run ⟨["--check-config"], sharedFile, "", .response 200 []⟩ ⟨{}, random⟩).1.Returns statusOk :=
  (check_returns_ok_iff _ _ _ _).mpr
    ⟨rfl, ⟨"https://verify.example.com", some "users.db", Settings.defaultTimeout,
        some "sqlite+aiosqlite:///users.db"⟩,
      ⟨"https://verify.example.com", Settings.defaultTimeout, true⟩, rfl, rfl⟩

/-- The bundle is the database when a run looks at it. -/
theorem exists_overlooked_sharedFile [Platform] :
    ∃ settings, Settings.load sharedFile = .ok settings ∧ settings.Overlooked {} := by
  have leads : Client.LeadsTo {} "users.db" [Text.Utf8.encode "users.db"] :=
    ⟨⟨by decide, by decide, by decide +kernel⟩, rfl⟩
  exact ⟨_, rfl, .bundle ⟨"https://verify.example.com", Settings.defaultTimeout, true⟩ "users.db"
    [Text.Utf8.encode "users.db"] ⟨.database (some .empty), {}, some [Text.Utf8.encode "users.db"]⟩
    rfl rfl rfl rfl rfl leads⟩

section

open scoped Platform

theorem run_refuses_database_as_bundle :
    (run ⟨["--check-config"], sharedFile, "", .response 200 []⟩
        ⟨{}, .arithmetic 0⟩).1.Returns statusOk ∧
      tokenOf "tok" ≠ "" ∧
      (run ⟨[], sharedFile, "tok", .response 200 []⟩
        ⟨{}, .arithmetic 0⟩).1.Returns statusMisconfigured := by
  have passes := check_sharedFile (.arithmetic 0)
  have supplied : tokenOf "tok" ≠ "" := by decide +kernel
  have refused := run_misconfigured_iff_overlooked passes supplied (.response 200 [])
  exact ⟨passes, supplied, refused.mpr exists_overlooked_sharedFile⟩

/-- The check passes for a database whose driver cannot be used, and a run refuses it. -/
theorem check_passes_what_run_refuses :
    let environment : Environment :=
      [("FEDERATION_VERIFY_URL", "http://verify.example.com"),
        ("FEDERATION_DATABASE_URL", "nosuch://h")]
    let found : Surroundings := ⟨{}, .arithmetic 0⟩
    let reply : Reply := .response 200 []
    (run ⟨["--check-config"], environment, "", reply⟩ found).1.ending = .status statusOk "" ∧
      tokenOf "tok" ≠ "" ∧
      (run ⟨[], environment, "tok", reply⟩ found).1.ending = .status statusMisconfigured "" := by
  decide +kernel

end

end Operator

end FederatedLogin
