import FederatedLogin.Proofs.Database.Site
import FederatedLogin.Proofs.Database.Url
import FederatedLogin.Proofs.Login.OnTable
import FederatedLogin.Proofs.Operator.Check
import FederatedLogin.Proofs.Settings.Startup
import FederatedLogin.Proofs.Verification.Origin

/-!
# A run on a database in a file

Where an environment names a database in a file, and no bundle, a run opens the table that the file
holds, logs in on it, and puts the table back.  Nothing of this can be refused once the check of the
configuration has passed.
-/

namespace FederatedLogin

open FederatedLogin.Text FederatedLogin.Verification

/-- An environment that names a database in a file, and no bundle. -/
structure Environment.NamesFile (environment : Environment) (path : String) : Prop where
  isUrl : Settings.databaseUrl? environment = .ok (some (DatabaseUrl.fileMarker ++ path))
  noQuery : '?' ∉ path.toList
  nonempty : Percent.decode path.toList ≠ ""
  onDisk : Percent.decode path.toList ≠ Connection.memoryName
  noZero : '\x00' ∉ (Percent.decode path.toList).toList
  noBundle : Settings.bundlePath? environment = none

/-- An environment that names a service with this base address in its normal form. -/
structure Environment.NamesService (environment : Environment) (base : String) : Prop where
  exists_written : ∃ written, Settings.verifyUrl? environment = .ok written ∧
    Address.serviceUrl written = .ok base
  isAddress : (Address.ofText? (Address.authenticateUrl base)).isSome

/-- The place of the file that a path in an address names. -/
def DatabaseUrl.placeOf (files : Files) (path : String) : FilePath :=
  files.placeOf (Utf8.encode (Percent.decode path.toList))

variable {environment : Environment} {settings : Settings} {base path : String}

/-- Where the address to post to is one, tokens are posted to it, and it names a host. -/
theorem Environment.NamesService.exists_target (service : environment.NamesService base) :
    ∃ address, target? base = .ok address ∧ address.isAbsolute := by
  obtain ⟨written, _, admitted⟩ := service.exists_written
  obtain ⟨first, isFirst⟩ := Address.exists_base_of_serviceUrl admitted
  obtain ⟨target, isTarget⟩ := Option.isSome_iff_exists.mp service.isAddress
  have same := eq_again_of_ofText? admitted isFirst isTarget
  subst same
  exact ⟨_, target?_of_endpoint admitted isFirst isTarget,
    (Address.isNormal_of_serviceUrl admitted isFirst).endpoint.isAbsolute_again⟩

namespace Operator

open OpenDatabase

variable [Platform] {files : Files} {table : Store.Table}

/-- The store of an environment that names a file opens at a site, with the table that is stored
there. -/
theorem exists_openStore (file : environment.NamesFile path)
    (loaded : Settings.load environment = .ok settings)
    (site : Site files (DatabaseUrl.placeOf files path))
    (stores : Stores files (DatabaseUrl.placeOf files path) table) :
    ∃ left, openStore files settings =
        (left, .ok ⟨.database (some table), {}, some (DatabaseUrl.placeOf files path)⟩) ∧
      Holding files left (DatabaseUrl.placeOf files path) := by
  obtain ⟨_, _, isDatabase, _⟩ := Settings.load_eq_ok_iff.mp loaded
  have isUrl : settings.databaseUrl = some (DatabaseUrl.fileMarker ++ path) :=
    (Except.ok.inj (file.isUrl.symm.trans isDatabase)).symm
  obtain ⟨left, connected, holding, _⟩ := Site.exists_connect site stores file.onDisk file.noZero
  refine ⟨left, ?_, holding⟩
  simp only [openStore, isUrl, Settings.connection_file file.noQuery file.nonempty, connected]
  rfl

/-- What a run under an environment comes to have at hand, whatever the files are like. -/
structure Prepared (environment : Environment) (path base : String) (settings : Settings)
    (client : Client) : Prop where
  file : environment.NamesFile path
  service : environment.NamesService base
  isSetUp : setUpLog environment = .ok ()
  loaded : Settings.load environment = .ok settings
  built : ∀ files, (Client.build files settings.verifyUrl settings.bundlePath
    settings.timeout).result = .ok client
  isBase : client.url = base

/-- Once the check has passed, everything is prepared. -/
theorem exists_prepared {found : Surroundings} {input : String} {reply : Reply}
    (passes : (run ⟨["--check-config"], environment, input, reply⟩ found).1.Returns statusOk)
    (file : environment.NamesFile path) (service : environment.NamesService base) :
    ∃ settings client, Prepared environment path base settings client := by
  obtain ⟨isSetUp, settings, client, loaded, built⟩ :=
    (check_returns_ok_iff environment input reply found).mp passes
  obtain ⟨isUrl, _, _, noBundle⟩ := Settings.load_eq_ok_iff.mp loaded
  refine ⟨settings, client, file, service, isSetUp, loaded, ?_, ?_⟩
  · intro files
    have trusted : (Client.trust files settings.bundlePath).result = .ok () := by
      rw [← noBundle, file.noBundle]
      rfl
    rw [Client.build_of_build built files, trusted]
    split <;> rfl
  · obtain ⟨written, isWritten, admitted⟩ := service.exists_written
    have sameUrl : settings.verifyUrl = written := Except.ok.inj (isUrl.symm.trans isWritten)
    have resolved := Client.serviceUrl_of_build built
    rw [sameUrl, admitted] at resolved
    exact (Except.ok.inj resolved).symm

variable {client : Client} {found : Surroundings}

/-- A resolution on the table of a site is a login on that table, which is put back. -/
theorem exists_resolve (prepared : Prepared environment path base settings client)
    (site : Site found.files (DatabaseUrl.placeOf found.files path))
    (stores : Stores found.files (DatabaseUrl.placeOf found.files path) table)
    (invocation : Invocation) (under : invocation.environment = environment)
    (credential : Credential) :
    let made := login base credential invocation.reply (.onTable table found.random)
    let progress := resolve invocation credential found
    progress.result = made.outcome.result ∧ progress.requests = made.requests ∧
      progress.left.random = made.outcome.backend.random ∧
      ∃ left, Holding found.files left (DatabaseUrl.placeOf found.files path) ∧
        progress.left.files = keepStore left (some (DatabaseUrl.placeOf found.files path))
          made.outcome.backend.store := by
  intro made progress
  obtain ⟨left, opened, holding⟩ := exists_openStore prepared.file prepared.loaded site stores
  have built := prepared.built left
  have onTable : ({ store := .database (some table), random := found.random } : Backend) =
      .onTable table found.random := rfl
  simp only [progress, resolve, under, prepared.loaded, opened, resolveOn, built, prepared.isBase,
    onTable, made, true_and]
  exact ⟨left, holding, rfl⟩

end Operator

end FederatedLogin
