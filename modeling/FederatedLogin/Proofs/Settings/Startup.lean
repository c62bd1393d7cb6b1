import FederatedLogin.Platform.Standard
import FederatedLogin.Settings.Basic
import Mathlib.Data.List.Basic

/-!
# How a startup fails

The settings and the connection to a database either are there or fail with a configuration failure,
except where a number or a word inside the address of the database is not what it has to be.  What
is then raised comes from below and is passed on as it is.
-/

namespace FederatedLogin

open FederatedLogin.Text FederatedLogin.Number

/-- A startup that succeeds, or fails in the documented way. -/
def IsDocumented {α : Type} (result : Except Failure α) : Prop :=
  (∃ value, result = .ok value) ∨ ∃ fault, result = .error (.configuration fault)

section

variable {α : Type} {value : α}

@[simp]
theorem isDocumented_ok : IsDocumented (.ok value : Except Failure α) :=
  .inl ⟨value, rfl⟩

theorem isDocumented_error_iff {failure : Failure} :
    IsDocumented (.error failure : Except Failure α) ↔ ∃ fault, failure = .configuration fault := by
  simp [IsDocumented]

theorem isDocumented_map_iff {β : Type} {result : Except Failure α} {make : α → β} :
    IsDocumented (result.map make) ↔ IsDocumented result := by
  cases result with
  | ok value => simp [Except.map]
  | error failure => simp [Except.map, isDocumented_error_iff]

@[simp]
theorem isDocumented_configuration {fault : ConfigurationFault} :
    IsDocumented (.error (.configuration fault) : Except Failure α) :=
  isDocumented_error_iff.mpr ⟨fault, rfl⟩

@[simp]
theorem not_isDocumented_outside {trouble : Trouble} :
    ¬IsDocumented (.error (.outside trouble) : Except Failure α) := by
  simp [isDocumented_error_iff]

end

/-! ## Ports -/

namespace DatabaseUrl

/-- The port that a text writes after its host, if it writes one. -/
def writtenPort? (source : String) : Option (List Char) :=
  (splitDriver? source.toList).bind fun (_, rest) =>
    (splitPort (splitHost (splitUser rest).2.2).2).1

/-- A text with a port that is no integer. -/
def HasMalformedPort (source : String) : Prop :=
  ∃ port, writtenPort? source = some port ∧ Written.integer? (String.ofList port) = none

/-- A port that is no integer is the one problem that is not about recognising an address. -/
theorem ofText_eq_malformedPort_iff {source : String} :
    ofText source = .error .malformedPort ↔ HasMalformedPort source := by
  rw [ofText, HasMalformedPort, writtenPort?]
  cases splitDriver? source.toList with
  | none => simp
  | some parts =>
      simp only [Option.bind_some]
      cases (splitPort (splitHost (splitUser parts.2).2.2).2).1 with
      | none => simp [portOf, bind, Except.bind, pure, Except.pure]
      | some written =>
          cases read : Written.integer? (String.ofList written) with
          | none => simp [portOf, read, bind, Except.bind]
          | some port => simp [portOf, read, bind, Except.bind, pure, Except.pure]

end DatabaseUrl

/-! ## Parameters -/

namespace Connection

variable {query : Query} {name : String} {url : DatabaseUrl}

/-- A parameter with one value that is no word for a truth value. -/
def MisstatesTruth (query : Query) (name : String) : Prop :=
  ∃ word, query.get? name = some (.single word) ∧
    truthWords.lookup (String.ofList ((strip word).toList.map Char.toLower)) = none

/-- A parameter with several values, or with one that is no number. -/
def MisstatesNumber {α : Type} (read : String → Option α) (query : Query) (name : String) : Prop :=
  (∃ values, query.get? name = some (.several values)) ∨
    ∃ written, query.get? name = some (.single written) ∧ read written = none

/-- What the address of a file can say that the connection does not understand. -/
inductive Misconnects (url : DatabaseUrl) : Prop where
  | uri (misstated : MisstatesTruth url.query "uri")
  | timeout (misstated : MisstatesNumber Written.real? url.query "timeout")
  | detection (misstated : MisstatesNumber Written.integer? url.query "detect_types")
  | sameThread (misstated : MisstatesTruth url.query "check_same_thread")
  | cachedStatements (misstated : MisstatesNumber Written.integer? url.query "cached_statements")
  /-- There are options of a URI, and no name that they could stand behind. -/
  | unnamed (isUri : truth? url.query "uri" = .ok (some true)) (noName : url.database = none)
      (options : optionsIn url.query ≠ [])

/-- A computation that succeeds unless there is a cause, and then fails in no documented way. -/
inductive OkUnless {α : Type} (cause : Prop) : Except Failure α → Prop where
  | ok (value : α) (noCause : ¬cause) : OkUnless cause (.ok value)
  | outside (trouble : Trouble) (because : cause) : OkUnless cause (.error (.outside trouble))

namespace OkUnless

variable {α β : Type} {cause later : Prop} {first : Except Failure α}

theorem iff (settled : OkUnless cause first) (same : cause ↔ later) : OkUnless later first := by
  rwa [← same]

theorem bind {next : α → Except Failure β} (settled : OkUnless cause first)
    (settledLater : ∀ value, first = .ok value → OkUnless later (next value)) :
    OkUnless (cause ∨ later) (first >>= next) := by
  cases settled with
  | ok value noCause => exact (settledLater value rfl).iff (or_iff_right noCause).symm
  | outside trouble because => exact .outside trouble (.inl because)

/-- What cannot fail adds no cause. -/
theorem map (settled : OkUnless cause first) (make : α → β) :
    OkUnless cause (first >>= fun value => pure (make value)) :=
  (settled.bind fun value _ => .ok (make value) not_false).iff (iff_of_eq (or_false cause))

end OkUnless

theorem okUnless_malformed {α : Type} (read : Option α) :
    OkUnless (read = none) (malformed read) := by
  cases read with
  | none => exact .outside _ rfl
  | some value => exact .ok value (Option.some_ne_none value)

theorem okUnless_truth? (query : Query) (name : String) :
    OkUnless (MisstatesTruth query name) (truth? query name) := by
  rw [truth?]
  cases found : query.get? name with
  | none => exact .ok none (by simp [MisstatesTruth, found])
  | some parameter =>
      cases parameter with
      | several values => exact .ok (some true) (by simp [MisstatesTruth, found])
      | single word =>
          refine ((okUnless_malformed _).map some).iff ?_
          simp [MisstatesTruth, found]

theorem okUnless_number? {α : Type} (read : String → Option α) (query : Query) (name : String) :
    OkUnless (MisstatesNumber read query name) (number? read query name) := by
  rw [number?]
  cases found : query.get? name with
  | none => exact .ok none (by simp [MisstatesNumber, found])
  | some parameter =>
      cases parameter with
      | several values => exact .outside _ (.inl ⟨values, found⟩)
      | single written =>
          refine ((okUnless_malformed _).map some).iff ?_
          simp [MisstatesNumber, found]

theorem okUnless_uriName (url : DatabaseUrl) :
    OkUnless (url.database = none ∧ optionsIn url.query ≠ []) (uriName url) := by
  rw [uriName]
  cases url.database with
  | some name => exact .ok _ (by simp)
  | none =>
      cases optionsIn url.query with
      | nil => exact .ok _ (by simp)
      | cons first rest => exact .outside _ ⟨rfl, List.cons_ne_nil first rest⟩

/-- The address of a file is read, unless the connection does not understand it. -/
theorem okUnless_ofFileUrl (url : DatabaseUrl) : OkUnless (Misconnects url) (ofFileUrl url) := by
  have named (isUri : Option Bool) (isRead : truth? url.query "uri" = .ok isUri)
      (make : String → Connection) :
      OkUnless (truth? url.query "uri" = .ok (some true) ∧ url.database = none ∧
          optionsIn url.query ≠ [])
        (if isUri.getD false then do return make (← uriName url)
          else do return make (← .ok (pathName url))) := by
    rw [isRead]
    match isUri with
    | none => exact .ok _ (by simp)
    | some false => exact .ok _ (by simp)
    | some true => exact ((okUnless_uriName url).map make).iff (by simp)
  rw [ofFileUrl]
  refine ((okUnless_truth? url.query "uri").bind fun isUri isRead =>
    (okUnless_number? Written.real? url.query "timeout").bind fun _ _ =>
    (okUnless_number? Written.integer? url.query "detect_types").bind fun _ _ =>
    (okUnless_truth? url.query "check_same_thread").bind fun _ _ =>
    (okUnless_number? Written.integer? url.query "cached_statements").bind fun _ _ =>
    named isUri isRead _).iff ?_
  constructor
  · rintro (uri | timeout | detection | sameThread | cached | ⟨isUri, noName, options⟩)
    · exact .uri uri
    · exact .timeout timeout
    · exact .detection detection
    · exact .sameThread sameThread
    · exact .cachedStatements cached
    · exact .unnamed isUri noName options
  · intro misconnects
    cases misconnects with
    | uri misstated => exact .inl misstated
    | timeout misstated => exact .inr (.inl misstated)
    | detection misstated => exact .inr (.inr (.inl misstated))
    | sameThread misstated => exact .inr (.inr (.inr (.inl misstated)))
    | cachedStatements misstated => exact .inr (.inr (.inr (.inr (.inl misstated))))
    | unnamed isUri noName options =>
        exact .inr (.inr (.inr (.inr (.inr ⟨isUri, noName, options⟩))))

variable [Platform]

theorem isDocumented_searchFailure_iff {driver : List Char} :
    IsDocumented (.error (searchFailure driver) : Except Failure Connection) ↔
      Platform.driverTrouble? driver = none := by
  rw [searchFailure]
  cases Platform.driverTrouble? driver <;> simp

/-- An address that asks for something that is neither connected to nor refused as unusable: a
driver whose name says too much, one that is not known and whose search is left by something else,
or a file with parameters that the connection does not understand.  An address that asks for an
addition is refused before. -/
def Escapes (url : DatabaseUrl) : Prop :=
  url.query.get? "plugin" = none ∧
    (1 < url.driver.count '+' ∨
      url.driver ∉ usableDriver :: relatedDrivers ∧
        (Platform.driverTrouble? url.driver).isSome ∨
      url.driver ∈ usableDriver :: relatedDrivers ∧ isRemote url = false ∧ Misconnects url)

theorem not_isDocumented_ofUrl_iff (url : DatabaseUrl) :
    ¬IsDocumented (ofUrl url) ↔ Escapes url := by
  rw [ofUrl, Escapes]
  cases url.query.get? "plugin" with
  | some plugin => simp
  | none =>
      by_cases crowded : 1 < url.driver.count '+'
      · simp [crowded]
      · by_cases known : url.driver ∈ usableDriver :: relatedDrivers
        · have contained : (usableDriver :: relatedDrivers).contains url.driver = true :=
            List.contains_iff_mem.mpr known
          cases remote : isRemote url with
          | true => simp [crowded, known]
          | false =>
              have settled := okUnless_ofFileUrl url
              simp only [contained, known, crowded]
              generalize ofFileUrl url = connection at settled
              cases settled with
              | ok connection noCause =>
                  by_cases usable : url.driver = usableDriver
                  · simp [usable, noCause, bind, Except.bind, pure, Except.pure]
                  · simp [usable, noCause, bind, Except.bind]
              | outside trouble because => simp [because, bind, Except.bind]
        · have absent : (usableDriver :: relatedDrivers).contains url.driver = false := by
            rw [← Bool.not_eq_true, List.contains_iff_mem]
            exact known
          simp only [absent, known, crowded, Bool.not_false, if_true]
          simp [isDocumented_searchFailure_iff, Option.isSome_iff_ne_none]

end Connection

/-! ## Settings -/

namespace Settings

theorem isDocumented_verifyUrl? (environment : Environment) :
    IsDocumented (verifyUrl? environment) := by
  rw [verifyUrl?]
  cases environment.stripped? "FEDERATION_VERIFY_URL" with
  | none => exact isDocumented_configuration
  | some url => exact isDocumented_ok

theorem isDocumented_timeout? (environment : Environment) :
    IsDocumented (timeout? environment) := by
  rw [timeout?]
  cases environment.get? "FEDERATION_HTTP_TIMEOUT_SECONDS" with
  | none => exact isDocumented_ok
  | some written =>
      simp only
      split
      · exact isDocumented_ok
      · rw [timeoutOf]
        cases Number.Written.real? written with
        | none => exact isDocumented_configuration
        | some seconds =>
            simp only
            split
            · exact isDocumented_configuration
            · exact isDocumented_ok

/-- The failure of a problem with an address is documented unless the problem is its port. -/
theorem not_isDocumented_databaseFailure_iff {α : Type} {fault : ConfigurationFault}
    {problem : DatabaseUrl.Problem} :
    ¬IsDocumented (.error (databaseFailure fault problem) : Except Failure α) ↔
      problem = .malformedPort := by
  cases problem with
  | unrecognised => simp [databaseFailure]
  | malformedPort => simp [databaseFailure]

theorem not_isDocumented_databaseUrl?_iff (environment : Environment) :
    ¬IsDocumented (databaseUrl? environment) ↔
      ∃ written, environment.stripped? "FEDERATION_DATABASE_URL" = some written ∧
        DatabaseUrl.HasMalformedPort written := by
  rw [databaseUrl?]
  cases environment.stripped? "FEDERATION_DATABASE_URL" with
  | none => simp
  | some written =>
      simp only [Option.some.injEq, exists_eq_left']
      rw [← DatabaseUrl.ofText_eq_malformedPort_iff]
      cases DatabaseUrl.ofText written with
      | ok url => simp
      | error problem => simp [not_isDocumented_databaseFailure_iff]

/-- Settings are loaded exactly if each of them is what its reader gives. -/
theorem load_eq_ok_iff {environment : Environment} {settings : Settings} :
    load environment = .ok settings ↔
      verifyUrl? environment = .ok settings.verifyUrl ∧
        timeout? environment = .ok settings.timeout ∧
        databaseUrl? environment = .ok settings.databaseUrl ∧
        bundlePath? environment = settings.bundlePath := by
  obtain ⟨url, bundle, seconds, database⟩ := settings
  rw [load]
  cases verifyUrl? environment with
  | error failure => simp [bind, Except.bind]
  | ok isUrl =>
      cases timeout? environment with
      | error failure => simp [bind, Except.bind]
      | ok isTimeout =>
          cases databaseUrl? environment with
          | error failure => simp [bind, Except.bind]
          | ok isDatabase =>
              constructor
              · intro loaded
                cases loaded
                exact ⟨rfl, rfl, rfl, rfl⟩
              · rintro ⟨sameUrl, sameTimeout, sameDatabase, rfl⟩
                cases sameUrl
                cases sameTimeout
                cases sameDatabase
                rfl

section

variable [Platform]

/-- The settings of an environment are loaded, or fail to in the documented way, unless the address
of the service and the timeout are in order and the address of the database has a port that is no
integer; likewise a connection is made, or refused in the documented way, unless the address has
such a port or asks for something that escapes. -/
theorem startup_undocumented_iff (environment : Environment) (written : String) :
    (¬IsDocumented (load environment) ↔
      (∃ url, verifyUrl? environment = .ok url) ∧ (∃ seconds, timeout? environment = .ok seconds) ∧
        ∃ url, environment.stripped? "FEDERATION_DATABASE_URL" = some url ∧
          DatabaseUrl.HasMalformedPort url) ∧
    (¬IsDocumented (connection written) ↔
      DatabaseUrl.HasMalformedPort written ∨
        ∃ url, DatabaseUrl.ofText written = .ok url ∧ Connection.Escapes url) := by
  constructor
  · rw [← not_isDocumented_databaseUrl?_iff, load]
    rcases isDocumented_verifyUrl? environment with ⟨url, isUrl⟩ | ⟨fault, refused⟩
    · rcases isDocumented_timeout? environment with ⟨seconds, isTimeout⟩ | ⟨fault, refused⟩
      · rw [isUrl, isTimeout]
        cases databaseUrl? environment with
        | ok url => simp [bind, Except.bind, pure, Except.pure]
        | error failure => simp [isDocumented_error_iff, bind, Except.bind]
      · simp [isUrl, refused, bind, Except.bind]
    · simp [refused, bind, Except.bind]
  · rw [connection, ← DatabaseUrl.ofText_eq_malformedPort_iff]
    cases DatabaseUrl.ofText written with
    | ok url => simp [Connection.not_isDocumented_ofUrl_iff]
    | error problem => simp [not_isDocumented_databaseFailure_iff]


end

section

open scoped Platform

/-- A port in letters makes the settings and the connection fail with what was raised below. -/
theorem startup_undocumented_of_port_in_letters :
    ¬IsDocumented (load [("FEDERATION_VERIFY_URL", "http://v"),
        ("FEDERATION_DATABASE_URL", "x://h:abc")]) ∧
      ¬IsDocumented (connection "x://h:abc") := by
  have isUrl : verifyUrl? [("FEDERATION_VERIFY_URL", "http://v"),
      ("FEDERATION_DATABASE_URL", "x://h:abc")] = .ok "http://v" := by
    decide +kernel
  have isTimeout : timeout? [("FEDERATION_VERIFY_URL", "http://v"),
      ("FEDERATION_DATABASE_URL", "x://h:abc")] = .ok defaultTimeout := rfl
  have noDatabase : databaseUrl? [("FEDERATION_VERIFY_URL", "http://v"),
      ("FEDERATION_DATABASE_URL", "x://h:abc")] = .error (.outside .malformedValue) := by
    decide +kernel
  have noConnection : connection "x://h:abc" = .error (.outside .malformedValue) := by
    decide +kernel
  constructor
  · rw [load, isUrl, isTimeout, noDatabase]
    exact not_isDocumented_outside
  · rw [noConnection]
    exact not_isDocumented_outside

end

end Settings

end FederatedLogin
