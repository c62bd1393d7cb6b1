import FederatedLogin.Platform.Standard
import FederatedLogin.Proofs.Session.Advance
import FederatedLogin.Proofs.Store.Twin

/-!
# The two kinds of store agree

The same steps, taken on the store in memory and on a database, give the same records as long as the
texts that they hand over to the store can be encoded.  Only two direct writes tell the stores apart
then, and only by the failure they are refused with.

Logins and reconciliations never do: they create a user only after a look-up found nobody under its
federation key, and change a user only as the look-up found it.
-/

namespace FederatedLogin

open FederatedLogin.Store FederatedLogin.Text

/-- An identity whose uid and name can be encoded. -/
structure Identity.IsEncodable (identity : Identity) : Prop where
  uid : identity.uid.isEncodable
  name : identity.username.isEncodable

namespace Identity.IsEncodable

variable {identity : Identity}

theorem takesUid (encodable : identity.IsEncodable) : Kind.database.takes identity.uid := by
  rw [Kind.takes_database]
  exact encodable.uid

theorem takesName (encodable : identity.IsEncodable) : Kind.database.takes identity.username := by
  rw [Kind.takes_database]
  exact encodable.name

end Identity.IsEncodable

/-! ## Logins on twins -/

namespace Backend.Twins

variable {memory database : Backend} {rows : List Row} {identity : Identity}

/-- A failure of twins is reported alike. -/
theorem failed {α : Type} {principal : Principal} {uid : CodeString} {failure : Failure}
    {events : List Event} (twins : memory.Twins database rows) :
    (Outcome.failed principal uid failure events memory : Outcome α).Twins
      (.failed principal uid failure events database) :=
  twins.outcomes _ _

theorem enroll (twins : memory.Twins database rows) (encodable : identity.IsEncodable)
    (principal : Principal) (keyFree : ¬ KeyTaken rows identity.uid) :
    (enroll identity principal memory).Twins (enroll identity principal database) := by
  have textsEncodable : (newUser identity database.random).1.isEncodable :=
    User.isEncodable_iff.mpr (refused?_newUser encodable.takesUid encodable.takesName _)
  have drawn := twins.drawn (newUser identity database.random).2
  have single : ¬ DoublyTaken rows (newUser identity database.random).1 :=
    fun taken => keyFree taken.1
  have created := drawn.create textsEncodable single
  obtain ⟨after, afterTwins⟩ := created.backends
  simp only [FederatedLogin.enroll, twins.random_eq]
  rw [created.result, created.events]
  cases (Backend.create _ (newUser identity database.random).1).result with
  | ok id => exact ⟨rfl, rfl, after, afterTwins⟩
  | error failure => exact afterTwins.failed

theorem rename (twins : memory.Twins database rows) {row : Row} (rowMem : row ∈ rows)
    (encodable : identity.IsEncodable) (principal : Principal) :
    (rename row.toUser identity principal memory).Twins
      (rename row.toUser identity principal database) := by
  have takesEmail := twins.onDatabase.inOrder.keeps.takes_email rowMem
  rw [twins.onDatabase.kind_eq] at takesEmail
  have textsEncodable := CodeString.unencodable?_eq_none_iff.mp
    (refused?_renamedUser takesEmail encodable.takesName database.random)
  have drawn := twins.drawn (renamedUser row.toUser identity.username database.random).2
  have known : Known rows (renamedUser row.toUser identity.username database.random).1 :=
    ⟨row, rowMem, Table.isAbout_rename_toUser row _ _⟩
  have updated := drawn.update_of_known textsEncodable known
  obtain ⟨after, afterTwins⟩ := updated.backends
  simp only [FederatedLogin.rename, twins.random_eq]
  rw [updated.result, updated.events]
  cases (Backend.update _ (renamedUser row.toUser identity.username database.random).1).result with
  | ok changed => exact ⟨rfl, rfl, after, afterTwins⟩
  | error failure => exact afterTwins.failed

/-- An identity is mapped onto the same user by both. -/
theorem reconcile (twins : memory.Twins database rows) (encodable : identity.IsEncodable)
    (principal : Principal) :
    (reconcile identity principal memory).Twins (reconcile identity principal database) := by
  have taken (kind : Kind) : kind.refused? [identity.uid] = none :=
    kind.refused?_of_isEncodable (by simp [encodable.uid])
  have memoryFound := twins.onMemory.inOrder.find_of_idle twins.onMemory.clear.onFind (taken _)
  have databaseFound :=
    twins.onDatabase.inOrder.find_of_idle twins.onDatabase.clear.onFind (taken _)
  simp only [FederatedLogin.reconcile, memoryFound, databaseFound]
  cases found : rows.find? (·.federationKey == identity.uid) with
  | none =>
      apply twins.enroll encodable principal
      rintro ⟨row, rowMem, sameKey⟩
      have differ := List.find?_eq_none.mp found row rowMem
      simp [sameKey] at differ
  | some row =>
      simp only [Option.map_some]
      by_cases sameName : row.toUser.username = identity.username
      · rw [if_pos sameName, if_pos sameName]
        exact twins.outcomes _ _
      · rw [if_neg sameName, if_neg sameName]
        exact twins.rename (List.mem_of_find?_eq_some found) encodable principal

variable [Platform]

/-- A login comes to the same on both, and asks the service the same. -/
theorem login (twins : memory.Twins database rows) (base : String) (credential : Credential)
    (reply : Verification.Reply)
    (encodable : ∀ identity, (Verification.verify base credential reply).result = .ok identity →
      identity.IsEncodable) :
    (login base credential reply memory).outcome.Twins
        (login base credential reply database).outcome ∧
      (login base credential reply memory).requests =
        (login base credential reply database).requests := by
  cases verified : (Verification.verify base credential reply).result with
  | error failure =>
      rw [login_of_error memory verified, login_of_error database verified]
      exact ⟨⟨rfl, rfl, rows, twins⟩, rfl⟩
  | ok identity =>
      have reconciled := twins.reconcile (encodable identity verified) credential.principal
      rw [login_of_ok memory verified, login_of_ok database verified]
      refine ⟨⟨reconciled.result, ?_, reconciled.backends⟩, rfl⟩
      simp only [reconciled.events]

end Backend.Twins

/-! ## Steps -/

namespace Session

/-- Whether a step can be taken on both kinds of store, with nothing in wait for either; the
identifier of a change has to fit its column. -/
def Step.Shared : Step → Prop
  | .size | .createSchema | .plant .. => False
  | .update user => Table.fitsColumn user.id
  | _ => True

/-- Whether the texts that a step hands over to a store can be encoded; a login hands over those of
the identity that it verifies. -/
def Step.IsEncodable [Platform] (base : String) : Step → Prop
  | .create user => user.isEncodable
  | .update user => ∀ text ∈ [user.federationKey, user.username, user.email], text.isEncodable
  | .find key => key.isEncodable
  | step => ∀ identity, step.identity? base = some identity → identity.IsEncodable

/-- Whether a step tells the kinds of store apart: the storing of a doubly taken user, and the
change of a misplaced one. -/
def Step.TellsApart (rows : List Row) : Step → Prop
  | .create user => DoublyTaken rows user
  | .update user => Misplaced rows user
  | _ => False

/-- The record of a direct write that is refused. -/
def Entry.refused (rows : List Row) (failure : Failure) : Entry where
  result := .error failure
  events := []
  requests := none
  rows := some rows

/-- The records of a step on the store in memory and on a database, both with some rows: the same,
or two refusals where the step tells them apart. -/
inductive EntriesAgree (rows : List Row) : Step → Entry → Entry → Prop where
  | same (step : Step) (entry : Entry) (alike : ¬ step.TellsApart rows) :
      EntriesAgree rows step entry entry
  | doublyTaken (user : User) (taken : DoublyTaken rows user) :
      EntriesAgree rows (.create user)
        (.refused rows (.duplicateKey "federation_key" user.federationKey))
        (.refused rows (.duplicateKey "email" user.email))
  | misplaced (user : User) (misplaced : Misplaced rows user) :
      EntriesAgree rows (.update user) (.refused rows (.storage .keyImmutable))
        (.refused rows (.storage (.noSuchUser user.id)))

/-- Transcripts that agree record by record, each from the rows that the record before it shows. -/
inductive TranscriptsAgree : List Row → List (Step × Entry) → List (Step × Entry) → Prop where
  | nil (rows : List Row) : TranscriptsAgree rows [] []
  | cons {rows after : List Row} {step : Step} {entry other : Entry}
      {rest others : List (Step × Entry)} (agree : EntriesAgree rows step entry other)
      (rows_eq : entry.rows = some after) (restAgree : TranscriptsAgree after rest others) :
      TranscriptsAgree rows ((step, entry) :: rest) ((step, other) :: others)

/-- Sessions on twin backends. -/
structure Twins (memory database : Session) (rows : List Row) : Prop where
  base_eq : memory.base = database.base
  backends : memory.backend.Twins database.backend rows

variable {memory database : Session} {rows : List Row}

/-- What twins do at a step: their records agree, and they stay twins. -/
structure StepAgrees (rows : List Row) (step : Step) (memory database : Session × Entry) : Prop where
  entries : EntriesAgree rows step memory.2 database.2
  sessions : ∃ after, memory.2.rows = some after ∧ memory.1.Twins database.1 after

/-- A step whose outcomes are twins has one record. -/
theorem StepAgrees.of_outcomes {α : Type} {outcome other : Outcome α} (step : Step)
    (twins : memory.Twins database rows) (outcomes : outcome.Twins other)
    (alike : ¬ step.TellsApart rows) (answer : α → Answer)
    (requests : Option (List Verification.Request)) :
    StepAgrees rows step (memory.after outcome answer requests)
      (database.after other answer requests) := by
  obtain ⟨after, backends⟩ := outcomes.backends
  have memoryRows := backends.onMemory.inOrder.keeps.rows_eq
  have databaseRows := backends.onDatabase.inOrder.keeps.rows_eq
  constructor
  · simp only [Session.after, outcomes.result, outcomes.events, memoryRows, databaseRows]
    exact .same step _ alike
  · exact ⟨after, memoryRows, twins.base_eq, backends⟩

/-- Two refusals leave twins as they were. -/
theorem refused_entry {α : Type} {session : Session} {failure : Failure} {answer : α → Answer}
    (inOrder : session.backend.InOrder rows) :
    session.after ⟨.error failure, [], session.backend⟩ answer none =
      (session, .refused rows failure) := by
  simp only [Session.after, inOrder.keeps.rows_eq]
  rfl

section

variable [Platform]

theorem step_agrees (twins : memory.Twins database rows) {step : Step} (shared : step.Shared)
    (encodable : step.IsEncodable database.base) :
    StepAgrees rows step (memory.step step) (database.step step) := by
  have base_eq := twins.base_eq
  have backends := twins.backends
  have inMemory := backends.onMemory.inOrder
  have inDatabase := backends.onDatabase.inOrder
  cases step with
  | login credential reply =>
      have named : ∀ identity, (Verification.verify database.base credential reply).result =
          .ok identity → identity.IsEncodable := by
        intro identity verified
        apply encodable identity
        simp only [Step.identity?, verified, Except.toOption]
      obtain ⟨outcomes, requests_eq⟩ := backends.login database.base credential reply named
      simp only [Session.step, base_eq, requests_eq]
      exact .of_outcomes (.login credential reply) twins outcomes id .user _
  | verify credential reply =>
      simp only [Session.step, base_eq]
      exact .of_outcomes (.verify credential reply) twins (backends.outcomes _ _) id .identity _
  | reconcile identity principal =>
      exact .of_outcomes (.reconcile identity principal) twins
        (backends.reconcile (encodable identity rfl) principal) id .user none
  | create user =>
      by_cases taken : DoublyTaken rows user
      · obtain ⟨memoryRefused, databaseRefused⟩ := backends.create_of_doublyTaken encodable taken
        simp only [Session.step, memoryRefused, databaseRefused, refused_entry inMemory,
          refused_entry inDatabase]
        exact ⟨.doublyTaken user taken, rows, rfl, twins⟩
      · exact .of_outcomes (.create user) twins (backends.create encodable taken) taken .created none
  | update user =>
      have changeable : user.IsChangeable := .of_texts shared encodable
      by_cases known : Known rows user
      · have alike : ¬ Misplaced rows user := fun misplaced =>
          misplaced.not_known inMemory.keeps.orderly known
        exact .of_outcomes (.update user) twins
          (backends.update_of_known changeable.texts known) alike _ none
      · by_cases misplaced : Misplaced rows user
        · obtain ⟨memoryRefused, databaseRefused⟩ :=
            backends.update_of_misplaced changeable misplaced
          simp only [Session.step, memoryRefused, databaseRefused, refused_entry inMemory,
            refused_entry inDatabase]
          exact ⟨.misplaced user misplaced, rows, rfl, twins⟩
        · exact .of_outcomes (.update user) twins
            (backends.update_of_unknown changeable known misplaced) misplaced _ none
  | find key => exact .of_outcomes (.find key) twins (backends.find encodable) id .found none
  | size => cases shared
  | createSchema => cases shared
  | plant operation ambush => cases shared

/-! ## Runs -/

theorem run_agrees (twins : memory.Twins database rows) {steps : List Step}
    (shared : ∀ step ∈ steps, step.Shared)
    (encodable : ∀ step ∈ steps, step.IsEncodable database.base) :
    TranscriptsAgree rows (memory.transcript steps) (database.transcript steps) := by
  induction steps generalizing memory database rows with
  | nil => exact .nil rows
  | cons first rest ih =>
      obtain ⟨entries, after, rows_eq, nextTwins⟩ :=
        step_agrees twins (shared first List.mem_cons_self) (encodable first List.mem_cons_self)
      rw [transcript_cons, transcript_cons]
      apply TranscriptsAgree.cons entries rows_eq
      apply ih nextTwins fun step stepMem => shared step (List.mem_cons_of_mem _ stepMem)
      rw [step_base]
      exact fun step stepMem => encodable step (List.mem_cons_of_mem _ stepMem)

omit [Platform] in
theorem TranscriptsAgree.eq_of_login {credential : Credential} {reply : Verification.Reply}
    {entry other : Entry} {rest others : List (Step × Entry)}
    (agree : TranscriptsAgree rows ((.login credential reply, entry) :: rest)
      ((.login credential reply, other) :: others)) : entry = other := by
  cases agree with
  | cons entries _ _ =>
      cases entries
      rfl

omit [Platform] in
/-- Records that agree are the same for every step that is not a direct write. -/
theorem TranscriptsAgree.forall₂_eq {transcript other : List (Step × Entry)}
    (agree : TranscriptsAgree rows transcript other) :
    List.Forall₂ (fun record another =>
      (∃ user, record.1 = .create user ∨ record.1 = .update user) ∨ record = another)
      transcript other := by
  induction agree with
  | nil rows => exact .nil
  | cons entries rows_eq restAgree ih =>
      apply List.Forall₂.cons _ ih
      cases entries with
      | same step entry alike => exact .inr rfl
      | doublyTaken user taken => exact .inl ⟨user, .inl rfl⟩
      | misplaced user misplaced => exact .inl ⟨user, .inr rfl⟩

omit [Platform] in
/-- The session of a kind of store at its start is a twin of the other. -/
theorem start_twins (base : String) (random : RandomSource) :
    (start base Kind.memory.empty random).Twins (start base Kind.database.empty random) [] :=
  ⟨rfl, ⟨start_inOrder base .memory random, ⟨rfl, rfl, rfl⟩, rfl⟩,
    ⟨start_inOrder base .database random, ⟨rfl, rfl, rfl⟩, rfl⟩, rfl⟩

/-- Over any steps that both kinds of store can take with nothing in wait, and whose texts can be
encoded, the records on the store in memory and on a database agree: they are the same but for the
refusals of doubly taken and of misplaced users, so in particular for every login and every
reconciliation. -/
theorem kinds_of_store_agree (base : String) (random : RandomSource) {steps : List Step}
    (shared : ∀ step ∈ steps, step.Shared) (encodable : ∀ step ∈ steps, step.IsEncodable base) :
    let inMemory := (start base Kind.memory.empty random).transcript steps
    let inDatabase := (start base Kind.database.empty random).transcript steps
    TranscriptsAgree [] inMemory inDatabase ∧
      List.Forall₂ (fun record another =>
        (∃ user, record.1 = .create user ∨ record.1 = .update user) ∨ record = another)
        inMemory inDatabase := by
  intro inMemory inDatabase
  have agree := run_agrees (start_twins base random) shared encodable
  exact ⟨agree, agree.forall₂_eq⟩

end

section

open scoped Platform

/-- A doubly taken user, whose e-mail reads like the name of a column, and a misplaced one between
two reconciliations. -/
theorem refusals_between_logins_agree :
    let steps : List Step := [
      .reconcile { uid := "u", username := "n" } .unnamed,
      .create { federationKey := "v", username := "m", email := "federated_users.email" },
      .create { federationKey := "u", username := "o", email := "federated_users.email" },
      .update { federationKey := "v", username := "o", id := some 1 },
      .reconcile { uid := "v", username := "o" } .unnamed]
    let session (kind : Kind) := start "http://verify.example.com" kind.empty
      (RandomSource.arithmetic 0)
    (∀ step ∈ steps, step.Shared) ∧
      (∀ step ∈ steps, step.IsEncodable "http://verify.example.com") ∧
      TranscriptsAgree [] ((session .memory).transcript steps)
        ((session .database).transcript steps) ∧
      ((session .memory).run steps).2[2]?.map Entry.result =
        some (.error (.duplicateKey "federation_key" "u")) ∧
      ((session .database).run steps).2[2]?.map Entry.result =
        some (.error (.duplicateKey "email" "federated_users.email")) := by
  intro steps session
  have shared : ∀ step ∈ steps, step.Shared := by
    simp [steps, Step.Shared, Table.fitsColumn]
  have encodable : ∀ step ∈ steps, step.IsEncodable "http://verify.example.com" := by
    simp only [steps, List.forall_mem_cons]
    refine ⟨?_, ?_, ?_, ?_, ?_, by simp⟩
    · rintro identity ⟨⟩
      exact ⟨CodeString.isEncodable_ofText _, CodeString.isEncodable_ofText _⟩
    · exact User.isEncodable_iff.mpr (by decide +kernel)
    · exact User.isEncodable_iff.mpr (by decide +kernel)
    · simp [Step.IsEncodable]
    · rintro identity ⟨⟩
      exact ⟨CodeString.isEncodable_ofText _, CodeString.isEncodable_ofText _⟩
  exact ⟨shared, encodable, (kinds_of_store_agree _ _ shared encodable).1, by decide +kernel,
    by decide +kernel⟩

/-- A login under a name that is a lone surrogate succeeds in memory and fails on a database. -/
theorem surrogate_name_tells_kinds_apart :
    let user := "\x7b\"uid\": \"u\", \"username\": \"\\ud800\"\x7d"
    let status := "\x7b\"authenticated\": true, \"user\": " ++ user ++ "\x7d"
    let body := Text.Utf8.encode ("\x7b\"status\": " ++ status ++ "\x7d")
    let login : Step := .login ⟨.named "p", "t"⟩ (.response 200 body)
    let session (kind : Kind) := start "http://verify.example.com" kind.empty
      (RandomSource.arithmetic 0)
    login.Shared ∧
      ((session .memory).step login).2.result.toOption.isSome ∧
      ((session .database).step login).2.result =
        .error (refusal [.surrogate 0]) ∧
      ¬ TranscriptsAgree [] ((session .memory).transcript [login])
        ((session .database).transcript [login]) := by
  intro user status body login session
  have inMemory : ((session .memory).step login).2.result.toOption.isSome := by decide +kernel
  have inDatabase : ((session .database).step login).2.result =
      .error (refusal [.surrogate 0]) := by
    decide +kernel
  refine ⟨trivial, inMemory, inDatabase, ?_⟩
  intro agree
  rw [transcript_cons, transcript_cons] at agree
  rw [agree.eq_of_login, inDatabase] at inMemory
  cases inMemory

end

end Session

end FederatedLogin
