import FederatedLogin.Platform.Standard
import FederatedLogin.Proofs.Login.Report
import FederatedLogin.Proofs.Session.Atomicity
import FederatedLogin.Proofs.Store.Twin

/-!
# Late first logins

Two callers may look up the same uid before either of them has stored it.  The later one then tries
to store a user that is already there.  It is refused, and nothing changes.

What it is told depends on the store.  The store in memory names the federation key.  A database
names the e-mail where that is taken as well, and it is whenever both callers assert one name; only
a caller with another name learns that it was late, unless that name cannot be encoded.
-/

namespace FederatedLogin

open FederatedLogin.Store FederatedLogin.Text

variable {rows : List Row} {user : User}

instance (rows : List Row) (email : CodeString) : Decidable (EmailTaken rows email) :=
  inferInstanceAs (Decidable (∃ row ∈ rows, row.email = email))

/-- What a new user is refused for whose federation key is taken: in memory for that, and elsewhere
for its e-mail if that is taken as well. -/
def Store.takenFailure (kind : Kind) (rows : List Row) (user : User) : Failure :=
  if kind = .memory ∨ ¬ EmailTaken rows user.email then
    .duplicateKey "federation_key" user.federationKey
  else
    .duplicateKey "email" user.email

theorem Store.isStorage_takenFailure (kind : Kind) (rows : List Row) (user : User) :
    (takenFailure kind rows user).isStorage := by
  rw [takenFailure]
  split <;> rfl

theorem Store.Keeps.create_of_keyTaken_eq {store : Store} (keeps : store.Keeps rows)
    (textsTaken : store.kind.refused? user.texts = none)
    (taken : KeyTaken rows user.federationKey) :
    store.create {} user = .error (takenFailure store.kind rows user) store := by
  rw [takenFailure]
  by_cases emailTaken : EmailTaken rows user.email
  · cases isKind : store.kind with
    | memory => simp [keeps.create_of_keyTaken_of_memory isKind taken]
    | database =>
        simp [keeps.create_of_emailTaken_of_database isKind textsTaken emailTaken, emailTaken]
  · simp [keeps.create_of_keyTaken_of_emailFree textsTaken taken emailTaken, emailTaken]

variable {backend : Backend} {identity : Identity} {principal : Principal} {failure : Failure}

/-- A look-up that misses leads to the storing of a new user. -/
theorem reconcile_of_missed (missed : backend.onFind.strike? = some .absent) :
    reconcile identity principal backend =
      enroll identity principal { backend with onFind := backend.onFind.spent } := by
  simp only [reconcile, Backend.find, missed]

/-- A first login whose user the store refuses ends with what is made of the refusal. -/
theorem enroll_of_refused (access : backend.access = {})
    (reached : ∀ failure, backend.onCreate.strike? ≠ some (.failing failure))
    (refused : backend.store.create {} (newUser identity backend.random).1 =
      .error failure backend.store)
    (ofStore : failure.isOfStore) :
    (enroll identity principal backend).result = .error failure.raised := by
  apply enroll_of_failed ofStore
  rw [Backend.create_of_error access reached refused]

/-- What a first login for a uid that is there ends with. -/
theorem enroll_of_keyTaken (inOrder : backend.InOrder rows)
    (reached : ∀ failure, backend.onCreate.strike? ≠ some (.failing failure))
    (known : KeyTaken rows identity.uid) (principal : Principal) :
    (enroll identity principal backend).result = .error
      (if backend.store.kind.takes identity.username then
        takenFailure backend.store.kind rows (newUser identity backend.random).1
      else refusal identity.username) := by
  have takesUid := inOrder.keeps.takes_key known
  by_cases takesName : backend.store.kind.takes identity.username
  · have textsTaken := refused?_newUser takesUid takesName backend.random
    have refused := inOrder.keeps.create_of_keyTaken_eq textsTaken known
    have own := isStorage_takenFailure backend.store.kind rows (newUser identity backend.random).1
    rw [enroll_of_refused inOrder.access reached refused (by rw [Failure.isOfStore, own]; rfl),
      Failure.raised_of_isStorage own, if_pos takesName]
  · have textRefused := refused?_newUser_of_name takesUid takesName backend.random
    have refused := inOrder.keeps.create_of_refused textRefused
    rw [enroll_of_refused inOrder.access reached refused rfl, if_neg takesName]
    rfl

namespace Session

section

variable [Platform] {session : Session}

/-- A reconciliation whose look-up misses the row that is there is refused, and the rows stay.  It
is told about the federation key if the store is the one in memory or the e-mail of the new user is
free, and else about the e-mail.  A name that a database cannot encode is refused before that. -/
theorem late_login_refused (reachable : session.Reachable)
    (rows_eq : session.backend.store.rows = some rows) (known : KeyTaken rows identity.uid)
    (missed : session.backend.onFind.strike? = some .absent)
    (reached : ∀ failure, session.backend.onCreate.strike? ≠ some (.failing failure))
    (principal : Principal) :
    let email := (newUser identity session.backend.random).1.email
    let entry := (session.step (.reconcile identity principal)).2
    entry.result = .error
        (if session.backend.store.kind.takes identity.username then
          if session.backend.store.kind = .memory ∨ ¬ EmailTaken rows email then
            .duplicateKey "federation_key" identity.uid
          else
            .duplicateKey "email" email
        else
          refusal identity.username) ∧
      entry.rows = some rows := by
  intro email entry
  have inOrder := reachable.inOrder rows_eq
  have lookedUp : { session.backend with onFind := session.backend.onFind.spent }.InOrder rows :=
    ⟨inOrder.keeps, inOrder.access⟩
  have enrolled := enroll_of_keyTaken lookedUp reached known principal
  have failed := calc entry.result
    _ = (reconcile identity principal session.backend).result.map Answer.user := rfl
    _ = .error _ := by
      rw [reconcile_of_missed missed]
      exact congrArg (Except.map Answer.user) enrolled
  constructor
  · exact failed
  · calc entry.rows
      _ = (session.step (.reconcile identity principal)).1.backend.store.rows := rows_step session _
      _ = session.backend.store.rows := by rw [store_step_of_error failed]
      _ = some rows := rows_eq

end

section

open scoped Platform

/-- Somebody is late with another name than the one that is stored. -/
theorem late_login_refused_for_key :
    let steps : List Step := [.reconcile { uid := "u", username := "n" } .unnamed,
      .plant .find ⟨.absent, 1⟩]
    let session := ((start "http://verify.example.com" Kind.database.empty
      (RandomSource.arithmetic 0)).run steps).1
    ∃ rows, session.backend.store.rows = some rows ∧ KeyTaken rows "u" ∧
      session.backend.onFind.strike? = some .absent ∧
      (session.step (.reconcile { uid := "u", username := "m" } .unnamed)).2.result =
        .error (.duplicateKey "federation_key" "u") := by
  intro steps session
  have reachable : session.Reachable :=
    ⟨_, _, _, steps, .empty .database, rfl⟩
  have reached : ∀ failure, session.backend.onCreate.strike? ≠ some (.failing failure) := by
    intro failure struck
    cases struck
  let identity : Identity := { uid := "u", username := "m" }
  have late {rows : List Row} (rows_eq : session.backend.store.rows = some rows)
      (known : KeyTaken rows identity.uid) :=
    late_login_refused reachable rows_eq known rfl reached .unnamed
  have known := List.mem_singleton_self (Row.ofUser 1 (newUser { uid := "u", username := "n" }
    (.arithmetic 0)).1)
  exact ⟨_, rfl, ⟨_, known, rfl⟩, rfl, (late rfl ⟨_, known, rfl⟩).1⟩


/-- Somebody is late with the name that is stored, and is told about the e-mail. -/
theorem late_login_refused_for_email :
    let steps : List Step := [.reconcile { uid := "u", username := "n" } .unnamed,
      .plant .find ⟨.absent, 1⟩]
    let session := ((start "http://verify.example.com" Kind.database.empty
      (RandomSource.arithmetic 0)).run steps).1
    let entry := (session.step (.reconcile { uid := "u", username := "n" } .unnamed)).2
    (∃ rows, session.backend.store.rows = some rows ∧ KeyTaken rows "u") ∧
      session.backend.onFind.strike? = some .absent ∧
      entry.result = .error (.duplicateKey "email" "n@placeholder.local") ∧
      entry.result ≠ .error (.duplicateKey "federation_key" "u") := by
  intro steps session entry
  have told : entry.result = .error (.duplicateKey "email" "n@placeholder.local") := by
    decide +kernel
  refine ⟨⟨_, rfl, _, List.mem_singleton_self _, rfl⟩, rfl, told, ?_⟩
  rw [told]
  simp

end

end Session

end FederatedLogin
