import FederatedLogin.Proofs.Login.Reconcile
import FederatedLogin.Proofs.Login.Report
import FederatedLogin.Proofs.Store.Lookup

/-!
# What a login settles

A login that succeeds settles the row under its uid and leaves every other row alone.  The row is
the one that was there, under the name that is asserted, or a new one; either is known beforehand
from what was there under the uid, but for the identifier and the password of a new one.
-/

namespace FederatedLogin

open FederatedLogin.Store FederatedLogin.Text

variable {backend : Backend} {identity : Identity} {principal : Principal} {user existing : User}
  {rows after : List Row} {row : Row}

/-! ## The user that is returned -/

namespace User

/-- A named user gets a placeholder that no randomness goes into. -/
theorem chooseEmail_of_named {user : User} (named : user.username ≠ []) (random : RandomSource) :
    user.chooseEmail random =
      (if user.email ≠ [] then user.email else user.username ++ placeholderSuffix, random) := by
  rw [chooseEmail, if_pos named]
  split <;> rfl

/-- The e-mail that is chosen is never missing. -/
theorem chooseEmail_ne_empty (user : User) (random : RandomSource) :
    (user.chooseEmail random).1 ≠ [] := by
  have placeholder (localPart : CodeString) : localPart ++ placeholderSuffix ≠ [] :=
    List.append_ne_nil_of_right_ne_nil _ (by decide +kernel)
  rw [chooseEmail]
  split
  · assumption
  · split <;> exact placeholder _

end User

theorem email_newUser_ne_empty (identity : Identity) (random : RandomSource) :
    (newUser identity random).1.email ≠ [] := by
  simp only [newUser]
  exact User.chooseEmail_ne_empty _ _

theorem email_renamedUser_ne_empty (existing : User) (username : CodeString)
    (random : RandomSource) : (renamedUser existing username random).1.email ≠ [] := by
  simp only [renamedUser]
  exact User.chooseEmail_ne_empty _ _

theorem user_of_enroll (enrolled : (enroll identity principal backend).result = .ok user) :
    ∃ id : Nat, user = { (newUser identity backend.random).1 with id := some (id : Int) } := by
  simp only [enroll] at enrolled
  split at enrolled
  · cases enrolled
    exact ⟨_, rfl⟩
  · cases enrolled

theorem user_of_rename (renamed : (rename existing identity principal backend).result = .ok user) :
    user = (renamedUser existing identity.username backend.random).1 := by
  simp only [rename] at renamed
  split at renamed
  · cases renamed
    rfl
  · cases renamed

/-- A reconciliation that succeeds returns the user it has found, that user under the name of the
identity, or a new one. -/
theorem user_of_reconcile (succeeded : (reconcile identity principal backend).result = .ok user) :
    ((backend.find identity.uid).result = .ok (some user) ∧ user.username = identity.username) ∨
    (∃ existing, (backend.find identity.uid).result = .ok (some existing) ∧
      existing.username ≠ identity.username ∧
      user = (renamedUser existing identity.username backend.random).1) ∨
    (backend.find identity.uid).result = .ok none ∧
      ∃ id : Nat, user = { (newUser identity backend.random).1 with id := some (id : Int) } := by
  have sameRandom : (backend.find identity.uid).backend.random = backend.random := by
    rw [backend.backend_find]
  simp only [reconcile] at succeeded
  cases found : (backend.find identity.uid).result with
  | error failure =>
      rw [found] at succeeded
      cases succeeded
  | ok result =>
      rw [found] at succeeded
      cases result with
      | none =>
          obtain ⟨id, user_eq⟩ := user_of_enroll succeeded
          exact .inr (.inr ⟨rfl, id, sameRandom ▸ user_eq⟩)
      | some existing =>
          by_cases name : existing.username = identity.username
          · simp only [if_pos name, Except.ok.injEq] at succeeded
            subst succeeded
            exact .inl ⟨rfl, name⟩
          · simp only [if_neg name] at succeeded
            exact .inr (.inl ⟨existing, rfl, name, sameRandom ▸ user_of_rename succeeded⟩)

/-- A first login comes to nothing where the uid is known. -/
theorem enroll_refused (inOrder : backend.InOrder rows) (known : KeyTaken rows identity.uid)
    (principal : Principal) (user : User) :
    (enroll identity principal backend).result ≠ .ok user := by
  have drawnInOrder : { backend with random := (newUser identity backend.random).2 }.InOrder rows :=
    ⟨inOrder.keeps, inOrder.access⟩
  rcases drawnInOrder.create_cases (newUser identity backend.random).1 with
    ⟨failure, after, refused, _⟩ | ⟨after, _, keyFree, _, _⟩
  · simp [enroll, refused, Outcome.failed]
  · exact absurd known keyFree

/-- Where the uid is known, a reconciliation that succeeds returns the user of its row, or that user
under the name of the identity. -/
theorem user_of_known (inOrder : backend.InOrder rows) (rowMem : row ∈ rows)
    (key : row.federationKey = identity.uid)
    (succeeded : (reconcile identity principal backend).result = .ok user) :
    (row.username = identity.username ∧ user = row.toUser) ∨
    (row.username ≠ identity.username ∧
      user = (renamedUser row.toUser identity.username backend.random).1) := by
  have isRow {existing : User} (found : (backend.find identity.uid).result = .ok (some existing)) :
      existing = row.toUser := by
    have stored := Backend.of_find found
    rw [inOrder.access] at stored
    have shown := inOrder.keeps.of_find stored
    rw [← key, inOrder.keeps.orderly.find?_eq_some rowMem] at shown
    exact Option.some.inj shown
  rcases user_of_reconcile succeeded with
    ⟨found, name⟩ | ⟨existing, found, differs, user_eq⟩ | ⟨missed, _⟩
  · have user_eq := isRow found
    subst user_eq
    exact .inl ⟨name, rfl⟩
  · have existing_eq := isRow found
    subst existing_eq
    exact .inr ⟨differs, user_eq⟩
  · -- The look-up missed the row, so a first login was tried, and refused for the uid.
    have enrolled : (enroll identity principal (backend.find identity.uid).backend).result =
        .ok user := by
      simpa only [reconcile, missed] using succeeded
    have foundInOrder : (backend.find identity.uid).backend.InOrder rows := by
      rw [backend.backend_find]
      exact ⟨inOrder.keeps, inOrder.access⟩
    exact absurd enrolled (enroll_refused foundInOrder ⟨row, rowMem, key⟩ principal user)

/-- Where the uid is not known, a reconciliation that succeeds returns a new user. -/
theorem user_of_unknown (inOrder : backend.InOrder rows) (absent : rowUnder? rows identity.uid = none)
    (succeeded : (reconcile identity principal backend).result = .ok user) :
    ∃ id : Nat, user = { (newUser identity backend.random).1 with id := some (id : Int) } := by
  have nobody (existing : User) : (backend.find identity.uid).result ≠ .ok (some existing) := by
    intro found
    have stored := Backend.of_find found
    rw [rowUnder?] at absent
    rw [inOrder.access] at stored
    have shown := inOrder.keeps.of_find stored
    rw [absent] at shown
    cases shown
  rcases user_of_reconcile succeeded with ⟨found, _⟩ | ⟨existing, found, _⟩ | ⟨_, isNew⟩
  · exact absurd found (nobody user)
  · exact absurd found (nobody existing)
  · exact isNew

/-! ## What becomes of a row -/

namespace Store.Row

/-- What a row shows apart from its identifier and its password. -/
def face (row : Row) : CodeString × CodeString × CodeString × CodeString :=
  (row.federationKey, row.username, row.email, row.comment)

/-- The e-mail of a row under a new name: its own unless it is missing or a placeholder. -/
def emailUnder (row : Row) (username : CodeString) : CodeString :=
  if row.email = [] ∨ isPlaceholderEmail row.email then username ++ placeholderSuffix else row.email

/-- A row as a login under a name leaves it. -/
def settled (row : Row) (username : CodeString) : Row :=
  if row.username = username then row else row.rename username (row.emailUnder username)

end Store.Row

/-- What the row of a first login shows. -/
def newFace (identity : Identity) : CodeString × CodeString × CodeString × CodeString :=
  (identity.uid, identity.username, identity.username ++ placeholderSuffix, managedComment)

theorem face_newUser (named : identity.username ≠ []) (random : RandomSource) (id : Nat) :
    (Row.ofUser id (newUser identity random).1).face = newFace identity := by
  have namedDraft (password : CodeString) : ({
      federationKey := identity.uid, username := identity.username, password } : User).username ≠
        "" := named
  simp [newUser, User.chooseEmail_of_named (namedDraft _), Row.face, Row.ofUser, newFace]

theorem renamedUser_of_named {username : CodeString} (named : username ≠ [])
    (random : RandomSource) : (renamedUser row.toUser username random).1 =
      (row.rename username (row.emailUnder username)).toUser := by
  have namedDraft (user : User) (email : CodeString) :
      ({ user with username, email } : User).username ≠ [] := named
  have chosen : (if (if isPlaceholderEmail row.email then [] else row.email) ≠ [] then
      (if isPlaceholderEmail row.email then [] else row.email)
    else username ++ placeholderSuffix) = row.emailUnder username := by
    rw [Row.emailUnder]
    by_cases placeholder : isPlaceholderEmail row.email
    · simp [placeholder]
    · by_cases missing : row.email = [] <;> simp [placeholder, missing]
  simp only [renamedUser, User.chooseEmail_of_named (namedDraft _ _)]
  exact congrArg (fun email => ({ row.toUser with username, email } : User)) chosen

/-! ## What becomes of all rows -/

/-- Rows under other federation keys are what they were. -/
theorem Reconciled.rowUnder?_of_ne {result : Except Failure User} {key : CodeString}
    (reconciled : Reconciled rows identity result after)
    (elsewhere : identity.uid ≠ key) : rowUnder? after key = rowUnder? rows key := by
  cases reconciled with
  | failed failure => rfl
  | enrolled user sameKey => exact rowUnder?_append_of_ne (sameKey.trans_ne elsewhere)
  | resolved row => rfl
  | renamed row email rowMem sameKey => exact rowUnder?_changed_of_ne (sameKey.trans_ne elsewhere)

/-- What a login that succeeds makes of rows: its answer stands under its uid, and is what becomes
of the row that was there or else a new row. -/
structure Settled (rows : List Row) (identity : Identity) (answer : Row) (after : List Row) :
    Prop where
  orderly : Orderly after
  own : rowUnder? after identity.uid = some answer
  elsewhere : ∀ key, identity.uid ≠ key → rowUnder? after key = rowUnder? rows key
  known : ∀ row, rowUnder? rows identity.uid = some row → answer = row.settled identity.username
  made : rowUnder? rows identity.uid = none → answer.face = newFace identity

/-- A reconciliation that succeeds settles its row. -/
theorem settled_of_reconcile (inOrder : backend.InOrder rows) (named : identity.username ≠ [])
    (succeeded : (reconcile identity principal backend).result = .ok user) :
    ∃ after answer, (reconcile identity principal backend).backend.InOrder after ∧
      user = answer.toUser ∧ Settled rows identity answer after := by
  obtain ⟨after, afterInOrder, reconciled⟩ := reconcile_cases inOrder identity principal
  obtain ⟨answer, answerMem, answerKey, _, rfl⟩ := reconciled.exists_row succeeded
  have afterOrderly := afterInOrder.keeps.orderly
  refine ⟨after, answer, afterInOrder, rfl, {
    orderly := afterOrderly
    own := afterOrderly.rowUnder?_eq_some_iff.mpr ⟨answerMem, answerKey⟩
    elsewhere := fun _ elsewhere => reconciled.rowUnder?_of_ne elsewhere
    known := ?_
    made := ?_ }⟩
  · intro row present
    obtain ⟨rowMem, key⟩ := inOrder.keeps.orderly.rowUnder?_eq_some_iff.mp present
    rcases user_of_known inOrder rowMem key succeeded with ⟨name, same⟩ | ⟨differs, renamed⟩
    · rw [Row.toUser_inj same, Row.settled, if_pos name]
    · rw [renamedUser_of_named named] at renamed
      rw [Row.toUser_inj renamed, Row.settled, if_neg differs]
  · intro absent
    obtain ⟨id, isNew⟩ := user_of_unknown inOrder absent succeeded
    calc answer.face
      _ = (Row.ofUser answer.id answer.toUser).face := rfl
      _ = (Row.ofUser answer.id (newUser identity backend.random).1).face := by rw [isNew]; rfl
      _ = newFace identity := face_newUser named _ _

end FederatedLogin
