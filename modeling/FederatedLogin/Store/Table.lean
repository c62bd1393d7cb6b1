import FederatedLogin.Failure
import FederatedLogin.Store.Row
import FederatedLogin.Text.Line

/-!
# The user table

A database keeps users in a table with two unique columns.  A change that would break uniqueness is
refused by the database with a message of its own, from whose first line the column is read off:
some databases name the constraint there, others the column, and later lines may quote anything.

A change names its row by identifier and federation key together, so it is also refused where only
one of them fits.

Texts are handed over in UTF-8, which has no place for surrogates.  A text with one is refused
before its statement runs.

The statements of an operation run as a transaction: each of them changes the table that the next
one works on, and a failure anywhere takes all of it back.
-/

namespace FederatedLogin

/-- How far a database can be used. -/
structure Access where
  /-- Whether users can be changed. -/
  isWritable : Bool := true
  /-- Whether the times of users are read in the form in which they are kept; each user that is
  found or made comes with them. -/
  readsTimes : Bool := true
  deriving DecidableEq, Repr

namespace Store

open FederatedLogin.Text

/-- What the first line of a message holds if the e-mail is not unique. -/
def emailMarkers : List String :=
  ["uq_federated_users_email", "federated_users.email"]

/-- Whether a text occurs in another. -/
def occursIn (wanted : List Char) : List Char → Bool
  | [] => wanted.isEmpty
  | value :: rest => wanted.isPrefixOf (value :: rest) || occursIn wanted rest

/-- The failure that a message of the database about a user means. -/
def duplicateKeyFailure (message : String) (key email : CodeString) : Failure :=
  let line := firstLine endsMessageLine message
  if emailMarkers.any fun marker => occursIn marker.toList line.toList then
    .duplicateKey "email" email
  else
    .duplicateKey "federation_key" key

/-- The unique columns. -/
inductive UniqueColumn where
  | federationKey
  | email
  deriving DecidableEq, Repr

/-- How the database words a violation. -/
def UniqueColumn.violation : UniqueColumn → String
  | .federationKey => "UNIQUE constraint failed: federated_users.federation_key"
  | .email => "UNIQUE constraint failed: federated_users.email"

/-- The table; its rows are ordered by their identifiers, which leave no gap. -/
structure Table where
  rows : List Row := []
  deriving DecidableEq, Repr

namespace Table

/-- The table without rows. -/
def empty : Table :=
  {}

/-- The unique column that a new row would violate; of two the e-mail is reported. -/
def violated? (table : Table) (user : User) : Option UniqueColumn :=
  if table.rows.any (·.email == user.email) then some .email
  else if table.rows.any (·.federationKey == user.federationKey) then some .federationKey
  else none

/-- The user under a federation key. -/
def find (table : Table) (access : Access) (key : CodeString) : Except Failure (Option User) :=
  if !key.isEncodable then .error (.outside (.unencodable key))
  else
    match table.rows.find? (·.federationKey == key) with
    | none => .ok none
    | some row =>
        if access.readsTimes then .ok (some row.toUser) else .error (.outside .timesUnreadable)

/-- Whether an identifier fits the column of identifiers, which is 64 bits wide. -/
def fitsColumn : Option Int → Bool
  | none => true
  | some id => -0x8000000000000000 ≤ id && id < 0x8000000000000000

/-- Whether a change of a user is about a row. -/
def isAbout (user : User) (row : Row) : Bool :=
  user.id == some (row.id : Int) && row.federationKey == user.federationKey

/-- The table with the name and the e-mail of a user in the rows that the user is about. -/
def renamed (table : Table) (user : User) : Table where
  rows := table.rows.map fun row =>
    if isAbout user row then row.rename user.username user.email else row

/-! ## Statements -/

/-- Runs statements as a transaction.  What they have changed stays if they come to their end, and
is taken back if one of them fails. -/
def inTransaction {α : Type} (table : Table) (statements : EStateM Failure Table α) :
    EStateM.Result Failure Table α :=
  match statements.run table with
  | .ok answer changed => .ok answer changed
  | .error failure _ => .error failure table

/-- Hands texts over to a statement, which takes none that cannot be encoded. -/
def bindTexts (texts : List CodeString) : EStateM Failure Table Unit :=
  match CodeString.unencodable? texts with
  | none => return
  | some text => throw (.outside (.unencodable text))

/-- Hands an identifier over to a statement.  Whether the column of identifiers can hold it is a
question only where no row bears it. -/
def bindId (user : User) : EStateM Failure Table Unit := do
  if !fitsColumn user.id && !(← get).rows.any (isAbout user) then
    throw (.outside .integerTooLarge)

/-- Refuses a statement that would change a table which can only be read. -/
def demandWritable (access : Access) (fault : StorageFault) : EStateM Failure Table Unit :=
  if access.isWritable then return else throw (.storage fault)

/-- Adds a row for a user under the next identifier. -/
def insertRow (user : User) : EStateM Failure Table Nat := do
  let table ← get
  match table.violated? user with
  | some column =>
      throw (duplicateKeyFailure column.violation user.federationKey user.email)
  | none =>
      let id := table.rows.length + 1
      set { table with rows := table.rows ++ [Row.ofUser id user] }
      return id

/-- Reads the times of the row that was added last. -/
def readTimes (access : Access) : EStateM Failure Table Unit :=
  if access.readsTimes then return else throw (.outside .timesUnreadable)

/-- Gives the rows that a user is about its name and its e-mail, and counts them. -/
def renameRows (user : User) : EStateM Failure Table Nat := do
  let table ← get
  let count := table.rows.countP (isAbout user)
  if count ≠ 0 && table.rows.any (fun row => !isAbout user row && row.email == user.email) then
    throw (duplicateKeyFailure UniqueColumn.email.violation user.federationKey user.email)
  set (table.renamed user)
  return count

/-- Changes the rows that a user is about, of which there has to be one. -/
def changeRows (access : Access) (user : User) : EStateM Failure Table Unit := do
  demandWritable access .updateFailed
  if (← renameRows user) = 0 then throw (.storage (.noSuchUser user.id))

/-! ## Operations -/

/-- Stores a new user under the next identifier. -/
def create (table : Table) (access : Access) (user : User) : EStateM.Result Failure Table Nat :=
  table.inTransaction do
    bindTexts user.texts
    demandWritable access .createFailed
    let id ← insertRow user
    readTimes access
    return id

/-- Changes the name and the e-mail of a stored user. -/
def update (table : Table) (access : Access) (user : User) : EStateM.Result Failure Table Unit :=
  table.inTransaction do
    bindTexts [user.username, user.email]
    bindId user
    bindTexts [user.federationKey]
    changeRows access user

/-! ## What the operations come to -/

/-- A transaction that fails leaves the table as it was, whatever its statements have changed. -/
theorem inTransaction_left {α : Type} {table left : Table} {statements : EStateM Failure Table α}
    {failure : Failure} (failed : table.inTransaction statements = .error failure left) :
    left = table := by
  rw [inTransaction] at failed
  split at failed
  · cases failed
  · exact (EStateM.Result.error.inj failed).2.symm

section

variable (table : Table) (access : Access) (user : User)

theorem run_demandWritable (fault : StorageFault) : (demandWritable access fault).run table =
    if access.isWritable then .ok () table else .error (.storage fault) table := by
  rw [demandWritable]
  split <;> rfl

theorem run_insertRow : (insertRow user).run table =
    match table.violated? user with
    | some column =>
        .error (duplicateKeyFailure column.violation user.federationKey user.email) table
    | none =>
        .ok (table.rows.length + 1)
          { rows := table.rows ++ [Row.ofUser (table.rows.length + 1) user] } := by
  simp only [insertRow, EStateM.run_bind, EStateM.run_get]
  cases table.violated? user <;> rfl

theorem run_readTimes : (readTimes access).run table =
    if access.readsTimes then .ok () table else .error (.outside .timesUnreadable) table := by
  rw [readTimes]
  split <;> rfl

theorem run_bindId : (bindId user).run table =
    if !fitsColumn user.id && !table.rows.any (isAbout user) then
      .error (.outside .integerTooLarge) table
    else .ok () table := by
  simp only [bindId, EStateM.run_bind, EStateM.run_get]
  split <;> rfl

theorem run_renameRows : (renameRows user).run table =
    if table.rows.countP (isAbout user) ≠ 0 &&
        table.rows.any (fun row => !isAbout user row && row.email == user.email) then
      .error (duplicateKeyFailure UniqueColumn.email.violation user.federationKey user.email) table
    else .ok (table.rows.countP (isAbout user)) (table.renamed user) := by
  simp only [renameRows, EStateM.run_bind, EStateM.run_get]
  split <;> rfl

theorem run_bindTexts (texts : List CodeString) : (bindTexts texts).run table =
    match CodeString.unencodable? texts with
    | none => .ok () table
    | some text => .error (.outside (.unencodable text)) table := by
  rw [bindTexts]
  cases CodeString.unencodable? texts <;> rfl

/-- A new user is refused, or gets the row at the end. -/
theorem create_eq : table.create access user =
    match CodeString.unencodable? user.texts with
    | some text => .error (.outside (.unencodable text)) table
    | none =>
        if !access.isWritable then .error (.storage .createFailed) table
        else
          match table.violated? user with
          | some column =>
              .error (duplicateKeyFailure column.violation user.federationKey user.email) table
          | none =>
              if access.readsTimes then
                .ok (table.rows.length + 1)
                  { rows := table.rows ++ [Row.ofUser (table.rows.length + 1) user] }
              else .error (.outside .timesUnreadable) table := by
  simp only [create, inTransaction, EStateM.run_bind, run_bindTexts, run_demandWritable,
    run_insertRow, run_readTimes]
  cases CodeString.unencodable? user.texts with
  | some text => rfl
  | none =>
      cases access.isWritable with
      | false => rfl
      | true =>
          cases violated : table.violated? user with
          | some column =>
              simp only [violated, if_true, Bool.not_true, Bool.false_eq_true, if_false]
          | none =>
              simp only [violated, if_true, Bool.not_true, Bool.false_eq_true, if_false]
              cases access.readsTimes <;> rfl

/-- A change that meets no row has gone through the rows already when it fails. -/
theorem run_changeRows : (changeRows access user).run table =
    if !access.isWritable then .error (.storage .updateFailed) table
    else if !table.rows.any (isAbout user) then
      .error (.storage (.noSuchUser user.id)) (table.renamed user)
    else if table.rows.any fun row => !isAbout user row && row.email == user.email then
      .error (duplicateKeyFailure UniqueColumn.email.violation user.federationKey user.email) table
    else .ok () (table.renamed user) := by
  have counted_iff :
      table.rows.countP (isAbout user) = 0 ↔ table.rows.any (isAbout user) = false := by
    simp
  simp only [changeRows, EStateM.run_bind, run_demandWritable, run_renameRows]
  cases access.isWritable with
  | false => rfl
  | true =>
      simp only [if_true, Bool.not_true, Bool.false_eq_true, if_false]
      cases known : table.rows.any (isAbout user) with
      | false =>
          simp only [counted_iff.mpr known]
          rfl
      | true =>
          have counted : table.rows.countP (isAbout user) ≠ 0 := by simp [counted_iff, known]
          simp only [counted, decide_true, Bool.true_and, Bool.not_true, Bool.false_eq_true,
            if_false, ne_eq, not_false_eq_true]
          by_cases taken : table.rows.any fun row => !isAbout user row && row.email == user.email
          · simp only [if_pos taken]
          · simp only [if_neg taken, if_neg counted, EStateM.run_pure]

/-- A change is refused, or made in the rows that it is about. -/
theorem update_eq : table.update access user =
    match CodeString.unencodable? [user.username, user.email] with
    | some text => .error (.outside (.unencodable text)) table
    | none =>
        if !fitsColumn user.id && !table.rows.any (isAbout user) then
          .error (.outside .integerTooLarge) table
        else if !user.federationKey.isEncodable then
          .error (.outside (.unencodable user.federationKey)) table
        else if !access.isWritable then .error (.storage .updateFailed) table
        else if !table.rows.any (isAbout user) then
          .error (.storage (.noSuchUser user.id)) table
        else if table.rows.any fun row => !isAbout user row && row.email == user.email then
          .error (duplicateKeyFailure UniqueColumn.email.violation user.federationKey user.email)
            table
        else .ok () (table.renamed user) := by
  simp only [update, inTransaction, EStateM.run_bind, run_bindTexts, run_bindId, run_changeRows]
  cases CodeString.unencodable? [user.username, user.email] with
  | some text => rfl
  | none =>
      by_cases tooLarge : !fitsColumn user.id && !table.rows.any (isAbout user)
      · simp only [if_pos tooLarge]
      · simp only [if_neg tooLarge, CodeString.unencodable?, List.find?_cons, List.find?_nil]
        cases user.federationKey.isEncodable with
        | false => rfl
        | true =>
            simp only [Bool.not_true, Bool.false_eq_true, if_false]
            cases access.isWritable with
            | false => rfl
            | true =>
                cases table.rows.any (isAbout user) with
                | false => rfl
                | true =>
                    simp only [Bool.not_true, Bool.false_eq_true, if_false]
                    by_cases taken :
                        table.rows.any fun row => !isAbout user row && row.email == user.email
                    · simp only [if_pos taken]
                    · simp only [if_neg taken]

end

end Table

/-- A violation of a column is reported as a violation of that column. -/
theorem duplicateKeyFailure_violation (column : UniqueColumn) (key email : CodeString) :
    duplicateKeyFailure column.violation key email =
      match column with
      | .federationKey => .duplicateKey "federation_key" key
      | .email => .duplicateKey "email" email := by
  have keyLine : (emailMarkers.any fun marker =>
      occursIn marker.toList (firstLine endsMessageLine
        UniqueColumn.federationKey.violation).toList) = false := by
    decide +kernel
  have emailLine : (emailMarkers.any fun marker =>
      occursIn marker.toList (firstLine endsMessageLine
        UniqueColumn.email.violation).toList) = true := by
    decide +kernel
  cases column <;> simp [duplicateKeyFailure, keyLine, emailLine]

end Store

end FederatedLogin
