import FederatedLogin.Proofs.Store.Orderly

/-!
# The user table on orderly rows

What a look-up, a new row and a change come to in the table.  A refusal always names the column
that is violated, whatever the federation key and the e-mail are made of, because the message of
the database is of its own making.
-/

namespace FederatedLogin.Store.Table

open FederatedLogin.Text

variable {table : Table} {user : User}

theorem emailTaken_iff {email : CodeString} :
    EmailTaken table.rows email ↔ table.rows.any (·.email == email) := by
  simp [EmailTaken]

theorem keyTaken_iff {key : CodeString} :
    KeyTaken table.rows key ↔ table.rows.any (·.federationKey == key) := by
  simp [KeyTaken]

theorem known_iff : Known table.rows user ↔ table.rows.any (isAbout user) := by
  simp [Known]

theorem emailOfAnother_iff : EmailOfAnother table.rows user ↔
    table.rows.any fun row => !isAbout user row && row.email == user.email := by
  simp [EmailOfAnother]

/-! ## New users -/

/-- In a table that can be used in full, only a violation keeps a new user out whose texts can be
encoded. -/
theorem create_eq_of_full (table : Table) (encodable : CodeString.unencodable? user.texts = none) :
    table.create {} user =
      match table.violated? user with
      | some column =>
          .error (duplicateKeyFailure column.violation user.federationKey user.email) table
      | none =>
          .ok (table.rows.length + 1)
            { rows := table.rows ++ [Row.ofUser (table.rows.length + 1) user] } := by
  rw [create_eq, encodable]
  rfl

theorem create_of_unencodable (table : Table) {text : CodeString}
    (refused : CodeString.unencodable? user.texts = some text) :
    table.create {} user = .error (.outside (.unencodable text)) table := by
  rw [create_eq, refused]

theorem create_of_emailTaken (table : Table) (encodable : CodeString.unencodable? user.texts = none)
    (taken : EmailTaken table.rows user.email) :
    table.create {} user = .error (.duplicateKey "email" user.email) table := by
  simp only [create_eq_of_full table encodable, violated?, if_pos (emailTaken_iff.mp taken),
    duplicateKeyFailure_violation]

theorem create_of_keyTaken (table : Table) (encodable : CodeString.unencodable? user.texts = none)
    (emailFree : ¬ EmailTaken table.rows user.email)
    (taken : KeyTaken table.rows user.federationKey) :
    table.create {} user =
      .error (.duplicateKey "federation_key" user.federationKey) table := by
  simp only [create_eq_of_full table encodable, violated?, if_neg (mt emailTaken_iff.mpr emailFree),
    if_pos (keyTaken_iff.mp taken), duplicateKeyFailure_violation]

theorem create_of_free (table : Table) (encodable : CodeString.unencodable? user.texts = none)
    (keyFree : ¬ KeyTaken table.rows user.federationKey)
    (emailFree : ¬ EmailTaken table.rows user.email) :
    table.create {} user = .ok (table.rows.length + 1)
      { rows := table.rows ++ [Row.ofUser (table.rows.length + 1) user] } := by
  simp only [create_eq_of_full table encodable, violated?, if_neg (mt emailTaken_iff.mpr emailFree),
    if_neg (mt keyTaken_iff.mpr keyFree)]

/-! ## Changes -/

/-- The failure of a change that is about no row, once its name and its e-mail were handed over. -/
def unknownFailure (user : User) : Failure :=
  if !fitsColumn user.id then .outside .integerTooLarge
  else if !user.federationKey.isEncodable then .outside (.unencodable user.federationKey)
  else .storage (.noSuchUser user.id)

theorem update_of_unencodable (table : Table) {text : CodeString}
    (refused : CodeString.unencodable? [user.username, user.email] = some text) :
    table.update {} user = .error (.outside (.unencodable text)) table := by
  rw [update_eq, refused]

theorem update_of_unknown (table : Table)
    (encodable : CodeString.unencodable? [user.username, user.email] = none)
    (unknown : ¬ Known table.rows user) :
    table.update {} user = .error (unknownFailure user) table := by
  rw [known_iff, Bool.not_eq_true] at unknown
  rw [update_eq, encodable, unknown, unknownFailure]
  cases fitsColumn user.id <;> cases user.federationKey.isEncodable <;> rfl

theorem update_of_emailTaken (table : Table)
    (encodable : CodeString.unencodable? [user.username, user.email] = none)
    (keyEncodable : user.federationKey.isEncodable) (known : Known table.rows user)
    (taken : EmailOfAnother table.rows user) :
    table.update {} user = .error (.duplicateKey "email" user.email) table := by
  rw [known_iff] at known
  rw [emailOfAnother_iff] at taken
  simp only [update_eq, encodable, keyEncodable, known, Bool.not_true, Bool.and_false,
    Bool.false_eq_true, if_false, taken, if_true, duplicateKeyFailure_violation]

theorem update_of_free (table : Table)
    (encodable : CodeString.unencodable? [user.username, user.email] = none)
    (keyEncodable : user.federationKey.isEncodable) (known : Known table.rows user)
    (free : ¬ EmailOfAnother table.rows user) :
    table.update {} user = .ok () { rows := changed user table.rows } := by
  rw [known_iff] at known
  rw [emailOfAnother_iff] at free
  simp only [update_eq, encodable, keyEncodable, known, Bool.not_true, Bool.and_false,
    Bool.false_eq_true, if_false, free, renamed, changed]

end FederatedLogin.Store.Table
