import FederatedLogin.Proofs.Store.Memory
import FederatedLogin.Proofs.Store.Table
import FederatedLogin.Store.Basic

/-!
# Stores seen through their rows

`Keeps` relates a store of either kind to the rows it keeps.  Every operation is described by these
rows alone: what a look-up finds, when a new user is refused and which rows it leaves behind, and
the same for a change.  Later proofs look at neither the indexes nor the table.

A database refuses texts that cannot be encoded before it looks at its rows, so these hold none.
-/

namespace FederatedLogin.Store

open FederatedLogin.Text

/-- The kinds of store. -/
inductive Kind where
  | memory
  | database
  deriving DecidableEq, Repr

/-- The kind of a store. -/
def kind : Store → Kind
  | .memory _ => .memory
  | .database _ => .database

theorem kind_create {store after : Store} {access : Access} {user : User} {id : Nat}
    (created : store.create access user = .ok id after) : after.kind = store.kind := by
  cases store with
  | memory kept =>
      obtain ⟨changed, _, rfl⟩ := within_eq_ok created
      rfl
  | database table =>
      cases table with
      | none => cases created
      | some table =>
          obtain ⟨changed, _, rfl⟩ := within_eq_ok created
          rfl

theorem kind_update {store after : Store} {access : Access} {user : User}
    (updated : store.update access user = .ok () after) : after.kind = store.kind := by
  cases store with
  | memory kept =>
      obtain ⟨changed, _, rfl⟩ := within_eq_ok updated
      rfl
  | database table =>
      cases table with
      | none => cases updated
      | some table =>
          obtain ⟨changed, _, rfl⟩ := within_eq_ok updated
          rfl

namespace Kind

/-- The store of a kind without users; a database has its table already. -/
def empty : Kind → Store
  | .memory => .memory Memory.empty
  | .database => .database (some Table.empty)

theorem kind_empty (kind : Kind) : kind.empty.kind = kind := by
  cases kind <;> rfl

/-- The first of several texts that the stores of a kind do not take. -/
def refused? (kind : Kind) (texts : List CodeString) : Option CodeString :=
  match kind with
  | .memory => none
  | .database => CodeString.unencodable? texts

/-- Whether the stores of a kind take a text. -/
def takes (kind : Kind) (text : CodeString) : Bool :=
  (kind.refused? [text]).isNone

theorem takes_iff {kind : Kind} {text : CodeString} :
    kind.takes text ↔ kind.refused? [text] = none :=
  Option.isNone_iff_eq_none

theorem takes_database (text : CodeString) : database.takes text = text.isEncodable := by
  simp only [takes, refused?, CodeString.unencodable?, List.find?_cons, List.find?_nil]
  cases text.isEncodable <;> rfl

theorem takes_ofText (kind : Kind) (text : String) : kind.takes text := by
  cases kind with
  | memory => rfl
  | database => rw [takes_database, CodeString.isEncodable_ofText]

theorem takes_nil (kind : Kind) : kind.takes [] := by
  cases kind <;> rfl

theorem refused?_eq_none_iff {kind : Kind} {texts : List CodeString} :
    kind.refused? texts = none ↔ ∀ text ∈ texts, kind.takes text := by
  cases kind with
  | memory => simp [refused?, takes]
  | database => simp only [refused?, CodeString.unencodable?_eq_none_iff, takes_database]

theorem refused?_cons_of_takes {kind : Kind} {text : CodeString} (takes : kind.takes text)
    (texts : List CodeString) : kind.refused? (text :: texts) = kind.refused? texts := by
  cases kind with
  | memory => rfl
  | database =>
      rw [takes_database] at takes
      simp only [refused?, CodeString.unencodable?, List.find?_cons, takes, Bool.not_true]

/-- A text that is not taken is refused before those after it. -/
theorem refused?_cons_of_not_takes {kind : Kind} {text : CodeString} (refused : ¬ kind.takes text)
    (texts : List CodeString) : kind.refused? (text :: texts) = some text := by
  cases kind with
  | memory => exact absurd rfl refused
  | database =>
      rw [takes_database, Bool.not_eq_true] at refused
      simp only [refused?, CodeString.unencodable?, List.find?_cons, refused, Bool.not_false]

/-- Texts that can be encoded are taken by every store. -/
theorem refused?_of_isEncodable (kind : Kind) {texts : List CodeString}
    (encodable : ∀ text ∈ texts, text.isEncodable) : kind.refused? texts = none := by
  cases kind with
  | memory => rfl
  | database => exact CodeString.unencodable?_eq_none_iff.mpr encodable

/-- A user all of whose texts can be encoded is taken by every store. -/
theorem refused?_texts (kind : Kind) {user : User} (encodable : user.isEncodable) :
    kind.refused? user.texts = none := by
  cases kind with
  | memory => rfl
  | database => exact User.isEncodable_iff.mp encodable

end Kind

/-- What a login fails with over a text that the store does not take. -/
def refusal (text : CodeString) : Failure :=
  .storage (.stated (Trouble.unencodable text).message)

/-- A store in working order with these rows. -/
inductive Keeps : Store → List Row → Prop where
  | memory {memory : Memory} {rows : List Row} (consistent : memory.Consistent)
      (rows_eq : memory.rows = rows) : Keeps (.memory memory) rows
  | database {rows : List Row} (orderly : Orderly rows)
      (encodable : ∀ row ∈ rows, row.toUser.isEncodable) : Keeps (.database (some ⟨rows⟩)) rows

/-- The empty store of either kind keeps no rows. -/
theorem Kind.keeps_empty (kind : Kind) : Keeps kind.empty [] := by
  cases kind with
  | memory => exact .memory Memory.Consistent.empty rfl
  | database => exact .database Orderly.nil (by simp)

namespace Keeps

variable {store : Store} {rows : List Row}

theorem rows_eq (keeps : store.Keeps rows) : store.rows = some rows := by
  cases keeps with
  | memory _ rows_eq => exact congrArg some rows_eq
  | database _ _ => rfl

theorem orderly (keeps : store.Keeps rows) : Orderly rows := by
  cases keeps with
  | memory consistent rows_eq => exact rows_eq ▸ consistent.orderly
  | database orderly _ => exact orderly

/-- A table that is there is not made anew. -/
theorem createSchema_eq (keeps : store.Keeps rows) : store.createSchema = store := by
  cases keeps <;> rfl

/-- The texts of the rows were taken once and are taken again. -/
theorem takes_row (keeps : store.Keeps rows) {row : Row} (rowMem : row ∈ rows) :
    store.kind.refused? row.toUser.texts = none := by
  cases keeps with
  | memory _ _ => rfl
  | database _ encodable =>
      exact User.isEncodable_iff.mp (encodable row rowMem)

theorem takes_key (keeps : store.Keeps rows) {key : CodeString} (taken : KeyTaken rows key) :
    store.kind.takes key := by
  obtain ⟨row, rowMem, rfl⟩ := taken
  exact Kind.refused?_eq_none_iff.mp (keeps.takes_row rowMem) _ (by simp [User.texts, Row.toUser])

theorem takes_username (keeps : store.Keeps rows) {row : Row} (rowMem : row ∈ rows) :
    store.kind.takes row.username :=
  Kind.refused?_eq_none_iff.mp (keeps.takes_row rowMem) _ (by simp [User.texts, Row.toUser])

theorem takes_email (keeps : store.Keeps rows) {row : Row} (rowMem : row ∈ rows) :
    store.kind.takes row.toUser.email :=
  Kind.refused?_eq_none_iff.mp (keeps.takes_row rowMem) _ (by simp [User.texts])

/-! ## Look-ups -/

/-- A look-up finds the user of the row with the federation key. -/
theorem find_eq (keeps : store.Keeps rows) {key : CodeString}
    (taken : store.kind.refused? [key] = none) :
    store.find {} key = .ok ((rows.find? (·.federationKey == key)).map Row.toUser) := by
  cases keeps with
  | memory consistent rows_eq =>
      subst rows_eq
      exact consistent.find_eq key
  | database _ _ =>
      have encodable : key.isEncodable :=
        CodeString.unencodable?_eq_none_iff.mp taken key (by simp)
      simp only [find, Table.find, encodable, Bool.not_true, Bool.false_eq_true, if_false]
      cases rows.find? (·.federationKey == key) <;> rfl

theorem find_of_refused (keeps : store.Keeps rows) {key text : CodeString}
    (refused : store.kind.refused? [key] = some text) :
    store.find {} key = .error (.outside (.unencodable key)) := by
  cases keeps with
  | memory _ _ => cases refused
  | database _ _ =>
      simp only [kind, Kind.refused?, CodeString.unencodable?, List.find?_cons] at refused
      cases encodable : key.isEncodable with
      | true => simp [encodable] at refused
      | false => simp only [find, Table.find, encodable, Bool.not_false, if_true]

/-- Whatever is found is the user of the row with the federation key. -/
theorem of_find (keeps : store.Keeps rows) {key : CodeString} {user? : Option User}
    (found : store.find {} key = .ok user?) :
    user? = (rows.find? (·.federationKey == key)).map Row.toUser := by
  cases taken : store.kind.refused? [key] with
  | none =>
      rw [keeps.find_eq taken] at found
      exact (Except.ok.inj found).symm
  | some text =>
      rw [keeps.find_of_refused taken] at found
      cases found

/-! ## New users -/

variable {user : User}

/-- A user is refused for the first of its texts that is not taken. -/
theorem create_of_refused (keeps : store.Keeps rows) {text : CodeString}
    (refused : store.kind.refused? user.texts = some text) :
    store.create {} user = .error (.outside (.unencodable text)) store := by
  cases keeps with
  | memory _ _ => cases refused
  | database _ _ =>
      simp only [create, Table.create_of_unencodable ⟨rows⟩ refused, within, ofTable]

/-- A user whose federation key and e-mail are free gets the next identifier and the last row. -/
theorem create_of_free (keeps : store.Keeps rows) (taken : store.kind.refused? user.texts = none)
    (keyFree : ¬ KeyTaken rows user.federationKey) (emailFree : ¬ EmailTaken rows user.email) :
    ∃ after, store.create {} user = .ok (rows.length + 1) after ∧
      after.Keeps (rows ++ [Row.ofUser (rows.length + 1) user]) := by
  cases keeps with
  | memory consistent rows_eq =>
      subst rows_eq
      obtain ⟨created, afterConsistent⟩ := consistent.create_of_free keyFree emailFree
      refine ⟨_, ?_, .memory afterConsistent (consistent.rows_insert user)⟩
      simp only [create, created, within]
  | database orderly encodable =>
      refine ⟨_, ?_, .database (orderly.append rfl keyFree emailFree) ?_⟩
      · simp only [create, Table.create_of_free ⟨rows⟩ taken keyFree emailFree, within, ofTable]
      · intro row rowMem
        rcases List.mem_append.mp rowMem with isOld | isNew
        · exact encodable row isOld
        · rw [List.mem_singleton.mp isNew]
          exact User.isEncodable_iff.mpr taken

/-- The e-mail of a new user is taken, its federation key is not. -/
theorem create_of_emailTaken (keeps : store.Keeps rows)
    (textsTaken : store.kind.refused? user.texts = none)
    (keyFree : ¬ KeyTaken rows user.federationKey) (taken : EmailTaken rows user.email) :
    store.create {} user = .error (.duplicateKey "email" user.email) store := by
  cases keeps with
  | memory consistent rows_eq =>
      subst rows_eq
      simp only [create, consistent.create_of_emailTaken keyFree taken, within]
  | database _ _ =>
      simp only [create, Table.create_of_emailTaken ⟨rows⟩ textsTaken taken, within, ofTable]

/-- The federation key of a new user is taken.  Where its e-mail is taken as well, the kinds of
store report different columns. -/
theorem create_of_keyTaken (keeps : store.Keeps rows)
    (textsTaken : store.kind.refused? user.texts = none)
    (taken : KeyTaken rows user.federationKey) :
    store.create {} user = .error (.duplicateKey "federation_key" user.federationKey) store ∨
      EmailTaken rows user.email ∧
        store.create {} user = .error (.duplicateKey "email" user.email) store := by
  cases keeps with
  | memory consistent rows_eq =>
      subst rows_eq
      exact .inl (by simp only [create, consistent.create_of_keyTaken taken, within])
  | database _ _ =>
      by_cases emailTaken : EmailTaken rows user.email
      · exact .inr ⟨emailTaken, by
          simp only [create, Table.create_of_emailTaken ⟨rows⟩ textsTaken emailTaken, within,
            ofTable]⟩
      · exact .inl (by
          simp only [create, Table.create_of_keyTaken ⟨rows⟩ textsTaken emailTaken taken, within,
            ofTable])

/-! ## Changes -/

/-- The federation key of a known user is that of a row, and so it is taken. -/
theorem takes_key_of_known (keeps : store.Keeps rows) (known : Known rows user) :
    store.kind.refused? [user.federationKey] = none := by
  obtain ⟨row, rowMem, about⟩ := known
  exact Kind.takes_iff.mp (keeps.takes_key ⟨row, rowMem, (Table.isAbout_iff.mp about).2⟩)

/-- A change is refused for the first of its texts that is not taken. -/
theorem update_of_refused (keeps : store.Keeps rows) {text : CodeString}
    (refused : store.kind.refused? [user.username, user.email] = some text) :
    store.update {} user = .error (.outside (.unencodable text)) store := by
  cases keeps with
  | memory _ _ => cases refused
  | database _ _ =>
      simp only [update, Table.update_of_unencodable ⟨rows⟩ refused, within, ofTable]

/-- A change of a known user that takes nobody's e-mail is made in its row. -/
theorem update_of_free (keeps : store.Keeps rows)
    (taken : store.kind.refused? [user.username, user.email] = none) (known : Known rows user)
    (free : ¬ EmailOfAnother rows user) :
    ∃ after, store.update {} user = .ok () after ∧ after.Keeps (changed user rows) := by
  have keyTaken := keeps.takes_key_of_known known
  cases keeps with
  | memory consistent rows_eq =>
      subst rows_eq
      obtain ⟨after, updated, afterConsistent, after_rows⟩ := consistent.update_of_free known free
      refine ⟨.memory after, ?_, .memory afterConsistent after_rows⟩
      simp only [update, updated, within]
  | database orderly encodable =>
      have keyEncodable :=
        CodeString.unencodable?_eq_none_iff.mp keyTaken user.federationKey (by simp)
      refine ⟨_, ?_, .database (orderly.changed free) ?_⟩
      · simp only [update, Table.update_of_free ⟨rows⟩ taken keyEncodable known free, within,
          ofTable]
      · intro row rowMem
        exact isEncodable_of_mem_changed (CodeString.unencodable?_eq_none_iff.mp taken) encodable
          rowMem

theorem update_of_emailTaken (keeps : store.Keeps rows)
    (textsTaken : store.kind.refused? [user.username, user.email] = none)
    (known : Known rows user) (taken : EmailOfAnother rows user) :
    store.update {} user = .error (.duplicateKey "email" user.email) store := by
  have keyTaken := keeps.takes_key_of_known known
  cases keeps with
  | memory consistent rows_eq =>
      subst rows_eq
      simp only [update, consistent.update_of_emailTaken known taken, within]
  | database _ _ =>
      have keyEncodable :=
        CodeString.unencodable?_eq_none_iff.mp keyTaken user.federationKey (by simp)
      simp only [update, Table.update_of_emailTaken ⟨rows⟩ textsTaken keyEncodable known taken,
        within, ofTable]

/-- A change that is about no row is refused. -/
theorem update_of_unknown (keeps : store.Keeps rows) (unknown : ¬ Known rows user) :
    ∃ failure, store.update {} user = .error failure store := by
  cases refused : store.kind.refused? [user.username, user.email] with
  | some text => exact ⟨_, keeps.update_of_refused refused⟩
  | none =>
      cases keeps with
      | memory consistent rows_eq =>
          subst rows_eq
          rcases consistent.update_of_unknown unknown with noSuchUser | keyImmutable
          · exact ⟨.storage (.noSuchUser user.id), by simp only [update, noSuchUser, within]⟩
          · exact ⟨.storage .keyImmutable, by simp only [update, keyImmutable, within]⟩
      | database _ _ =>
          refine ⟨Table.unknownFailure user, ?_⟩
          simp only [update, Table.update_of_unknown ⟨rows⟩ refused unknown, within, ofTable]

end Keeps

end FederatedLogin.Store
