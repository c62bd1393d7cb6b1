import FederatedLogin.Proofs.Login.Directory
import FederatedLogin.Proofs.Login.Reconcile

/-!
# Rows that mirror a directory

Rows mirror a directory when they show its entries in order, each with its placeholder as e-mail.
Reconciling an identity in a backend whose rows mirror a directory is having the directory accept
it: the answers describe each other, and the rows mirror the directory afterwards.

What the directory calls a taken local part is, in the rows, an e-mail under another federation key.
-/

namespace FederatedLogin

open FederatedLogin.Store Table FederatedLogin.Text

/-- What identifies a row to others: its identifier, federation key, user name and e-mail. -/
def Store.Row.identifying (row : Row) : Nat × CodeString × CodeString × CodeString :=
  (row.id, row.federationKey, row.username, row.email)

namespace Directory

/-- What a row shows of an entry under a uid. -/
def shownAs (member : CodeString × Entry) : Nat × CodeString × CodeString × CodeString :=
  (member.2.id, member.1, member.2.username, member.2.localPart ++ placeholderSuffix)

/-- Rows that show the entries of a directory in order. -/
def MirroredBy (directory : Directory) (rows : List Row) : Prop :=
  rows.map Row.identifying = directory.entries.map shownAs

/-- A user that an entry under a uid describes. -/
structure Entry.Describes (entry : Entry) (uid : CodeString) (user : User) : Prop where
  id : user.id = some (entry.id : Int)
  federationKey : user.federationKey = uid
  username : user.username = entry.username
  email : user.email = entry.localPart ++ placeholderSuffix

/-- An answer of a directory, and that of a reconciliation: the same failure, or a user that the
entry describes. -/
inductive Agree (uid : CodeString) : Except Failure Entry → Except Failure User → Prop where
  | failed (failure : Failure) : Agree uid (.error failure) (.error failure)
  | resolved {entry : Entry} {user : User} (describes : entry.Describes uid user) :
      Agree uid (.ok entry) (.ok user)

variable {directory : Directory} {rows : List Row} {uid name : CodeString}

/-! ## Rows and entries -/

/-- The entry that a row shows describes its user. -/
theorem Entry.describes_toUser {row : Row} {entry : Entry}
    (shown : row.identifying = shownAs (uid, entry)) : entry.Describes uid row.toUser := by
  simp only [Row.identifying, shownAs, Prod.mk.injEq] at shown
  obtain ⟨id, federationKey, username, email⟩ := shown
  exact ⟨congrArg (some ∘ Int.ofNat) id, federationKey, username, email⟩

/-! ## Users that are stored -/

/-- Without an e-mail, the placeholder of the local part for the name is chosen. -/
theorem chooseEmail_of_empty {user : User} (empty : user.email = []) (random : RandomSource) :
    user.chooseEmail random =
      ((localPartFor user.username random).1 ++ placeholderSuffix,
        (localPartFor user.username random).2) := by
  rw [User.chooseEmail, if_neg (not_not.mpr empty), localPartFor]
  by_cases unnamed : user.username = []
  · rw [if_neg (not_not.mpr unnamed), if_pos unnamed]
  · rw [if_pos unnamed, if_neg unnamed]

theorem email_newUser (identity : Identity) (random : RandomSource) :
    (newUser identity random).1.email =
      (localPartFor identity.username (random.skip passwordBytes)).1 ++ placeholderSuffix := by
  simp only [newUser, RandomSource.text, chooseEmail_of_empty]

theorem random_newUser (identity : Identity) (random : RandomSource) :
    (newUser identity random).2 =
      (localPartFor identity.username (random.skip passwordBytes)).2 := by
  simp only [newUser, RandomSource.text, chooseEmail_of_empty]

/-- The row of a new user shows the entry of its identity. -/
theorem identifying_newUser (id : Nat) (identity : Identity) (random : RandomSource) :
    (Row.ofUser id (newUser identity random).1).identifying =
      shownAs (identity.uid, ⟨id, identity.username,
        (localPartFor identity.username (random.skip passwordBytes)).1⟩) := by
  rw [shownAs, ← email_newUser]
  rfl

/-- A row under another name and placeholder shows the entry with them. -/
theorem identifying_rename {row : Row} {entry : Entry}
    (shown : row.identifying = shownAs (uid, entry)) (name localPart : CodeString) :
    (row.rename name (localPart ++ placeholderSuffix)).identifying =
      shownAs (uid, ⟨entry.id, name, localPart⟩) := by
  simp only [Row.identifying, shownAs, Prod.mk.injEq] at shown
  rw [shownAs, ← shown.1, ← shown.2.1]
  rfl

theorem isPlaceholderEmail_append (localPart : CodeString) :
    isPlaceholderEmail (localPart ++ placeholderSuffix) := by
  rw [isPlaceholderEmail, List.isSuffixOf_iff_suffix]
  exact List.suffix_append _ _

/-- A row with a placeholder takes the placeholder of its new name. -/
theorem renamedUser_toUser {row : Row} (placeholder : isPlaceholderEmail row.email)
    (name : CodeString) (random : RandomSource) :
    renamedUser row.toUser name random =
      ((row.rename name ((localPartFor name random).1 ++ placeholderSuffix)).toUser,
        (localPartFor name random).2) := by
  have emptied : (if isPlaceholderEmail row.toUser.email then [] else row.toUser.email) = [] :=
    if_pos placeholder
  rw [renamedUser, emptied, chooseEmail_of_empty rfl]
  rfl

/-! ## Mirroring -/

namespace MirroredBy

/-- What holds of a row by what identifies it holds of an entry. -/
theorem exists_iff (mirrored : directory.MirroredBy rows)
    (property : Nat × CodeString × CodeString × CodeString → Prop) :
    (∃ row ∈ rows, property row.identifying) ↔
      ∃ member ∈ directory.entries, property (shownAs member) := by
  have shownOnce : (∃ shown ∈ rows.map Row.identifying, property shown) ↔
      ∃ shown ∈ directory.entries.map shownAs, property shown := by
    rw [mirrored]
  simpa only [List.mem_map, exists_exists_and_eq_and] using shownOnce

theorem length_eq (mirrored : directory.MirroredBy rows) :
    rows.length = directory.entries.length := by
  simpa using congrArg List.length mirrored

theorem distinct (mirrored : directory.MirroredBy rows) (orderly : Orderly rows) :
    directory.entries.Distinct := by
  have sameKeys : directory.entries.keys = rows.map Row.federationKey := by
    simpa [Index.keys, Function.comp_def, Row.identifying, shownAs] using
      (congrArg (List.map fun shown => shown.2.1) mirrored).symm
  rw [Index.Distinct, sameKeys]
  exact orderly.keys

/-- The row with a federation key shows the entry under it. -/
theorem find?_row (mirrored : directory.MirroredBy rows) (uid : CodeString) :
    (rows.find? (·.federationKey == uid)).map Row.identifying =
      (directory.entries.get? uid).map fun entry => shownAs (uid, entry) := by
  let wanted (shown : Nat × CodeString × CodeString × CodeString) : Bool := shown.2.1 == uid
  calc (rows.find? (·.federationKey == uid)).map Row.identifying
    _ = (rows.map Row.identifying).find? wanted := by rw [List.find?_map]; rfl
    _ = (directory.entries.map shownAs).find? wanted := by rw [mirrored]
    _ = (directory.entries.find? (·.1 == uid)).map shownAs := by rw [List.find?_map]; rfl
    _ = (directory.entries.get? uid).map fun entry => shownAs (uid, entry) := by
      rw [Index.find?_eq, Option.map_map]
      rfl

theorem find?_of_absent (mirrored : directory.MirroredBy rows)
    (absent : directory.entries.get? uid = none) :
    rows.find? (·.federationKey == uid) = none := by
  have found := mirrored.find?_row uid
  rw [absent, Option.map_none, Option.map_eq_none_iff] at found
  exact found

/-- The federation key of a row is not absent. -/
theorem keyFree_of_absent (mirrored : directory.MirroredBy rows) (orderly : Orderly rows)
    (absent : directory.entries.get? uid = none) : ¬ KeyTaken rows uid := by
  rintro ⟨row, rowMem, rfl⟩
  have found := orderly.find?_eq_some rowMem
  rw [mirrored.find?_of_absent absent] at found
  cases found

theorem find?_of_present (mirrored : directory.MirroredBy rows) {entry : Entry}
    (present : directory.entries.get? uid = some entry) :
    ∃ row, rows.find? (·.federationKey == uid) = some row ∧
      row.identifying = shownAs (uid, entry) := by
  have found := mirrored.find?_row uid
  rw [present, Option.map_some, Option.map_eq_some_iff] at found
  exact found

/-- A local part is taken when its placeholder stands under another federation key. -/
theorem isTaken_iff_row (mirrored : directory.MirroredBy rows) {localPart : CodeString} :
    directory.isTaken uid localPart = true ↔
      ∃ row ∈ rows, row.federationKey ≠ uid ∧ row.email = localPart ++ placeholderSuffix := by
  have inRows := mirrored.exists_iff fun shown =>
    shown.2.1 ≠ uid ∧ shown.2.2.2 = localPart ++ placeholderSuffix
  rw [isTaken_iff]
  simpa only [Row.identifying, shownAs, List.append_cancel_right_eq] using inRows.symm

/-- The e-mail of a new user is taken when the local part for its name is. -/
theorem emailTaken_newUser_iff (mirrored : directory.MirroredBy rows) {identity : Identity}
    (keyFree : ¬ KeyTaken rows identity.uid) (random : RandomSource) :
    EmailTaken rows (newUser identity random).1.email ↔ directory.isTaken identity.uid
      (localPartFor identity.username (random.skip passwordBytes)).1 := by
  rw [mirrored.isTaken_iff_row, email_newUser]
  constructor
  · rintro ⟨row, rowMem, email⟩
    exact ⟨row, rowMem, fun key => keyFree ⟨row, rowMem, key⟩, email⟩
  · rintro ⟨row, rowMem, _, email⟩
    exact ⟨row, rowMem, email⟩

/-- A row at the end shows a new entry. -/
theorem append (mirrored : directory.MirroredBy rows) {row : Row} {entry : Entry}
    (shown : row.identifying = shownAs (uid, entry)) (absent : directory.entries.get? uid = none)
    (random : RandomSource) :
    MirroredBy { directory with entries := directory.entries.put uid entry, random }
      (rows ++ [row]) := by
  rw [MirroredBy, Index.put_of_absent entry absent, List.map_append, List.map_append, mirrored,
    List.map_singleton, List.map_singleton, shown]

/-- A row that is changed shows the changed entry. -/
theorem changed (mirrored : directory.MirroredBy rows) (orderly : Orderly rows) {row : Row}
    (rowMem : row ∈ rows) {old entry : Entry} {username email : CodeString}
    (present : directory.entries.get? row.federationKey = some old)
    (shown : (row.rename username email).identifying = shownAs (row.federationKey, entry))
    (random : RandomSource) :
    MirroredBy { directory with entries := directory.entries.put row.federationKey entry, random }
      (changed (row.rename username email).toUser rows) := by
  -- Rows and entries change at the same places: where the federation key is that of the row.
  let replace (other : Nat × CodeString × CodeString × CodeString) :
      Nat × CodeString × CodeString × CodeString :=
    if other.2.1 = row.federationKey then shownAs (row.federationKey, entry) else other
  have inRows : (Store.changed (row.rename username email).toUser rows).map Row.identifying =
      (rows.map Row.identifying).map replace := by
    rw [Store.changed, List.map_map, List.map_map]
    apply List.map_congr_left
    intro other otherMem
    have about := orderly.isAbout_rename_toUser_iff rowMem otherMem username email
    by_cases same : other.federationKey = row.federationKey
    · rw [orderly.eq_of_key otherMem rowMem same, Function.comp_apply,
        if_pos (isAbout_rename_toUser row username email), Function.comp_apply]
      simp only [replace, Row.identifying, if_true]
      exact shown
    · rw [Function.comp_apply, if_neg (mt about.mp same), Function.comp_apply]
      simp only [replace, Row.identifying, same, if_false]
  have inEntries : (directory.entries.put row.federationKey entry).map shownAs =
      (directory.entries.map shownAs).map replace := by
    rw [Index.put_of_present entry (mirrored.distinct orderly) present, List.map_map, List.map_map]
    apply List.map_congr_left
    intro member _
    by_cases same : member.1 = row.federationKey
    · simp [same, replace, shownAs]
    · simp [same, replace, shownAs]
  rw [MirroredBy, inRows, inEntries, mirrored]

end MirroredBy

/-! ## Reconciliation -/

/-- A backend that does what a directory does: nothing lies in wait for it, its randomness is that
of the directory, and its rows mirror the directory. -/
structure Follows (directory : Directory) (backend : Backend) (rows : List Row) : Prop where
  inOrder : backend.InOrder rows
  clear : backend.Clear
  kind_eq : backend.store.kind = directory.kind
  random_eq : backend.random = directory.random
  mirrored : directory.MirroredBy rows

variable {backend : Backend}

/-- Randomness that is drawn on both sides is drawn alike. -/
theorem Follows.drawn (follows : directory.Follows backend rows) (random : RandomSource) :
    Follows { directory with random } { backend with random } rows where
  inOrder := ⟨follows.inOrder.keeps, follows.inOrder.access⟩
  clear := ⟨follows.clear.onFind, follows.clear.onCreate, follows.clear.onUpdate⟩
  kind_eq := follows.kind_eq
  random_eq := rfl
  mirrored := follows.mirrored

/-- A new user is enrolled as the directory enters a new uid. -/
theorem Follows.enroll (follows : directory.Follows backend rows) (identity : Identity)
    (principal : Principal) (takesUid : directory.kind.takes identity.uid)
    (absent : directory.entries.get? identity.uid = none) :
    ∃ after, Follows (directory.accept identity.uid identity.username).2
        (enroll identity principal backend).backend after ∧
      Agree identity.uid (directory.accept identity.uid identity.username).1
        (enroll identity principal backend).result := by
  rw [accept_of_absent takesUid absent, ← follows.random_eq, ← follows.mirrored.length_eq]
  have drawn := follows.drawn (newUser identity backend.random).2
  have keyFree := follows.mirrored.keyFree_of_absent follows.inOrder.keeps.orderly absent
  have emailTaken_iff := follows.mirrored.emailTaken_newUser_iff keyFree backend.random
  by_cases takesName : directory.kind.takes identity.username
  · have textsTaken := refused?_newUser takesUid takesName backend.random
    rw [← follows.kind_eq] at textsTaken
    by_cases taken : directory.isTaken identity.uid
        (localPartFor identity.username (backend.random.skip passwordBytes)).1
    · have refused := drawn.inOrder.create_refused drawn.clear
        (drawn.inOrder.keeps.create_of_emailTaken textsTaken keyFree (emailTaken_iff.mpr taken))
      -- The randomness is spent on both sides, although nothing is stored.
      rw [enter_of_taken _ takesName taken]
      simp only [FederatedLogin.enroll, refused]
      rw [email_newUser, random_newUser]
      exact ⟨rows, follows.drawn _, .failed _⟩
    · obtain ⟨store, stored, storedInOrder, sameKind⟩ :=
        drawn.inOrder.create_of_free drawn.clear textsTaken keyFree (mt emailTaken_iff.mp taken)
      have shown := identifying_newUser (rows.length + 1) identity backend.random
      rw [enter_of_free _ takesName taken]
      simp only [FederatedLogin.enroll, stored]
      refine ⟨_, ⟨storedInOrder, drawn.clear.stored store, ?_, ?_, ?_⟩, .resolved ?_⟩
      · exact sameKind.trans follows.kind_eq
      · exact random_newUser identity backend.random
      · exact follows.mirrored.append shown absent _
      · exact Entry.describes_toUser shown
  · have textRefused := refused?_newUser_of_name takesUid takesName backend.random
    rw [← follows.kind_eq] at textRefused
    have refused := drawn.inOrder.create_refused drawn.clear
      (drawn.inOrder.keeps.create_of_refused textRefused)
    rw [enter_of_refused _ takesName]
    simp only [FederatedLogin.enroll, refused]
    rw [random_newUser]
    exact ⟨rows, follows.drawn _, .failed _⟩

/-- A user is renamed as the directory enters another name. -/
theorem Follows.rename (follows : directory.Follows backend rows) {row : Row} (rowMem : row ∈ rows)
    {entry : Entry} (shown : row.identifying = shownAs (row.federationKey, entry))
    (takesUid : directory.kind.takes row.federationKey)
    (present : directory.entries.get? row.federationKey = some entry) (identity : Identity)
    (principal : Principal) (sameUid : identity.uid = row.federationKey)
    (differ : entry.username ≠ identity.username) :
    ∃ after, Follows (directory.accept identity.uid identity.username).2
        (rename row.toUser identity principal backend).backend after ∧
      Agree identity.uid (directory.accept identity.uid identity.username).1
        (rename row.toUser identity principal backend).result := by
  have orderly := follows.inOrder.keeps.orderly
  have drawn := follows.drawn (localPartFor identity.username backend.random).2
  have placeholder : isPlaceholderEmail row.toUser.email := by
    rw [(Entry.describes_toUser shown).email]
    exact isPlaceholderEmail_append entry.localPart
  have renamed := renamedUser_toUser placeholder identity.username backend.random
  have known (email : CodeString) : Known rows (row.rename identity.username email).toUser :=
    ⟨row, rowMem, isAbout_rename_toUser row identity.username email⟩
  have emailOfAnother_iff := orderly.emailOfAnother_rename_toUser_iff rowMem identity.username
    ((localPartFor identity.username backend.random).1 ++ placeholderSuffix)
  rw [← follows.mirrored.isTaken_iff_row] at emailOfAnother_iff
  rw [sameUid, accept_of_present takesUid present, if_neg differ, ← follows.random_eq]
  by_cases takesName : directory.kind.takes identity.username
  · have textsTaken := refused?_renamedUser (follows.inOrder.keeps.takes_email rowMem)
      (follows.kind_eq ▸ takesName) backend.random
    simp only [renamed] at textsTaken
    by_cases taken : directory.isTaken row.federationKey
        (localPartFor identity.username backend.random).1
    · have refused := drawn.inOrder.update_refused drawn.clear
        (drawn.inOrder.keeps.update_of_emailTaken textsTaken (known _)
          (emailOfAnother_iff.mpr taken))
      rw [enter_of_taken _ takesName taken]
      simp only [FederatedLogin.rename, renamed, refused]
      exact ⟨rows, drawn, .failed _⟩
    · obtain ⟨store, stored, storedInOrder, sameKind⟩ := drawn.inOrder.update_of_free drawn.clear
        textsTaken (known _) (mt emailOfAnother_iff.mp taken)
      have renamedShown := identifying_rename shown identity.username
        (localPartFor identity.username backend.random).1
      rw [enter_of_free _ takesName taken]
      simp only [FederatedLogin.rename, renamed, stored]
      refine ⟨_, ⟨storedInOrder, drawn.clear.stored store, ?_, rfl, ?_⟩, .resolved ?_⟩
      · exact sameKind.trans follows.kind_eq
      · exact follows.mirrored.changed orderly rowMem present renamedShown _
      · exact Entry.describes_toUser renamedShown
  · have textRefused := refused?_renamedUser_of_name row.toUser takesName backend.random
    rw [← follows.kind_eq] at textRefused
    have refused := drawn.inOrder.update_refused drawn.clear
      (drawn.inOrder.keeps.update_of_refused textRefused)
    simp only [renamed] at refused
    rw [enter_of_refused _ takesName]
    simp only [FederatedLogin.rename, renamed, refused]
    exact ⟨rows, drawn, .failed _⟩

/-- Reconciling an identity is having the directory accept it. -/
theorem Follows.reconcile (follows : directory.Follows backend rows) (identity : Identity)
    (principal : Principal) :
    ∃ after, Follows (directory.accept identity.uid identity.username).2
        (reconcile identity principal backend).backend after ∧
      Agree identity.uid (directory.accept identity.uid identity.username).1
        (reconcile identity principal backend).result := by
  by_cases takesUid : directory.kind.takes identity.uid
  · have taken := Kind.takes_iff.mp takesUid
    rw [← follows.kind_eq] at taken
    have found := follows.inOrder.find_of_idle follows.clear.onFind taken
    cases present : directory.entries.get? identity.uid with
    | none =>
        rw [follows.mirrored.find?_of_absent present] at found
        simp only [FederatedLogin.reconcile, found, Option.map_none]
        exact follows.enroll identity principal takesUid present
    | some entry =>
        obtain ⟨row, foundRow, shown⟩ := follows.mirrored.find?_of_present present
        have rowMem := List.mem_of_find?_eq_some foundRow
        have key : row.federationKey = identity.uid := by
          simpa using List.find?_some foundRow
        have describes := Entry.describes_toUser shown
        rw [foundRow] at found
        simp only [FederatedLogin.reconcile, found, Option.map_some]
        by_cases same : entry.username = identity.username
        · rw [accept_of_present takesUid present, if_pos same,
            if_pos (describes.username.trans same)]
          exact ⟨rows, follows, .resolved describes⟩
        · rw [if_neg fun sameRow => same (describes.username.symm.trans sameRow)]
          rw [← key] at present shown takesUid
          exact follows.rename rowMem shown takesUid present identity principal key.symm same
  · have textRefused := Kind.refused?_cons_of_not_takes takesUid []
    rw [← follows.kind_eq] at textRefused
    have refused := follows.inOrder.find_of_refused follows.clear.onFind textRefused
    rw [accept_of_refused takesUid]
    simp only [FederatedLogin.reconcile, refused]
    exact ⟨rows, follows, .failed _⟩

end Directory

end FederatedLogin
