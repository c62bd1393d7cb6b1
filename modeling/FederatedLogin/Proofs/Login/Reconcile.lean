import FederatedLogin.Login.Reconcile
import FederatedLogin.Proofs.Store.Backend

/-!
# What a reconciliation can come to

A reconciliation fails and leaves the rows as they were, or it ends in one of three ways: a new row
for the identity, a row of the identity as it is, or a row of the identity under a new name.  In
all three the user that is returned is the one the row shows.

A store is handed the texts of the identity and a placeholder, so it takes what a login stores if it
takes the uid and the name.
-/

namespace FederatedLogin

open FederatedLogin.Store Table FederatedLogin.Text

/-! ## Texts that are handed over -/

section

variable {kind : Kind}

/-- The e-mail that is chosen is the one there is, or a placeholder. -/
theorem takes_chooseEmail {user : User} (takesName : kind.takes user.username)
    (takesEmail : kind.takes user.email) (random : RandomSource) :
    kind.takes (user.chooseEmail random).1 := by
  cases kind with
  | memory => rfl
  | database =>
      rw [Kind.takes_database] at *
      have suffixTaken : placeholderSuffix.isEncodable := CodeString.isEncodable_ofText _
      rw [User.chooseEmail]
      split
      · exact takesEmail
      · split
        · rw [CodeString.isEncodable_append, takesName, suffixTaken, Bool.and_self]
        · rw [CodeString.isEncodable_append, CodeString.isEncodable_ofText, suffixTaken,
            Bool.and_self]

theorem refused?_newUser {identity : Identity} (takesUid : kind.takes identity.uid)
    (takesName : kind.takes identity.username) (random : RandomSource) :
    kind.refused? (newUser identity random).1.texts = none := by
  have takesEmail : kind.takes (newUser identity random).1.email := by
    simp only [newUser]
    exact takes_chooseEmail takesName kind.takes_nil _
  rw [Kind.refused?_eq_none_iff]
  intro text textMem
  simp only [User.texts, List.mem_cons, List.not_mem_nil, or_false] at textMem
  rcases textMem with rfl | rfl | rfl | rfl | rfl
  · exact takesUid
  · exact takesName
  · exact takesEmail
  · exact kind.takes_ofText _
  · exact kind.takes_ofText _

theorem refused?_newUser_of_name {identity : Identity} (takesUid : kind.takes identity.uid)
    (refused : ¬ kind.takes identity.username) (random : RandomSource) :
    kind.refused? (newUser identity random).1.texts = some identity.username := by
  rw [User.texts]
  exact (Kind.refused?_cons_of_takes takesUid _).trans (Kind.refused?_cons_of_not_takes refused _)

theorem refused?_renamedUser {existing : User} (takesEmail : kind.takes existing.email)
    {username : CodeString} (takesName : kind.takes username) (random : RandomSource) :
    let user := (renamedUser existing username random).1
    kind.refused? [user.username, user.email] = none := by
  intro user
  have takesOwn : kind.takes (if isPlaceholderEmail existing.email then [] else existing.email) := by
    split
    · exact kind.takes_nil
    · exact takesEmail
  have takesNew : kind.takes user.email := by
    simp only [user, renamedUser]
    exact takes_chooseEmail takesName takesOwn _
  rw [Kind.refused?_cons_of_takes (show kind.takes user.username from takesName)]
  exact Kind.takes_iff.mp takesNew

theorem refused?_renamedUser_of_name (existing : User) {username : CodeString}
    (refused : ¬ kind.takes username) (random : RandomSource) :
    let user := (renamedUser existing username random).1
    kind.refused? [user.username, user.email] = some username :=
  Kind.refused?_cons_of_not_takes refused _

end

/-! ## The ways -/

/-- The ways in which the reconciliation of an identity ends, with the rows it leaves behind. -/
inductive Reconciled (rows : List Row) (identity : Identity) :
    Except Failure User → List Row → Prop where
  | failed (failure : Failure) : Reconciled rows identity (.error failure) rows
  | enrolled (user : User) (key : user.federationKey = identity.uid)
      (name : user.username = identity.username) (keyFree : ¬ KeyTaken rows user.federationKey)
      (emailFree : ¬ EmailTaken rows user.email) :
      Reconciled rows identity (.ok (Row.ofUser (rows.length + 1) user).toUser)
        (rows ++ [Row.ofUser (rows.length + 1) user])
  | resolved (row : Row) (rowMem : row ∈ rows) (key : row.federationKey = identity.uid)
      (name : row.username = identity.username) : Reconciled rows identity (.ok row.toUser) rows
  | renamed (row : Row) (email : CodeString) (rowMem : row ∈ rows)
      (key : row.federationKey = identity.uid)
      (emailFree : ¬ EmailOfAnother rows (row.rename identity.username email).toUser) :
      Reconciled rows identity (.ok (row.rename identity.username email).toUser)
        (changed (row.rename identity.username email).toUser rows)

namespace Reconciled

variable {rows after : List Row} {identity : Identity} {result : Except Failure User}

/-! ### What all ends have in common -/

theorem continues (reconciled : Reconciled rows identity result after) : Continues after rows := by
  cases reconciled with
  | failed failure => exact Continues.refl rows
  | enrolled user => exact Continues.append rows _
  | resolved row => exact Continues.refl rows
  | renamed row email => exact Continues.changed _ rows

/-- A user that is returned is shown by a row of the identity. -/
theorem exists_row (reconciled : Reconciled rows identity result after) {user : User}
    (succeeded : result = .ok user) :
    ∃ row ∈ after, row.federationKey = identity.uid ∧ row.username = identity.username ∧
      user = row.toUser := by
  cases reconciled with
  | failed failure => cases succeeded
  | enrolled stored key name =>
      cases succeeded
      exact ⟨_, List.mem_append_right _ (List.mem_singleton_self _), key, name, rfl⟩
  | resolved row rowMem key name =>
      cases succeeded
      exact ⟨row, rowMem, key, name, rfl⟩
  | renamed row email rowMem key =>
      cases succeeded
      refine ⟨row.rename identity.username email, List.mem_map.mpr ⟨row, rowMem, ?_⟩, key, rfl, rfl⟩
      rw [if_pos (isAbout_rename_toUser row identity.username email)]
      rfl

end Reconciled

/-! ## The reconciliation -/

variable {backend : Backend} {rows : List Row}

theorem enroll_cases (inOrder : backend.InOrder rows) (identity : Identity)
    (principal : Principal) :
    ∃ after, (enroll identity principal backend).backend.InOrder after ∧
      Reconciled rows identity (enroll identity principal backend).result after := by
  have drawnInOrder : { backend with random := (newUser identity backend.random).2 }.InOrder rows :=
    ⟨inOrder.keeps, inOrder.access⟩
  rcases drawnInOrder.create_cases (newUser identity backend.random).1 with
    ⟨failure, after, refused, afterInOrder⟩ | ⟨after, stored, keyFree, emailFree, afterInOrder⟩
  · refine ⟨rows, ?_⟩
    simp only [enroll, refused]
    exact ⟨afterInOrder, .failed _⟩
  · refine ⟨rows ++ [Row.ofUser (rows.length + 1) (newUser identity backend.random).1], ?_⟩
    simp only [enroll, stored]
    exact ⟨afterInOrder, .enrolled _ rfl rfl keyFree emailFree⟩

theorem rename_cases (inOrder : backend.InOrder rows) {row : Row} (rowMem : row ∈ rows)
    (identity : Identity) (key : row.federationKey = identity.uid) (principal : Principal) :
    ∃ after, (rename row.toUser identity principal backend).backend.InOrder after ∧
      Reconciled rows identity (rename row.toUser identity principal backend).result after := by
  have drawnInOrder : { backend with
      random := (renamedUser row.toUser identity.username backend.random).2 }.InOrder rows :=
    ⟨inOrder.keeps, inOrder.access⟩
  rcases drawnInOrder.update_cases (renamedUser row.toUser identity.username backend.random).1 with
    ⟨failure, after, refused, afterInOrder⟩ | ⟨after, stored, _, emailFree, afterInOrder⟩
  · refine ⟨rows, ?_⟩
    simp only [rename, refused]
    exact ⟨afterInOrder, .failed _⟩
  · refine ⟨changed (renamedUser row.toUser identity.username backend.random).1 rows, ?_⟩
    simp only [rename, stored]
    exact ⟨afterInOrder, .renamed row _ rowMem key emailFree⟩

/-- A reconciliation in a backend in order ends in one of the ways there are, and leaves the backend
in order. -/
theorem reconcile_cases (inOrder : backend.InOrder rows) (identity : Identity)
    (principal : Principal) :
    ∃ after, (reconcile identity principal backend).backend.InOrder after ∧
      Reconciled rows identity (reconcile identity principal backend).result after := by
  obtain ⟨result, found, ends⟩ := inOrder.find_cases identity.uid
  have foundInOrder : { backend with onFind := backend.onFind.spent }.InOrder rows :=
    ⟨inOrder.keeps, inOrder.access⟩
  simp only [reconcile, found]
  rcases ends with rfl | ⟨failure, rfl⟩ | rfl
  · exact enroll_cases foundInOrder identity principal
  · exact ⟨rows, foundInOrder, .failed _⟩
  · cases present : rows.find? (·.federationKey == identity.uid) with
    | none => exact enroll_cases foundInOrder identity principal
    | some row =>
        have rowMem := List.mem_of_find?_eq_some present
        have key : row.federationKey = identity.uid := by
          simpa using List.find?_some present
        simp only [Option.map_some]
        by_cases name : row.toUser.username = identity.username
        · rw [if_pos name]
          exact ⟨rows, foundInOrder, .resolved row rowMem key name⟩
        · rw [if_neg name]
          exact rename_cases foundInOrder rowMem identity key principal

/-- An identity whose row has its name is resolved to the user of that row, and the backend stays as
it is. -/
theorem reconcile_of_resolved {identity : Identity} (inOrder : backend.InOrder rows)
    (idle : backend.onFind.times = 0) {row : Row} (rowMem : row ∈ rows)
    (key : row.federationKey = identity.uid) (name : row.username = identity.username)
    (principal : Principal) : reconcile identity principal backend =
      ⟨.ok row.toUser, [.userResolved principal identity.uid (some (row.id : Int))], backend⟩ := by
  have found := inOrder.find_of_mem idle rowMem
  have sameName : row.toUser.username = identity.username := name
  simp only [reconcile, ← key, found, if_pos sameName]
  rfl

end FederatedLogin
