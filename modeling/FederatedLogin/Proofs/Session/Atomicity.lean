import FederatedLogin.Platform.Standard
import FederatedLogin.Proofs.Session.Tableless

/-!
# Failures change nothing, successes one row

A step that fails leaves the store as it was, whatever the store holds and whatever lies in wait for
it: the rows stay, and so does the identifier that is given out next.  A step that succeeds touches
at most one row, which is one it is about: it adds that row, or gives it another name and e-mail.

The first half needs no invariant.  The second half does: that a change meets a single row is due to
the identifiers of orderly rows.
-/

namespace FederatedLogin

open FederatedLogin.Store FederatedLogin.Text

/-! ## Rows that are touched -/

namespace Store

/-- What may become of rows when something is about some of them: they stay, or one that is new is
added, or one gets another name and e-mail. -/
inductive Touched (about : Row → Prop) (rows : List Row) : List Row → Prop where
  | kept : Touched about rows rows
  | added (row : Row) (isAbout : about row) (isNew : ∀ other ∈ rows, ¬ about other) :
      Touched about rows (rows ++ [row])
  | renamed (before : List Row) (row : Row) (behind : List Row) (username email : CodeString)
      (rows_eq : rows = before ++ row :: behind) (isAbout : about row) :
      Touched about rows (before ++ row.rename username email :: behind)

variable {rows : List Row} {user : User}

/-- Among orderly rows, a change is about one row. -/
theorem Touched.of_changed (orderly : Orderly rows) {about : Row → Prop}
    (known : Known rows user) (covers : ∀ row, Table.isAbout user row → about row) :
    Touched about rows (changed user rows) := by
  obtain ⟨row, rowMem, isAbout⟩ := known
  obtain ⟨before, behind, rfl⟩ := List.append_of_mem rowMem
  have idsDistinct : ((before ++ row :: behind).map Row.id).Nodup := by
    rw [orderly.ids]
    exact List.nodup_range'
  rw [List.map_append, List.map_cons, List.nodup_middle, List.nodup_cons, ← List.map_append]
    at idsDistinct
  have elsewhere : ∀ other ∈ before ++ behind, Table.isAbout user other = false := by
    intro other otherMem
    rw [Bool.eq_false_iff]
    intro otherAbout
    have sameId : other.id = row.id := by
      have ids := (Table.isAbout_iff.mp otherAbout).1.symm.trans (Table.isAbout_iff.mp isAbout).1
      exact Int.ofNat.inj (Option.some.inj ids)
    exact idsDistinct.1 (List.mem_map.mpr ⟨other, otherMem, sameId⟩)
  have partKept : ∀ part ⊆ before ++ behind, changed user part = part := by
    intro part partIn
    rw [changed, List.map_congr_left (g := id), List.map_id]
    intro other otherMem
    simp only [elsewhere other (partIn otherMem), Bool.false_eq_true, if_false, id]
  have changed_eq : changed user (before ++ row :: behind) =
      before ++ row.rename user.username user.email :: behind := by
    have beforeKept := partKept before (List.subset_append_left before behind)
    have behindKept := partKept behind (List.subset_append_right before behind)
    rw [changed] at beforeKept behindKept
    rw [changed, List.map_append, List.map_cons, beforeKept, behindKept, if_pos isAbout]
  rw [changed_eq]
  exact .renamed before row behind _ _ rfl (covers row isAbout)

/-- The identifier that the next new user gets. -/
def nextId : Store → Nat
  | .memory kept => kept.nextId
  | .database table => (table.getD Table.empty).rows.length + 1

/-- A new user gets the next identifier, and the one after it is next. -/
theorem nextId_create {store after : Store} {access : Access} {id : Nat}
    (created : store.create access user = .ok id after) :
    id = store.nextId ∧ after.nextId = store.nextId + 1 := by
  cases store with
  | memory kept =>
      obtain ⟨changed, made, rfl⟩ := within_eq_ok created
      rw [Memory.create_eq] at made
      repeat' split at made
      all_goals cases made
      exact ⟨rfl, rfl⟩
  | database table =>
      cases table with
      | none => cases created
      | some table =>
          obtain ⟨changed, made, rfl⟩ := within_eq_ok created
          rw [Table.create_eq] at made
          repeat' split at made
          all_goals cases made
          exact ⟨rfl, by simp [ofTable, nextId]⟩

end Store

/-! ## Failures -/

variable {backend : Backend} {failure : Failure}

namespace Backend

theorem store_create_of_error {user : User}
    (failed : (backend.create user).result = .error failure) :
    (backend.create user).backend.store = backend.store := by
  simp only [create] at failed ⊢
  split at failed
  · rfl
  · cases made : backend.store.create backend.access user with
    | ok id left => simp [made] at failed
    | error refusal left => exact Store.create_left made

theorem store_update_of_error {user : User}
    (failed : (backend.update user).result = .error failure) :
    (backend.update user).backend.store = backend.store := by
  simp only [update] at failed ⊢
  split at failed
  · rfl
  · cases made : backend.store.update backend.access user with
    | ok answer left => simp [made] at failed
    | error refusal left => exact Store.update_left made

end Backend

theorem backend_failed {α : Type} (principal : Principal) (uid : CodeString) (failure : Failure)
    (events : List Event) (backend : Backend) :
    (Outcome.failed principal uid failure events backend : Outcome α).backend = backend :=
  rfl

theorem store_enroll_of_error {identity : Identity} {principal : Principal}
    (failed : (enroll identity principal backend).result = .error failure) :
    (enroll identity principal backend).backend.store = backend.store := by
  simp only [enroll] at failed ⊢
  cases stored : ({ backend with random := (newUser identity backend.random).2 }.create
      (newUser identity backend.random).1).result with
  | ok id =>
      rw [stored] at failed
      cases failed
  | error refusal =>
      rw [backend_failed]
      exact Backend.store_create_of_error stored

theorem store_rename_of_error {existing : User} {identity : Identity} {principal : Principal}
    (failed : (rename existing identity principal backend).result = .error failure) :
    (rename existing identity principal backend).backend.store = backend.store := by
  simp only [rename] at failed ⊢
  cases stored : ({ backend with
      random := (renamedUser existing identity.username backend.random).2 }.update
      (renamedUser existing identity.username backend.random).1).result with
  | ok id =>
      rw [stored] at failed
      cases failed
  | error refusal =>
      rw [backend_failed]
      exact Backend.store_update_of_error stored

/-- A reconciliation that fails leaves the store as it was, wherever it fails. -/
theorem store_reconcile_of_error {identity : Identity} {principal : Principal}
    (failed : (reconcile identity principal backend).result = .error failure) :
    (reconcile identity principal backend).backend.store = backend.store := by
  have found_store := backend.store_find identity.uid
  simp only [reconcile] at failed ⊢
  split at failed
  · exact found_store
  · exact (store_enroll_of_error failed).trans found_store
  · split at failed
    · cases failed
    · rename_i differ
      rw [if_neg differ]
      exact (store_rename_of_error failed).trans found_store

theorem store_login_of_error [Platform] {base : String} {credential : Credential}
    {reply : Verification.Reply}
    (failed : (login base credential reply backend).outcome.result = .error failure) :
    (login base credential reply backend).outcome.backend.store = backend.store := by
  cases verified : (Verification.verify base credential reply).result with
  | error refusal => rw [login_of_error backend verified]
  | ok identity =>
      rw [login_of_ok backend verified] at failed ⊢
      exact store_reconcile_of_error failed

namespace Session

variable {session : Session}

theorem map_eq_error {α : Type} {result : Except Failure α} {answer : α → Answer}
    (failed : result.map answer = .error failure) : result = .error failure := by
  cases result with
  | error other => cases failed; rfl
  | ok value => cases failed

/-- A step that fails leaves the store as it was. -/
theorem store_step_of_error [Platform] {step : Step}
    (failed : (session.step step).2.result = .error failure) :
    (session.step step).1.backend.store = session.backend.store := by
  cases step with
  | login credential reply =>
      simp only [step, after] at failed ⊢
      exact store_login_of_error (map_eq_error failed)
  | verify credential reply => rfl
  | reconcile identity principal => exact store_reconcile_of_error (map_eq_error failed)
  | create user => exact Backend.store_create_of_error (map_eq_error failed)
  | update user => exact Backend.store_update_of_error (map_eq_error failed)
  | find key => exact session.backend.store_find key
  | size => rfl
  | createSchema => cases failed
  | plant operation ambush => cases failed

/-! ## Successes -/

/-- Whether a step is about a row: a direct write about the row of its user, a login and a
reconciliation about that of the uid they assert.  Other steps are about none. -/
def Step.IsAbout [Platform] (base : String) : Step → Row → Prop
  | .create user, row => row.federationKey = user.federationKey
  | .update user, row => Table.isAbout user row
  | step, row => step.assertedUid? base = some row.federationKey

/-- Whether a step only looks. -/
def Step.Looks : Step → Prop
  | .verify .. | .find _ => True
  | _ => False

theorem store_step_of_looks [Platform] {step : Step} (looks : step.Looks) :
    (session.step step).1.backend.store = session.backend.store := by
  cases step with
  | verify credential reply => rfl
  | find key => exact session.backend.store_find key
  | _ => cases looks

end Session

/-- However a reconciliation ends, it touches only what stands under its uid. -/
theorem Reconciled.touched {rows after : List Row} {identity : Identity}
    {result : Except Failure User} (reconciled : Reconciled rows identity result after)
    (orderly : Orderly rows) {about : Row → Prop}
    (about_iff : ∀ row, about row ↔ row.federationKey = identity.uid) :
    Touched about rows after := by
  cases reconciled with
  | failed failure => exact .kept
  | enrolled user key name keyFree =>
      refine .added _ ((about_iff _).mpr key) fun other otherMem isAbout => keyFree ?_
      exact ⟨other, otherMem, ((about_iff other).mp isAbout).trans key.symm⟩
  | resolved row => exact .kept
  | renamed row email rowMem key =>
      refine .of_changed orderly ⟨row, rowMem, Table.isAbout_rename_toUser row _ _⟩ ?_
      intro other isAbout
      exact (about_iff other).mpr ((Table.isAbout_iff.mp isAbout).2.trans key)

namespace Session

variable {session : Session} {rows : List Row} {about : Row → Prop}

/-- A record shows the rows after its step. -/
theorem rows_step [Platform] (session : Session) (step : Step) :
    (session.step step).2.rows = (session.step step).1.backend.store.rows := by
  cases step <;> simp only [Session.step, after]

/-- Stores whose rows are kept are related in particular when they are the same. -/
theorem rel_kept {store after : Store} (same : after = store) :
    Option.Rel (Touched about) store.rows after.rows := by
  rw [same]
  cases store.rows with
  | none => exact .none
  | some rows => exact .some .kept

theorem rel_touched {backend next : Backend} {after : List Row} (inOrder : backend.InOrder rows)
    (nextInOrder : next.InOrder after) (touched : Touched about rows after) :
    Option.Rel (Touched about) backend.store.rows next.store.rows := by
  rw [inOrder.keeps.rows_eq, nextInOrder.keeps.rows_eq]
  exact .some touched

/-- A step touches only what it is about. -/
theorem step_touches [Platform] (inOrder : session.backend.InOrder rows) (step : Step) :
    Option.Rel (Touched (step.IsAbout session.base)) session.backend.store.rows
      (session.step step).1.backend.store.rows := by
  cases step with
  | login credential reply =>
      cases verified : (Verification.verify session.base credential reply).result with
      | error failure =>
          apply rel_kept
          simp only [step, after, login_of_error session.backend verified]
      | ok identity =>
          obtain ⟨rowsAfter, afterInOrder, reconciled⟩ :=
            reconcile_cases inOrder identity credential.principal
          simp only [step, after, login_of_ok session.backend verified]
          refine rel_touched inOrder afterInOrder (reconciled.touched inOrder.keeps.orderly ?_)
          intro row
          simp only [Step.IsAbout, Step.assertedUid?, verified, Option.some.injEq, eq_comm]
  | verify credential reply => exact rel_kept rfl
  | reconcile identity principal =>
      obtain ⟨rowsAfter, afterInOrder, reconciled⟩ := reconcile_cases inOrder identity principal
      refine rel_touched inOrder afterInOrder (reconciled.touched inOrder.keeps.orderly ?_)
      intro row
      simp only [Step.IsAbout, Step.assertedUid?, Option.some.injEq, eq_comm]
  | create user =>
      rcases inOrder.create_cases user with
        ⟨failure, next, refused, nextInOrder⟩ | ⟨next, stored, keyFree, _, nextInOrder⟩
      · simp only [step, after, refused]
        exact rel_touched inOrder nextInOrder .kept
      · simp only [step, after, stored]
        refine rel_touched inOrder nextInOrder (.added _ rfl ?_)
        exact fun other otherMem sameKey => keyFree ⟨other, otherMem, sameKey⟩
  | update user =>
      rcases inOrder.update_cases user with
        ⟨failure, next, refused, nextInOrder⟩ | ⟨next, stored, known, _, nextInOrder⟩
      · simp only [step, after, refused]
        exact rel_touched inOrder nextInOrder .kept
      · simp only [step, after, stored]
        exact rel_touched inOrder nextInOrder
          (.of_changed inOrder.keeps.orderly known fun _ isAbout => isAbout)
  | find key => exact rel_kept (session.backend.store_find key)
  | size => exact rel_kept rfl
  | createSchema =>
      apply rel_kept
      simp only [step, after, inOrder.keeps.createSchema_eq]
  | plant operation ambush => cases operation <;> exact rel_kept rfl

/-- At every point of every session that starts without users, with or without the table for them:
a step that fails leaves the rows and the next identifier as they were; a step that succeeds touches
at most one row, which is one it is about; and a step that only looks changes nothing.  The next
identifier is the one that the next user to be stored gets. -/
theorem failures_change_nothing_and_successes_one_row [Platform] (base : String) {store : Store}
    (fresh : store.Fresh) (random : RandomSource) (steps : List Step) {step : Step}
    (other : step ≠ .createSchema) :
    let session := ((start base store random).run steps).1
    let next := session.step step
    (∀ failure, next.2.result = .error failure →
        next.2.rows = session.backend.store.rows ∧
          next.1.backend.store.nextId = session.backend.store.nextId) ∧
      (∀ answer, next.2.result = .ok answer →
        Option.Rel (Touched (step.IsAbout base)) session.backend.store.rows next.2.rows) ∧
      (step.Looks → next.1.backend.store = session.backend.store) ∧
      ∀ user id made,
        session.backend.store.create session.backend.access user = .ok id made →
          id = session.backend.store.nextId := by
  intro session next
  have rows_eq : next.2.rows = next.1.backend.store.rows := rows_step session step
  refine ⟨?_, ?_, store_step_of_looks, fun _ _ _ created => (nextId_create created).1⟩
  · intro failure failed
    have same := store_step_of_error failed
    rw [rows_eq, same]
    exact ⟨rfl, rfl⟩
  · intro answer _
    rw [rows_eq]
    rcases run_inOrder_or_tableless steps _ (start_inOrder_or_tableless base fresh random) with
      tableless | ⟨rows, inOrder⟩
    · exact rel_kept ((step_tableless tableless other).store.trans tableless.store.symm)
    · have base_eq : session.base = base := run_base _ steps
      exact base_eq ▸ step_touches inOrder step

section

open scoped Platform

/-- Somebody takes a name whose e-mail is that of somebody else. -/
theorem refused_rename_changes_nothing :
    let steps : List Step := [.reconcile { uid := "u", username := "n" } .unnamed,
      .reconcile { uid := "v", username := "m" } .unnamed]
    let session := ((start "http://verify.example.com" Kind.database.empty
      (RandomSource.arithmetic 0)).run steps).1
    let step : Step := .reconcile { uid := "u", username := "m" } .unnamed
    let next := session.step step
    Kind.database.empty.Fresh ∧ step ≠ .createSchema ∧
      next.2.result = .error (.duplicateKey "email" "m@placeholder.local") ∧
      next.2.rows = session.backend.store.rows ∧
      next.1.backend.store.nextId = session.backend.store.nextId := by
  intro steps session step next
  have other : step ≠ .createSchema := nofun
  have failed : next.2.result = .error (.duplicateKey "email" "m@placeholder.local") := by
    rfl
  have unchanged := (failures_change_nothing_and_successes_one_row "http://verify.example.com"
    (.empty .database) (RandomSource.arithmetic 0) steps other).1 _ failed
  exact ⟨.empty .database, other, failed, unchanged⟩

end

end Session

end FederatedLogin
