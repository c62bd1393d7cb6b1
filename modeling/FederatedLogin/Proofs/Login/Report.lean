import FederatedLogin.Login.Session
import FederatedLogin.Platform.Standard
import FederatedLogin.Proofs.Store.Failures
import FederatedLogin.Proofs.Verification.Report

/-!
# What a login reports

A login that fails raises one alarm, a login that succeeds gives one notice, and neither does both.
Its failures are those of the service and of its replies, which keep the store out of it, and those
of the store.  What lies outside the family of failures comes out of the store as a storage failure.
-/

namespace FederatedLogin

open FederatedLogin.Event FederatedLogin.Verification FederatedLogin.Text

/-- What a login makes of a failure of the store: one of the store's own making stays what it is,
and of other trouble only the wording is kept. -/
def Failure.raised : Failure → Failure
  | .outside trouble => .storage (.stated trouble.message)
  | failure => failure

theorem Failure.raised_of_isStorage {failure : Failure} (own : failure.isStorage) :
    failure.raised = failure := by
  cases failure <;> first | rfl | cases own

theorem Failure.isStorage_raised {failure : Failure} (ofStore : failure.isOfStore) :
    failure.raised.isStorage := by
  cases failure <;> first | rfl | cases ofStore

/-- The failure of the store call at which the reconciliation of an identity stops. -/
inductive StopsAt (identity : Identity) (backend : Backend) (failure : Failure) : Prop where
  | find (failed : (backend.find identity.uid).result = .error failure)
  | create (missed : (backend.find identity.uid).result = .ok none)
      (failed : (backend.create (newUser identity backend.random).1).result = .error failure)
  | update (existing : User) (found : (backend.find identity.uid).result = .ok (some existing))
      (drifted : existing.username ≠ identity.username)
      (failed : (backend.update (renamedUser existing identity.username backend.random).1).result =
        .error failure)

/-! ## The operations of the store -/

namespace Backend

variable (backend : Backend)

theorem backend_find (key : CodeString) :
    (backend.find key).backend = { backend with onFind := backend.onFind.spent } := by
  simp only [find]
  split <;> rfl

/-- What lies in wait for look-ups and the randomness have no part in the storing of a user. -/
theorem result_create_frame (onFind : Ambush) (random : RandomSource) (user : User) :
    ({ backend with onFind, random }.create user).result = (backend.create user).result := by
  simp only [create]
  split
  · rfl
  · split <;> rfl

theorem result_update_frame (onFind : Ambush) (random : RandomSource) (user : User) :
    ({ backend with onFind, random }.update user).result = (backend.update user).result := by
  simp only [update]
  split
  · rfl
  · split <;> rfl

theorem quiet_find (key : CodeString) : Quiet (backend.find key).events := by
  simp only [find]
  split <;> exact ⟨rfl, rfl⟩

theorem quiet_create (user : User) : Quiet (backend.create user).events := by
  simp only [create]
  split
  · exact ⟨rfl, rfl⟩
  · split <;> exact ⟨rfl, rfl⟩

theorem quiet_update (user : User) : Quiet (backend.update user).events := by
  simp only [update]
  split
  · exact ⟨rfl, rfl⟩
  · split <;> exact ⟨rfl, rfl⟩

end Backend

/-! ## The reconciliation -/

variable {backend : Backend} {identity : Identity} {failure : Failure}

theorem reportStoreFailure_of_isOfStore (ofStore : failure.isOfStore) (principal : Principal)
    (uid : CodeString) : reportStoreFailure principal uid failure =
      (failure.raised, [.storeFailed principal uid failure]) := by
  cases failure <;> first | rfl | cases ofStore

/-- A failure of the store is reported after whatever the store itself had to say. -/
theorem reported_failed {α : Type} {events : List Event} {causes : Failure → Prop}
    {succeeds : List Event → Prop} (ofStore : failure.isOfStore) (caused : causes failure)
    (quiet : Quiet events) (principal : Principal) (uid : CodeString) (backend : Backend) :
    Reported principal (fun raised => ∃ failure, causes failure ∧ raised = failure.raised) succeeds
      (Outcome.failed principal uid failure events backend : Outcome α).result
      (Outcome.failed principal uid failure events backend : Outcome α).events := by
  simp only [Outcome.failed, reportStoreFailure_of_isOfStore ofStore]
  apply Reported.failed
  · exact ⟨failure, caused, rfl⟩
  · exact quiet.append_alarmed (.single rfl List.mem_cons_self)

theorem reported_enroll (plain : backend.Plain) (identity : Identity) (principal : Principal) :
    Reported principal
      (fun raised => ∃ failure,
        (backend.create (newUser identity backend.random).1).result = .error failure ∧
          raised = failure.raised)
      (Noticed principal identity.uid)
      (enroll identity principal backend).result (enroll identity principal backend).events := by
  let drawn : Backend := { backend with random := (newUser identity backend.random).2 }
  have same := backend.result_create_frame backend.onFind drawn.random
    (newUser identity backend.random).1
  have quiet := drawn.quiet_create (newUser identity backend.random).1
  have ofStore := Backend.ofStore_create plain (newUser identity backend.random).1
  simp only [enroll]
  split
  · exact .succeeded (quiet.append_noticed (.single rfl List.mem_cons_self
      (List.mem_cons_of_mem _ List.mem_cons_self)))
  · next failure failed =>
      have caused := same.symm.trans failed
      exact reported_failed (ofStore failure caused) caused quiet principal identity.uid _

theorem reported_rename (plain : backend.Plain) (existing : User) (identity : Identity)
    (principal : Principal) :
    Reported principal
      (fun raised => ∃ failure,
        (backend.update (renamedUser existing identity.username backend.random).1).result =
            .error failure ∧
          raised = failure.raised)
      (Noticed principal identity.uid)
      (rename existing identity principal backend).result
      (rename existing identity principal backend).events := by
  let drawn : Backend :=
    { backend with random := (renamedUser existing identity.username backend.random).2 }
  have same := backend.result_update_frame backend.onFind drawn.random
    (renamedUser existing identity.username backend.random).1
  have quiet := drawn.quiet_update (renamedUser existing identity.username backend.random).1
  have ofStore :=
    Backend.ofStore_update plain (renamedUser existing identity.username backend.random).1
  simp only [rename]
  split
  · exact .succeeded (quiet.append_noticed (.single rfl List.mem_cons_self
      (List.mem_cons_of_mem _ List.mem_cons_self)))
  · next failure failed =>
      have caused := same.symm.trans failed
      exact reported_failed (ofStore failure caused) caused quiet principal identity.uid _

theorem reported_reconcile (plain : backend.Plain) (identity : Identity) (principal : Principal) :
    Reported principal
      (fun raised => ∃ failure, StopsAt identity backend failure ∧ raised = failure.raised)
      (Noticed principal identity.uid)
      (reconcile identity principal backend).result
      (reconcile identity principal backend).events := by
  have ofStore := Backend.ofStore_find plain identity.uid
  have lookedUp : Backend.Plain { backend with onFind := backend.onFind.spent } :=
    ⟨plain.onFind.spent, plain.onCreate, plain.onUpdate⟩
  simp only [reconcile, backend.backend_find]
  cases found : (backend.find identity.uid).result with
  | error failure =>
      exact reported_failed (ofStore failure found) (.find found) (backend.quiet_find _) principal
        identity.uid _
  | ok user =>
      cases user with
      | none =>
          refine (reported_enroll lookedUp identity principal).mono ?_
          rintro raised ⟨failure, failed, rfl⟩
          have same := backend.result_create_frame backend.onFind.spent backend.random
            (newUser identity backend.random).1
          exact ⟨failure, .create found (same.symm.trans failed), rfl⟩
      | some existing =>
          by_cases unchanged : existing.username = identity.username
          · simp only [unchanged, if_true]
            exact .succeeded (.single rfl List.mem_cons_self
              (List.mem_cons_of_mem _ List.mem_cons_self))
          · simp only [unchanged, if_false]
            refine (reported_rename lookedUp existing identity principal).mono ?_
            rintro raised ⟨failure, failed, rfl⟩
            have same := backend.result_update_frame backend.onFind.spent backend.random
              (renamedUser existing identity.username backend.random).1
            exact ⟨failure, .update existing found unchanged (same.symm.trans failed), rfl⟩

/-! ### The other way round -/

/-- A reconciliation stops only at failures that a store can have. -/
theorem StopsAt.isOfStore (plain : backend.Plain) (stops : StopsAt identity backend failure) :
    failure.isOfStore := by
  cases stops with
  | find failed => exact Backend.ofStore_find plain _ _ failed
  | create _ failed => exact Backend.ofStore_create plain _ _ failed
  | update _ _ _ failed => exact Backend.ofStore_update plain _ _ failed

theorem enroll_of_failed {principal : Principal} (ofStore : failure.isOfStore)
    (failed : (backend.create (newUser identity backend.random).1).result = .error failure) :
    (enroll identity principal backend).result = .error failure.raised := by
  have drawnFailed := (backend.result_create_frame backend.onFind
    (newUser identity backend.random).2 (newUser identity backend.random).1).trans failed
  simp only [enroll, drawnFailed, Outcome.failed, reportStoreFailure_of_isOfStore ofStore]

theorem rename_of_failed {existing : User} {principal : Principal} (ofStore : failure.isOfStore)
    (failed : (backend.update (renamedUser existing identity.username backend.random).1).result =
      .error failure) :
    (rename existing identity principal backend).result = .error failure.raised := by
  have drawnFailed := (backend.result_update_frame backend.onFind
    (renamedUser existing identity.username backend.random).2
    (renamedUser existing identity.username backend.random).1).trans failed
  simp only [rename, drawnFailed, Outcome.failed, reportStoreFailure_of_isOfStore ofStore]

/-- A reconciliation that stops at a call of the store fails because of it. -/
theorem reconcile_of_stopsAt (plain : backend.Plain) (stops : StopsAt identity backend failure)
    (principal : Principal) :
    (reconcile identity principal backend).result = .error failure.raised := by
  have ofStore := stops.isOfStore plain
  cases stops with
  | find failed =>
      simp only [reconcile, failed, Outcome.failed, reportStoreFailure_of_isOfStore ofStore]
  | create missed failed =>
      have lookedUp :=
        (backend.result_create_frame backend.onFind.spent backend.random _).trans failed
      simp only [reconcile, missed, backend.backend_find]
      exact enroll_of_failed ofStore lookedUp
  | update existing found drifted failed =>
      have lookedUp :=
        (backend.result_update_frame backend.onFind.spent backend.random _).trans failed
      simp only [reconcile, found, backend.backend_find, if_neg drifted]
      exact rename_of_failed ofStore lookedUp

/-! ## The login -/

section

variable [Platform] {base : String} {address : Address} {reply : Reply}

theorem reported_login (isTarget : target? base = .ok address)
    (answerable : reply.starts → address.isAbsolute) (plainReply : reply.isPlain)
    (plain : backend.Plain) (credential : Credential) :
    Reported credential.principal
      (fun failure =>
        failure.isOfService ∧ (verify base credential reply).result = .error failure ∨
          failure.isStorage ∧ ∃ identity cause,
            (verify base credential reply).result = .ok identity ∧
              StopsAt identity backend cause ∧ failure = cause.raised)
      (fun events => ∃ identity, (verify base credential reply).result = .ok identity ∧
        Noticed credential.principal identity.uid events)
      (login base credential reply backend).outcome.result
      (login base credential reply backend).outcome.events := by
  have exchangeReported := reported_verify isTarget answerable plainReply credential
  have greeting : Quiet [.authenticating credential.principal] := ⟨rfl, rfl⟩
  cases verified : (verify base credential reply).result with
  | error failure =>
      rw [verified] at exchangeReported
      rw [login_of_error backend verified]
      cases exchangeReported with
      | failed kind alarmed =>
          apply Reported.failed
          · exact .inl ⟨kind, rfl⟩
          · exact greeting.append_alarmed alarmed
  | ok identity =>
      rw [verified] at exchangeReported
      rw [login_of_ok backend verified]
      cases exchangeReported with
      | succeeded quiet =>
          have before := greeting.append quiet
          apply Reported.after before
          · refine (reported_reconcile plain identity credential.principal).mono ?_
            rintro raised ⟨cause, stops, rfl⟩
            exact .inr ⟨Failure.isStorage_raised (stops.isOfStore plain), identity, cause, rfl, stops,
              rfl⟩
          · intro events noticed
            exact ⟨identity, rfl, before.append_noticed noticed⟩

/-- Every login at a service is reported once.  One that succeeds gives one notice, with its
principal and its uid, and no alarm.  One that fails raises one alarm, with its principal, and gives
no notice; it fails as its exchange does, or because of the call of the store at which its
reconciliation stops.  A failure of the store's own making is then what the login fails with, and of
other trouble a storage failure keeps the wording. -/
theorem login_reported_once (isTarget : target? base = .ok address)
    (answerable : reply.starts → address.isAbsolute) (plainReply : reply.isPlain)
    (plain : backend.Plain) (credential : Credential) :
    let exchanged := (verify base credential reply).result
    let made := (login base credential reply backend).outcome
    (∀ user, made.result = .ok user → ∃ identity, exchanged = .ok identity ∧
      Noticed credential.principal identity.uid made.events) ∧
    (∀ failure, made.result = .error failure → Alarmed credential.principal made.events ∧
      (failure.isOfService ∧ exchanged = .error failure ∨
        failure.isStorage ∧ ∃ identity cause, exchanged = .ok identity ∧
          StopsAt identity backend cause ∧ failure = cause.raised)) ∧
    ∀ identity cause, exchanged = .ok identity → StopsAt identity backend cause →
      made.result = .error cause.raised := by
  intro exchanged made
  have reported : Reported _ _ _ made.result made.events :=
    reported_login isTarget answerable plainReply plain credential
  refine ⟨?_, ?_, ?_⟩
  · intro user succeeded
    rw [succeeded] at reported
    cases reported with
    | succeeded settled => exact settled
  · intro failure failed
    rw [failed] at reported
    cases reported with
    | failed kind alarmed => exact ⟨alarmed, kind⟩
  · intro identity cause verified stops
    calc made.result
      _ = (reconcile identity credential.principal backend).result :=
        congrArg (fun ended => ended.outcome.result) (login_of_ok backend verified)
      _ = .error cause.raised := reconcile_of_stopsAt plain stops credential.principal

/-- A body that asserts a user. -/
def assertingBody : List UInt8 :=
  let user := "\x7b\"uid\": \"u\", \"username\": \"n\"\x7d"
  ("\x7b\"status\": \x7b\"authenticated\": true, \"user\": " ++ user ++ "\x7d\x7d").toUTF8.toList

end

section

open scoped Platform

/-- The store of a first login is made to fail with trouble outside the family. -/
theorem refused_enrollment_reported_once :
    let trouble : Failure := .outside (.reported "RuntimeError" "out of paper")
    let backend : Backend :=
      { store := .memory .empty, random := .arithmetic 0, onCreate := ⟨.failing trouble, 1⟩ }
    let exchanged := (verify "http://verify.example.com" ⟨.named "p", "t"⟩
      (.response 200 assertingBody)).result
    let made := (login "http://verify.example.com" ⟨.named "p", "t"⟩ (.response 200 assertingBody)
      backend).outcome
    exchanged = .ok { uid := "u", username := "n" } ∧
      StopsAt { uid := "u", username := "n" } backend trouble ∧
      made.result = .error (.storage (.stated "out of paper")) ∧
      Alarmed (.named "p") made.events := by
  intro trouble backend exchanged made
  have isTarget : ∃ address, target? "http://verify.example.com" = .ok address ∧
      address.isAbsolute := by
    refine ⟨⟨"http".toList, [], "verify.example.com".toList, none, "/authenticate/token".toList,
      none, none⟩, ?_⟩
    decide +kernel
  obtain ⟨address, isTarget, absolute⟩ := isTarget
  have plain : backend.Plain := by
    refine ⟨.of_idle rfl, ?_, .of_idle rfl⟩
    intro failure struck
    cases struck
    rfl
  have verified : exchanged = .ok { uid := "u", username := "n" } := by decide +kernel
  have stops : StopsAt { uid := "u", username := "n" } backend trouble := .create rfl rfl
  obtain ⟨_, failures, stopped⟩ := login_reported_once isTarget
    (fun _ : (Reply.response 200 assertingBody).starts => absolute) rfl plain ⟨.named "p", "t"⟩
  have failed := stopped _ _ verified stops
  exact ⟨verified, stops, failed, (failures _ failed).1⟩


/-- A response that comes although the address names no host is refused without an alarm. -/
theorem response_from_nowhere_unreported :
    let made := (login "/v" ⟨.named "p", "t"⟩ (.response 200 assertingBody)
      (Session.start "/v" (.memory .empty) (.arithmetic 0)).backend).outcome
    (Address.ofText? (Address.authenticateUrl "/v")).isSome ∧
      ∃ failure, made.result = .error failure ∧ failure.isOfService = false ∧
        failure.isStorage = false ∧ made.events.filter isAlarm = [] := by
  intro made
  have refused : (verify "/v" ⟨.named "p", "t"⟩ (.response 200 assertingBody)).result =
      .error (.outside .relativeAddress) := by
    decide +kernel
  have quiet : ((verify "/v" ⟨.named "p", "t"⟩ (.response 200 assertingBody)).events.filter
      isAlarm).isEmpty := by
    decide +kernel
  refine ⟨by decide +kernel, .outside .relativeAddress, ?_, rfl, rfl, ?_⟩
  · simp only [made, login_of_error _ refused]
  · simp only [made, login_of_error _ refused]
    exact List.isEmpty_iff.mp quiet

end

end FederatedLogin
