import FederatedLogin.Platform.Standard
import FederatedLogin.Proofs.Login.Settled
import FederatedLogin.Proofs.Session.Atomicity
import FederatedLogin.Proofs.Session.Enrollment
import FederatedLogin.Proofs.Store.Masked

/-!
# Randomness is confined to passwords

Two runs of the same steps on different randomness are the same but for the passwords of the users
that logins and reconciliations have made, as long as every identity that is asserted has a name:
a placeholder is then derived from the name, and a password is drawn and never looked at.

One step preserves this.  The passwords of the users made so far are hidden, and whatever is not
hidden is the same before and after the step; a step that makes a user hides its password as well.
-/

namespace FederatedLogin

open FederatedLogin.Store FederatedLogin.Text

/-- Hides the passwords of the users under some federation keys.  One that cannot be encoded, which
is none that was drawn, stays to be seen. -/
def hide (made : List CodeString) : Mask :=
  fun key password => if key ∈ made ∧ password.isEncodable then [] else password

variable {mask : Mask} {made more : List CodeString} {identity : Identity} {principal : Principal}
  {backend another : Backend}

theorem hide_absorbs (within : made ⊆ more) : (hide more).Absorbs (hide made) := by
  intro key password
  by_cases inMore : key ∈ more
  · by_cases encodable : password.isEncodable
    · by_cases isMade : key ∈ made <;> simp [hide, inMore, encodable, isMade]
    · simp [hide, encodable]
  · have notMade : key ∉ made := fun keyMem => inMore (within keyMem)
    simp only [hide, inMore, notMade, false_and, if_false]

theorem hide_keepsRefusals (made : List CodeString) : (hide made).KeepsRefusals := by
  intro key password
  rw [hide]
  split
  · next hidden => exact .inr ⟨hidden.2, CodeString.isEncodable_nil⟩
  · exact .inl rfl

/-- Whatever is the same with some passwords hidden is so with more of them hidden. -/
theorem Backend.masked_hide_mono (within : made ⊆ more)
    (alike : backend.masked (hide made) = another.masked (hide made)) :
    backend.masked (hide more) = another.masked (hide more) := by
  rw [← masked_masked (hide_absorbs within) backend, alike,
    masked_masked (hide_absorbs within) another]

/-- Behind another mask, backends are the same if their stores are. -/
theorem Backend.masked_of_store {other : Mask}
    (alike : backend.masked mask = another.masked mask)
    (stores : backend.store.masked other = another.store.masked other) :
    backend.masked other = another.masked other := by
  simp only [masked, Backend.mk.injEq] at alike ⊢
  exact ⟨stores, alike.2⟩

/-! ## Users that logins make -/

/-- New users of a named identity differ at most in the password. -/
theorem newUser_masked (made : List CodeString) (named : identity.username ≠ [])
    (random other : RandomSource) :
    (newUser identity random).1.masked (hide (identity.uid :: made)) =
      (newUser identity other).1.masked (hide (identity.uid :: made)) := by
  have namedDraft (password : CodeString) : ({
      federationKey := identity.uid, username := identity.username, password } : User).username ≠
        "" := named
  simp only [newUser, RandomSource.text, User.chooseEmail_of_named (namedDraft _), User.masked, hide,
    List.mem_cons_self, CodeString.isEncodable_ofText, and_self, if_true]

/-- A new name is given without a look at the password or the randomness. -/
theorem renamedUser_masked {username : CodeString} (named : username ≠ []) (existing : User)
    (random other : RandomSource) :
    (renamedUser (existing.masked mask) username random).1 =
      (renamedUser existing username other).1.masked mask := by
  have namedDraft (user : User) (email : CodeString) :
      ({ user with username, email } : User).username ≠ [] := named
  simp only [renamedUser, User.chooseEmail_of_named (namedDraft _ _)]
  rfl

/-! ## Outcomes that are the same behind a mask -/

/-- Outcomes that are the same behind a mask log the same and both fail with one failure, or both
succeed. -/
theorem Outcome.masked_cases {α : Type} {change : α → α} {outcome other : Outcome α}
    (alike : outcome.masked mask change = other.masked mask change) :
    outcome.events = other.events ∧ outcome.backend.masked mask = other.backend.masked mask ∧
      ((∃ failure, outcome.result = .error failure ∧ other.result = .error failure) ∨
        ∃ value changed, outcome.result = .ok value ∧ other.result = .ok changed ∧
          change value = change changed) := by
  simp only [masked, Outcome.mk.injEq] at alike
  obtain ⟨results, events, backends⟩ := alike
  refine ⟨events, backends, ?_⟩
  cases result : outcome.result with
  | error failure =>
      cases otherResult : other.result with
      | error otherFailure =>
          rw [result, otherResult] at results
          cases results
          exact .inl ⟨failure, rfl, rfl⟩
      | ok changed =>
          rw [result, otherResult] at results
          cases results
  | ok value =>
      cases otherResult : other.result with
      | error otherFailure =>
          rw [result, otherResult] at results
          cases results
      | ok changed =>
          rw [result, otherResult] at results
          exact .inr ⟨value, changed, rfl, rfl, Except.ok.inj results⟩

theorem find_alike (key : CodeString) (alike : backend.masked mask = another.masked mask) :
    (backend.find key).masked mask (Option.map (User.masked mask)) =
      (another.find key).masked mask (Option.map (User.masked mask)) := by
  rw [← Backend.find_masked, ← Backend.find_masked, alike]

theorem create_alike (keepsRefusals : mask.KeepsRefusals) {draft other : User}
    (drafts : draft.masked mask = other.masked mask)
    (alike : backend.masked mask = another.masked mask) :
    (backend.create draft).masked mask id = (another.create other).masked mask id := by
  rw [← Backend.create_masked keepsRefusals, ← Backend.create_masked keepsRefusals, drafts, alike]

theorem update_alike {user other : User} (users : user.masked mask = other.masked mask)
    (alike : backend.masked mask = another.masked mask) :
    (backend.update user).masked mask id = (another.update other).masked mask id := by
  rw [← Backend.update_masked, ← Backend.update_masked, users, alike]

/-! ## Reconciliation -/

theorem failed_alike (uid : CodeString) (failure : Failure) (events : List Event)
    (alike : backend.masked mask = another.masked mask) :
    (Outcome.failed principal uid failure events backend).masked mask (User.masked mask) =
      (Outcome.failed principal uid failure events another).masked mask (User.masked mask) := by
  simp only [Outcome.masked, Outcome.failed, alike]

/-- With the password of its user hidden, an enrollment is the same on all randomness. -/
theorem enroll_alike (made : List CodeString) (principal : Principal)
    (named : identity.username ≠ [])
    (alike : backend.masked (hide (identity.uid :: made)) =
      another.masked (hide (identity.uid :: made))) :
    (enroll identity principal backend).masked (hide (identity.uid :: made))
        (User.masked (hide (identity.uid :: made))) =
      (enroll identity principal another).masked (hide (identity.uid :: made))
        (User.masked (hide (identity.uid :: made))) := by
  have drafts := newUser_masked made named backend.random another.random
  have keepsRefusals := hide_keepsRefusals (identity.uid :: made)
  generalize hide (identity.uid :: made) = mask at alike drafts keepsRefusals
  have drawn : Backend.masked mask { backend with random := (newUser identity backend.random).2 } =
      Backend.masked mask { another with random := (newUser identity another.random).2 } := alike
  obtain ⟨events, backends, ends⟩ := Outcome.masked_cases (create_alike keepsRefusals drafts drawn)
  rcases ends with ⟨failure, failed, otherFailed⟩ | ⟨id, otherId, created, otherCreated, sameId⟩
  · simp only [enroll, failed, otherFailed, events]
    exact failed_alike _ _ _ backends
  · obtain rfl : id = otherId := sameId
    have usernames : (newUser identity backend.random).1.username =
        (newUser identity another.random).1.username := rfl
    have users := congrArg (fun user : User => { user with id := some (id : Int) }) drafts
    simp only [enroll, created, otherCreated, events, usernames]
    simp only [Outcome.masked, backends, Outcome.mk.injEq, and_true]
    exact congrArg Except.ok users

/-- An enrollment is the same on all randomness, but for the password of the user that it has made
if its events tell of one. -/
theorem enroll_hidden (named : identity.username ≠ [])
    (alike : backend.masked (hide made) = another.masked (hide made)) :
    let outcome := enroll identity principal backend
    let hidden := hide (enrolled identity outcome.events ++ made)
    outcome.masked hidden (User.masked hidden) =
      (enroll identity principal another).masked hidden (User.masked hidden) := by
  intro outcome hidden
  have hiddenAlike := enroll_alike made principal named
    (Backend.masked_hide_mono (List.subset_cons_self _ _) alike)
  by_cases told : outcome.events.any Event.isEnrollment
  · have hides : hidden = hide (identity.uid :: made) := by
      simp only [hidden, enrolled, if_pos told, List.singleton_append]
    rw [hides]
    exact hiddenAlike
  · -- Nothing is stored where the enrollment fails, so the new password is nowhere.
    have hides : hidden = hide made := by
      simp only [hidden, enrolled, if_neg told, List.nil_append]
    obtain ⟨events, backends, ends⟩ := Outcome.masked_cases hiddenAlike
    rcases ends with ⟨failure, failed, otherFailed⟩ | ⟨_, _, stored, _, _⟩
    · have stores : outcome.backend.store.masked (hide made) =
          (enroll identity principal another).backend.store.masked (hide made) := by
        rw [store_enroll_of_error failed, store_enroll_of_error otherFailed]
        exact congrArg Backend.store alike
      have sameBackends := Backend.masked_of_store backends stores
      rw [hides]
      simp only [Outcome.masked, outcome, failed, otherFailed, events, sameBackends, Except.map]
    · exact absurd (told_enroll_iff.mpr ⟨_, stored⟩) told

/-- A renaming to a name is the same on all randomness. -/
theorem rename_alike (named : identity.username ≠ []) {existing other : User}
    (users : existing.masked mask = other.masked mask)
    (alike : backend.masked mask = another.masked mask) :
    (rename existing identity principal backend).masked mask (User.masked mask) =
      (rename other identity principal another).masked mask (User.masked mask) := by
  have renamed : (renamedUser existing identity.username backend.random).1.masked mask =
      (renamedUser other identity.username another.random).1.masked mask := by
    rw [← renamedUser_masked named existing another.random,
      ← renamedUser_masked named other another.random, users]
  have drawn : Backend.masked mask
        { backend with random := (renamedUser existing identity.username backend.random).2 } =
      Backend.masked mask
        { another with random := (renamedUser other identity.username another.random).2 } := alike
  obtain ⟨events, backends, ends⟩ := Outcome.masked_cases (update_alike renamed drawn)
  rcases ends with ⟨failure, failed, otherFailed⟩ | ⟨_, _, stored, otherStored, _⟩
  · simp only [rename, failed, otherFailed, events]
    exact failed_alike _ _ _ backends
  · have ids := congrArg User.id renamed
    have usernames := congrArg User.username renamed
    have previous := congrArg User.username users
    simp only [User.masked_id, User.masked_username] at ids usernames previous
    simp only [rename, stored, otherStored, events, ids, usernames, previous]
    simp only [Outcome.masked, backends, Outcome.mk.injEq, and_true]
    exact congrArg Except.ok renamed

/-- Whatever is hidden, outcomes that are the same stay so when more is hidden. -/
theorem Outcome.masked_hide_mono (within : made ⊆ more) {outcome other : Outcome User}
    (alike : outcome.masked (hide made) (User.masked (hide made)) =
      other.masked (hide made) (User.masked (hide made))) :
    outcome.masked (hide more) (User.masked (hide more)) =
      other.masked (hide more) (User.masked (hide more)) := by
  obtain ⟨events, backends, ends⟩ := masked_cases alike
  have moreBackends := Backend.masked_hide_mono within backends
  rcases ends with ⟨failure, failed, otherFailed⟩ | ⟨user, changed, ok, otherOk, users⟩
  · simp only [masked, failed, otherFailed, events, moreBackends, Except.map]
  · have moreUsers : user.masked (hide more) = changed.masked (hide more) := by
      rw [← User.masked_masked (hide_absorbs within) user, users,
        User.masked_masked (hide_absorbs within) changed]
    simp only [masked, ok, otherOk, events, moreBackends, Except.map, moreUsers]

/-- A reconciliation is the same on all randomness, but for the password of the user that it has
made if its events tell of one. -/
theorem reconcile_alike (principal : Principal) (named : identity.username ≠ [])
    (alike : backend.masked (hide made) = another.masked (hide made)) :
    let outcome := reconcile identity principal backend
    let hidden := hide (enrolled identity outcome.events ++ made)
    outcome.masked hidden (User.masked hidden) =
      (reconcile identity principal another).masked hidden (User.masked hidden) := by
  intro outcome hidden
  -- Only a user that is made adds to what is hidden.
  have hides (same : outcome.masked (hide made) (User.masked (hide made)) =
      (reconcile identity principal another).masked (hide made) (User.masked (hide made))) :
      outcome.masked hidden (User.masked hidden) =
        (reconcile identity principal another).masked hidden (User.masked hidden) :=
    Outcome.masked_hide_mono (List.subset_append_right _ _) same
  obtain ⟨events, backends, ends⟩ := Outcome.masked_cases (find_alike identity.uid alike)
  rcases ends with ⟨failure, failed, otherFailed⟩ | ⟨user?, other?, found, otherFound, users⟩
  · apply hides
    simp only [outcome, reconcile, failed, otherFailed, events]
    exact failed_alike _ _ _ backends
  · cases user? with
    | none =>
        cases other? with
        | none =>
            have goesOn : outcome =
                enroll identity principal (backend.find identity.uid).backend := by
              simp only [outcome, reconcile, found]
            have otherGoesOn : reconcile identity principal another =
                enroll identity principal (another.find identity.uid).backend := by
              simp only [reconcile, otherFound]
            simp only [hidden, goesOn, otherGoesOn]
            exact enroll_hidden named backends
        | some other => cases users
    | some existing =>
        cases other? with
        | none => cases users
        | some other =>
            have sameUser : existing.masked (hide made) = other.masked (hide made) :=
              Option.some.inj users
            have usernames := congrArg User.username sameUser
            have ids := congrArg User.id sameUser
            simp only [User.masked_id, User.masked_username] at ids usernames
            apply hides
            simp only [outcome, reconcile, found, otherFound, usernames]
            split
            · simp only [ids, Outcome.masked, backends, Except.map, sameUser]
            · exact rename_alike named sameUser backends

namespace Session

/-! ## Records behind a mask -/

/-- An answer with the password of its user changed. -/
def Answer.masked (mask : Mask) : Answer → Answer
  | .user known => .user (known.masked mask)
  | .found known => .found (known.map (User.masked mask))
  | answer => answer

/-- A record with the passwords of its answer and of its rows changed. -/
def Entry.masked (mask : Mask) (entry : Entry) : Entry :=
  { entry with
    result := entry.result.map (Answer.masked mask)
    rows := entry.rows.map (List.map (Row.masked mask)) }

/-- A session with the passwords changed and without its randomness. -/
def masked (mask : Mask) (session : Session) : Session :=
  { session with backend := session.backend.masked mask }

/-- Sessions after a step, with its records, that are the same behind a mask. -/
structure SameBehind (mask : Mask) (came other : Session × Entry) : Prop where
  session : came.1.masked mask = other.1.masked mask
  entry : came.2.masked mask = other.2.masked mask

section

variable [Platform]

/-- Transcripts that are the same but for the passwords of the users that were made by then: by the
steps before, or by the step of the record itself. -/
inductive SameButPasswords (base : String) :
    List CodeString → List (Step × Entry) → List (Step × Entry) → Prop where
  | nil (made : List CodeString) : SameButPasswords base made [] []
  | cons {made : List CodeString} {step : Step} {entry other : Entry}
      {rest others : List (Step × Entry)}
      (same : entry.masked (hide (enrolledBy base (step, entry) ++ made)) =
        other.masked (hide (enrolledBy base (step, entry) ++ made)))
      (restSame : SameButPasswords base (enrolledBy base (step, entry) ++ made) rest others) :
      SameButPasswords base made ((step, entry) :: rest) ((step, other) :: others)

variable {session other : Session} {step : Step}

omit [Platform] in
/-- What a step leaves behind is the same if what it came to is. -/
theorem after_same {α : Type} {change : α → α} {answer : α → Answer} {outcome another : Outcome α}
    (sameBase : session.base = other.base)
    (outcomes : outcome.masked mask change = another.masked mask change)
    (answers : ∀ value, (answer value).masked mask = answer (change value))
    (requests : Option (List Verification.Request)) :
    SameBehind mask (session.after outcome answer requests)
      (other.after another answer requests) := by
  obtain ⟨events, backends, ends⟩ := Outcome.masked_cases outcomes
  have rows : outcome.backend.store.rows.map (List.map (Row.masked mask)) =
      another.backend.store.rows.map (List.map (Row.masked mask)) := by
    rw [← Store.rows_masked, ← Store.rows_masked]
    exact congrArg (fun backend => backend.store.rows) backends
  constructor
  · simp only [after, masked, sameBase, backends]
  · rcases ends with ⟨failure, failed, otherFailed⟩ | ⟨value, changed, ok, otherOk, same⟩
    · simp only [after, Entry.masked, failed, otherFailed, events, rows, Except.map]
    · simp only [after, Entry.masked, ok, otherOk, events, rows, Except.map, answers, same]

/-! ## Steps -/

omit [Platform] in
/-- What leaves the backend alone comes to the same. -/
theorem untouched_same {α : Type} (change : α → α) (result : Except Failure α)
    (events : List Event) (alike : backend.masked mask = another.masked mask) :
    Outcome.masked mask change ⟨result, events, backend⟩ =
      Outcome.masked mask change ⟨result, events, another⟩ := by
  simp only [Outcome.masked, alike]

omit [Platform] in
theorem logged_before {α : Type} {change : α → α} {outcome another : Outcome α}
    (before : List Event)
    (alike : outcome.masked mask change = another.masked mask change) :
    Outcome.masked mask change { outcome with events := before ++ outcome.events } =
      Outcome.masked mask change { another with events := before ++ another.events } :=
  congrArg (fun outcome : Outcome α => { outcome with events := before ++ outcome.events }) alike

/-- A login comes to the same as long as its identity, if it verifies one, is named. -/
theorem login_same (credential : Credential) (reply : Verification.Reply)
    (named : ∀ identity, (Step.login credential reply).identity? session.base = some identity →
      identity.username ≠ [])
    (sameBase : session.base = other.base)
    (backends : session.backend.masked (hide made) = other.backend.masked (hide made)) :
    let record := (Step.login credential reply, (session.step (.login credential reply)).2)
    SameBehind (hide (enrolledBy session.base record ++ made))
      (session.step (.login credential reply)) (other.step (.login credential reply)) := by
  intro record
  cases verified : (Verification.verify session.base credential reply).result with
  | error failure =>
      have refused := login_of_error session.backend verified
      have otherRefused := login_of_error other.backend verified
      have unasserted : enrolledBy session.base record = [] := by
        simp only [record, enrolledBy, Step.identity?, verified, Except.toOption]
      rw [unasserted, List.nil_append]
      simp only [step, ← sameBase, refused, otherRefused]
      exact after_same sameBase (untouched_same (User.masked _) _ _ backends) (fun _ => rfl) _
  | ok identity =>
      have accepted := login_of_ok session.backend verified
      have otherAccepted := login_of_ok other.backend verified
      have asserted : (Step.login credential reply).identity? session.base = some identity := by
        simp only [Step.identity?, verified, Except.toOption]
      have reconciled := reconcile_alike credential.principal (named identity asserted) backends
      let before := Event.authenticating credential.principal ::
        (Verification.verify session.base credential reply).events
      have moreHidden := Outcome.masked_hide_mono (enrolled_append_subset made identity before
        (reconcile identity credential.principal session.backend).events) reconciled
      have entry_events : record.2.events =
          before ++ (reconcile identity credential.principal session.backend).events := by
        simp only [record, step, after, accepted, before]
      rw [enrolledBy_of_identity? asserted, entry_events]
      simp only [step, ← sameBase, accepted, otherAccepted]
      exact after_same sameBase (logged_before before moreHidden) (fun _ => rfl) _

/-- A step on sessions that are the same but for hidden passwords leaves them so, if the password of
the user that it may have made is hidden as well. -/
theorem step_same (alike : session.masked (hide made) = other.masked (hide made))
    (named : ∀ identity, step.identity? session.base = some identity → identity.username ≠ []) :
    SameBehind (hide (enrolledBy session.base (step, (session.step step).2) ++ made))
      (session.step step) (other.step step) := by
  simp only [masked, Session.mk.injEq] at alike
  obtain ⟨sameBase, backends⟩ := alike
  cases step with
  | login credential reply => exact login_same credential reply named sameBase backends
  | verify credential reply =>
      simp only [step, ← sameBase]
      exact after_same sameBase (untouched_same id _ _ backends) (fun _ => rfl) _
  | reconcile identity principal =>
      have reconciled := reconcile_alike principal (named identity rfl) backends
      exact after_same sameBase reconciled (fun _ => rfl) none
  | create user =>
      exact after_same sameBase (create_alike (hide_keepsRefusals made) rfl backends)
        (fun _ => rfl) none
  | update user => exact after_same sameBase (update_alike rfl backends) (fun _ => rfl) none
  | find key => exact after_same sameBase (find_alike key backends) (fun _ => rfl) none
  | size =>
      have sizes : session.backend.store.size = other.backend.store.size := by
        rw [← Store.size_masked (hide made) session.backend.store,
          ← Store.size_masked (hide made) other.backend.store]
        exact congrArg (fun backend => backend.store.size) backends
      simp only [step, sizes]
      exact after_same sameBase (untouched_same id _ _ backends) (fun _ => rfl) none
  | createSchema =>
      have created : Backend.masked (hide made)
            { session.backend with store := session.backend.store.createSchema } =
          Backend.masked (hide made)
            { other.backend with store := other.backend.store.createSchema } := by
        rw [Backend.createSchema_masked, Backend.createSchema_masked, backends]
      exact after_same sameBase (untouched_same id (.ok ()) [] created) (fun _ => rfl) none
  | plant operation ambush =>
      have planted : (session.backend.ambush operation ambush).masked (hide made) =
          (other.backend.ambush operation ambush).masked (hide made) := by
        rw [Backend.ambush_masked, Backend.ambush_masked, backends]
      exact after_same sameBase (untouched_same id (.ok ()) [] planted) (fun _ => rfl) none

/-! ## Runs -/

variable {base : String} {transcript others : List (Step × Entry)} {steps : List Step}

/-- What a mask does not change in a record is the same in records that are the same but for
passwords. -/
theorem SameButPasswords.map_eq {Seen : Type} (see : Entry → Seen)
    (blind : ∀ mask entry, see (Entry.masked mask entry) = see entry)
    (same : SameButPasswords base made transcript others) :
    (transcript.map Prod.snd).map see = (others.map Prod.snd).map see := by
  induction same with
  | nil made => rfl
  | cons same restSame ih =>
      rw [List.map_cons, List.map_cons, List.map_cons, List.map_cons, ih, ← blind _, same, blind]

theorem run_same (alike : session.masked (hide made) = other.masked (hide made))
    (named : ∀ step ∈ steps, ∀ identity, step.identity? session.base = some identity →
      identity.username ≠ []) :
    SameButPasswords session.base made (session.transcript steps) (other.transcript steps) := by
  induction steps generalizing session other made with
  | nil => exact .nil made
  | cons first rest ih =>
      have same := step_same alike (named first List.mem_cons_self)
      have sameBase := step_base session first
      rw [transcript_cons, transcript_cons]
      apply SameButPasswords.cons same.entry
      rw [← sameBase]
      apply ih (sameBase ▸ same.session)
      intro step stepMem
      rw [sameBase]
      exact named step (List.mem_cons_of_mem _ stepMem)

/-- Over any steps whose asserted identities are named, a session and the same session on other
randomness answer and store the same but for the passwords of the users that logins and
reconciliations have made.  In particular they log the same, request the same, and fail at the same
steps in the same way. -/
theorem randomness_confined_to_passwords (session : Session) (random : RandomSource)
    {steps : List Step}
    (named : ∀ step ∈ steps, ∀ identity, step.identity? session.base = some identity →
      identity.username ≠ []) :
    let other : Session := { session with backend := { session.backend with random } }
    let records := (session.run steps).2
    let otherRecords := (other.run steps).2
    SameButPasswords session.base [] (session.transcript steps) (other.transcript steps) ∧
      records.map Entry.events = otherRecords.map Entry.events ∧
      records.map Entry.requests = otherRecords.map Entry.requests ∧
      (records.map fun entry => entry.result.map fun _ => ()) =
        otherRecords.map fun entry => entry.result.map fun _ => () := by
  intro other records otherRecords
  have same : SameButPasswords session.base [] (session.transcript steps)
      (other.transcript steps) := run_same rfl named
  have seenAlike {Seen : Type} (see : Entry → Seen)
      (blind : ∀ mask entry, see (Entry.masked mask entry) = see entry) :
      records.map see = otherRecords.map see := by
    have mapped := same.map_eq see blind
    rwa [map_snd_transcript, map_snd_transcript] at mapped
  refine ⟨same, seenAlike _ fun _ _ => rfl, seenAlike _ fun _ _ => rfl, seenAlike _ ?_⟩
  intro mask entry
  cases result : entry.result <;> simp only [Entry.masked, result, Except.map]

end

section

open scoped Platform

/-- A reconciliation and a login that make users, a user that is made directly, a new name and two
look-ups.  What the first of them stores is not the same on other randomness. -/
theorem enrollments_differ_in_passwords :
    let user := "\x7b\"uid\": \"v\", \"username\": \"m\"\x7d"
    let status := "\x7b\"authenticated\": true, \"user\": " ++ user ++ "\x7d"
    let body := Text.Utf8.encode ("\x7b\"status\": " ++ status ++ "\x7d")
    let session := start "http://verify.example.com" Kind.database.empty (.arithmetic 0)
    let other : Session :=
      { session with backend := { session.backend with random := .arithmetic 1 } }
    let steps : List Step := [.reconcile { uid := "u", username := "n" } .unnamed,
      .login ⟨.named "alice", "secret"⟩ (.response 200 body),
      .create { federationKey := "w", username := "o", email := "w@example.com" },
      .reconcile { uid := "u", username := "p" } .unnamed, .find "v", .find "w"]
    (∀ step ∈ steps, ∀ identity, step.identity? session.base = some identity →
        identity.username ≠ []) ∧
      SameButPasswords session.base [] (session.transcript steps) (other.transcript steps) ∧
      (session.run steps).2[0]?.bind Entry.rows ≠ (other.run steps).2[0]?.bind Entry.rows := by
  intro user status body session other steps
  have verified : (Verification.verify session.base ⟨.named "alice", "secret"⟩
      (.response 200 body)).result = .ok { uid := "v", username := "m" } := by
    decide +kernel
  have named : ∀ step ∈ steps, ∀ identity, step.identity? session.base = some identity →
      identity.username ≠ [] := by
    simp [steps, Step.identity?, verified, Except.toOption, CodePoint.ofText]
  exact ⟨named, (randomness_confined_to_passwords session (.arithmetic 1) named).1,
    by decide +kernel⟩

end

end Session

end FederatedLogin
