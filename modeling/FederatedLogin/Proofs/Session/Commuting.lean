import FederatedLogin.Platform.Standard
import FederatedLogin.Proofs.Login.Settled
import FederatedLogin.Proofs.Session.Tableless

/-!
# Logins for different uids commute

Two logins for different uids may be made in either order.  If both succeed in both orders, the same
rows stand afterwards, but for the identifiers and the passwords of rows that are new; and where
both users were there before, nothing at all tells one order from the other.

A login settles the row under its own uid from what stands there, and the other login does not touch
that.  So the orders need not be compared branch by branch, only under each federation key.
-/

namespace FederatedLogin

open FederatedLogin.Store FederatedLogin.Text

/-- Rows show the same under every federation key, and are the same under those that were taken
earlier. -/
structure Store.SameByKey (earlier rows others : List Row) : Prop where
  faces : ∀ key, (rowUnder? rows key).map Row.face = (rowUnder? others key).map Row.face
  kept : ∀ key, KeyTaken earlier key → rowUnder? rows key = rowUnder? others key

/-! ## Rows -/

namespace Settled

variable {identity one other : Identity} {rows others after othersAfter : List Row}
  {answer another : Row}

/-- What a login comes to where its user is known depends on the row of that user only. -/
theorem answer_eq (settled : Settled rows identity answer after)
    (settledToo : Settled others identity another othersAfter)
    (same : rowUnder? rows identity.uid = rowUnder? others identity.uid)
    (taken : KeyTaken rows identity.uid) : answer = another := by
  obtain ⟨row, present⟩ := Option.ne_none_iff_exists'.mp (keyTaken_iff.mp taken)
  rw [settled.known row present, settledToo.known row (same.symm.trans present)]

/-- What a login shows in the end depends on what stands under its uid only. -/
theorem face_eq (settled : Settled rows identity answer after)
    (settledToo : Settled others identity another othersAfter)
    (same : rowUnder? rows identity.uid = rowUnder? others identity.uid) :
    answer.face = another.face := by
  by_cases taken : KeyTaken rows identity.uid
  · rw [settled.answer_eq settledToo same taken]
  · have absent : rowUnder? rows identity.uid = none := not_not.mp (mt keyTaken_iff.mpr taken)
    rw [settled.made absent, settledToo.made (same.symm.trans absent)]

variable {afterOne last afterOther lastSwapped : List Row} {oneFirst otherSecond otherFirst
  oneSecond : Row}

/-- What neither of two logins is for stays as it was. -/
theorem elsewhere_twice (first : Settled rows one oneFirst afterOne)
    (second : Settled afterOne other otherSecond last) {key : CodeString} (notOne : one.uid ≠ key)
    (notOther : other.uid ≠ key) : rowUnder? last key = rowUnder? rows key := by
  rw [second.elsewhere key notOther, first.elsewhere key notOne]

/-- Two logins for different uids show the same in either order. -/
theorem sameByKey (apart : one.uid ≠ other.uid)
    (first : Settled rows one oneFirst afterOne)
    (second : Settled afterOne other otherSecond last)
    (firstSwapped : Settled rows other otherFirst afterOther)
    (secondSwapped : Settled afterOther one oneSecond lastSwapped) :
    SameByKey rows last lastSwapped := by
  -- Each login finds under its uid what stood there before either of them.
  have oneFinds : rowUnder? rows one.uid = rowUnder? afterOther one.uid :=
    (firstSwapped.elsewhere _ apart.symm).symm
  have otherFinds : rowUnder? rows other.uid = rowUnder? afterOne other.uid :=
    (first.elsewhere _ apart).symm
  have oneLast : rowUnder? last one.uid = some oneFirst :=
    (second.elsewhere _ apart.symm).trans first.own
  have otherLast : rowUnder? lastSwapped other.uid = some otherFirst :=
    (secondSwapped.elsewhere _ apart).trans firstSwapped.own
  have sameElsewhere (key : CodeString) (notOne : one.uid ≠ key) (notOther : other.uid ≠ key) :
      rowUnder? last key = rowUnder? lastSwapped key :=
    (first.elsewhere_twice second notOne notOther).trans
      (firstSwapped.elsewhere_twice secondSwapped notOther notOne).symm
  constructor
  · intro key
    by_cases isOne : one.uid = key
    · subst isOne
      rw [oneLast, secondSwapped.own, Option.map_some, Option.map_some,
        first.face_eq secondSwapped oneFinds]
    · by_cases isOther : other.uid = key
      · subst isOther
        rw [otherLast, second.own, Option.map_some, Option.map_some,
          firstSwapped.face_eq second otherFinds]
      · rw [sameElsewhere key isOne isOther]
  · intro key taken
    by_cases isOne : one.uid = key
    · subst isOne
      rw [oneLast, secondSwapped.own, first.answer_eq secondSwapped oneFinds taken]
    · by_cases isOther : other.uid = key
      · subst isOther
        rw [otherLast, second.own, firstSwapped.answer_eq second otherFinds taken]
      · exact sameElsewhere key isOne isOther

/-- Where both users are known, both orders end in the same rows and the same answers. -/
theorem same_of_taken (apart : one.uid ≠ other.uid)
    (first : Settled rows one oneFirst afterOne)
    (second : Settled afterOne other otherSecond last)
    (firstSwapped : Settled rows other otherFirst afterOther)
    (secondSwapped : Settled afterOther one oneSecond lastSwapped)
    (oneTaken : KeyTaken rows one.uid) (otherTaken : KeyTaken rows other.uid) :
    last = lastSwapped ∧ oneFirst = oneSecond ∧ otherFirst = otherSecond := by
  have same := sameByKey apart first second firstSwapped secondSwapped
  refine ⟨second.orderly.eq_of_rowUnder? secondSwapped.orderly fun key => ?_, ?_, ?_⟩
  · by_cases taken : KeyTaken rows key
    · exact same.kept key taken
    · have notOne : one.uid ≠ key := by
        rintro rfl
        exact taken oneTaken
      have notOther : other.uid ≠ key := by
        rintro rfl
        exact taken otherTaken
      rw [first.elsewhere_twice second notOne notOther,
        firstSwapped.elsewhere_twice secondSwapped notOther notOne]
  · exact first.answer_eq secondSwapped (firstSwapped.elsewhere _ apart.symm).symm oneTaken
  · exact firstSwapped.answer_eq second (first.elsewhere _ apart).symm otherTaken

end Settled

/-! ## Sessions -/

namespace Session

section

variable [Platform] {session : Session} {rows : List Row}

/-- A login or reconciliation that succeeds is a reconciliation that returns the user. -/
theorem reconciled_of_isOk {step : Step} {identity : Identity}
    (asserted : step.identity? session.base = some identity)
    (succeeded : (session.step step).2.result.isOk) :
    ∃ principal user, let reconciled := reconcile identity principal session.backend
      (session.step step).1 = { session with backend := reconciled.backend } ∧
        reconciled.result = .ok user ∧ (session.step step).2.result = .ok (.user user) := by
  obtain ⟨principal, next_eq, result_eq⟩ := step_of_identity? asserted
  rw [result_eq] at succeeded ⊢
  cases ended : (reconcile identity principal session.backend).result with
  | error failure =>
      rw [ended] at succeeded
      cases succeeded
  | ok user => exact ⟨principal, user, next_eq, ended, rfl⟩

/-- A login or reconciliation that succeeds settles its row and answers with it. -/
theorem step_settles (inOrder : session.backend.InOrder rows) {step : Step} {identity : Identity}
    (asserted : step.identity? session.base = some identity) (named : identity.username ≠ [])
    (succeeded : (session.step step).2.result.isOk) :
    ∃ after answer, (session.step step).1.backend.InOrder after ∧
      (session.step step).2.result = .ok (.user answer.toUser) ∧
      Settled rows identity answer after := by
  obtain ⟨principal, user, next_eq, ended, answered⟩ := reconciled_of_isOk asserted succeeded
  obtain ⟨after, answer, afterInOrder, rfl, settled⟩ := settled_of_reconcile inOrder named ended
  refine ⟨after, answer, ?_, answered, settled⟩
  simpa only [next_eq] using afterInOrder

/-- Two logins that both succeed settle their rows one after the other. -/
theorem run_settles (inOrder : session.backend.InOrder rows) {first second : Step}
    {one other : Identity} (oneAsserted : first.identity? session.base = some one)
    (otherAsserted : second.identity? session.base = some other)
    (oneNamed : one.username ≠ []) (otherNamed : other.username ≠ [])
    (succeeded : ∀ entry ∈ (session.run [first, second]).2, entry.result.isOk) :
    ∃ afterOne oneAnswer last otherAnswer,
      (session.run [first, second]).1.backend.store.rows = some last ∧
      (session.run [first, second]).2.map Entry.result =
        [.ok (.user oneAnswer.toUser), .ok (.user otherAnswer.toUser)] ∧
      Settled rows one oneAnswer afterOne ∧ Settled afterOne other otherAnswer last := by
  simp only [run_cons, List.forall_mem_cons] at succeeded
  obtain ⟨firstSucceeded, secondSucceeded, _⟩ := succeeded
  obtain ⟨afterOne, oneAnswer, afterInOrder, oneResult, oneSettled⟩ :=
    step_settles inOrder oneAsserted oneNamed firstSucceeded
  obtain ⟨last, otherAnswer, lastInOrder, otherResult, otherSettled⟩ :=
    step_settles afterInOrder (step_base session first ▸ otherAsserted) otherNamed secondSucceeded
  refine ⟨afterOne, oneAnswer, last, otherAnswer, lastInOrder.keeps.rows_eq, ?_, oneSettled,
    otherSettled⟩
  rw [run_cons, run_cons, List.map_cons, List.map_cons, oneResult, otherResult]
  rfl

/-- Two logins or reconciliations for different uids, under names, may be made in either order at
every point.  If both succeed in both orders, the same rows stand at the end under each federation
key, but for the identifier and the password of a row whose key was free before.  If both users were
there before, the rows are the very same, and each of the two answers the same in both orders. -/
theorem independent_logins_commute (reachable : session.Reachable) {first second : Step}
    {one other : Identity}
    (oneAsserted : first.identity? session.base = some one)
    (otherAsserted : second.identity? session.base = some other) (apart : one.uid ≠ other.uid)
    (oneNamed : one.username ≠ []) (otherNamed : other.username ≠ [])
    (succeeded : ∀ entry ∈ (session.run [first, second]).2, entry.result.isOk)
    (succeededSwapped : ∀ entry ∈ (session.run [second, first]).2, entry.result.isOk) :
    ∃ rows last lastSwapped, session.backend.store.rows = some rows ∧
      (session.run [first, second]).1.backend.store.rows = some last ∧
      (session.run [second, first]).1.backend.store.rows = some lastSwapped ∧
      SameByKey rows last lastSwapped ∧
      (KeyTaken rows one.uid → KeyTaken rows other.uid →
        last = lastSwapped ∧
          (session.run [first, second]).2.map Entry.result =
            ((session.run [second, first]).2.map Entry.result).reverse) := by
  rcases reachable.inOrder_or_tableless with tableless | ⟨rows, inOrder⟩
  · -- Without a table not even the first of them succeeds.
    obtain ⟨principal, user, _, ended, _⟩ :=
      reconciled_of_isOk oneAsserted (succeeded _ List.mem_cons_self)
    exact absurd ended (tableless.reconcile_refused one principal user)
  · obtain ⟨_, _, last, _, last_eq, results, oneFirst, otherSecond⟩ :=
      run_settles inOrder oneAsserted otherAsserted oneNamed otherNamed succeeded
    obtain ⟨_, _, lastSwapped, _, swapped_eq, swappedResults, otherFirst, oneSecond⟩ :=
      run_settles inOrder otherAsserted oneAsserted otherNamed oneNamed succeededSwapped
    refine ⟨rows, last, lastSwapped, inOrder.keeps.rows_eq, last_eq, swapped_eq,
      Settled.sameByKey apart oneFirst otherSecond otherFirst oneSecond, ?_⟩
    intro oneTaken otherTaken
    obtain ⟨sameLast, sameOne, sameOther⟩ :=
      Settled.same_of_taken apart oneFirst otherSecond otherFirst oneSecond oneTaken otherTaken
    refine ⟨sameLast, ?_⟩
    rw [results, swappedResults, sameOne, sameOther]
    rfl

end

section

open scoped Platform

/-- Somebody with an e-mail of its own gives up a name, and somebody else takes it, and with it
another placeholder. -/
theorem renamed_users_commute :
    let owner : User := { federationKey := "u", username := "n", email := "n@example.com" }
    let other : User := { federationKey := "v", username := "m", email := "m@placeholder.local" }
    let session := ((start "http://verify.example.com" Kind.database.empty
      (RandomSource.arithmetic 0)).run [.create owner, .create other]).1
    let first : Step := .reconcile { uid := "u", username := "k" } .unnamed
    let second : Step := .reconcile { uid := "v", username := "n" } .unnamed
    session.Reachable ∧ (∀ entry ∈ (session.run [first, second]).2, entry.result.isOk) ∧
      (∀ entry ∈ (session.run [second, first]).2, entry.result.isOk) ∧
      (session.run [first, second]).1.backend.store.rows =
        (session.run [second, first]).1.backend.store.rows ∧
      (session.run [first, second]).2.map Entry.result =
        ((session.run [second, first]).2.map Entry.result).reverse := by
  intro owner other session first second
  have reachable : session.Reachable := ⟨_, _, _, _, .empty .database, rfl⟩
  have rows_eq : session.backend.store.rows = some [Row.ofUser 1 owner, Row.ofUser 2 other] := rfl
  have ownerAsserted : first.identity? session.base = some { uid := "u", username := "k" } := rfl
  have otherAsserted : second.identity? session.base = some { uid := "v", username := "n" } := rfl
  have succeeded : ∀ entry ∈ (session.run [first, second]).2, entry.result.isOk := by
    decide +kernel
  have succeededSwapped : ∀ entry ∈ (session.run [second, first]).2, entry.result.isOk := by
    decide +kernel
  obtain ⟨rows, last, lastSwapped, isRows, last_eq, swapped_eq, _, same⟩ :=
    independent_logins_commute reachable ownerAsserted otherAsserted (by decide) (by decide)
      (by decide) succeeded succeededSwapped
  rw [rows_eq, Option.some.injEq] at isRows
  obtain ⟨sameRows, sameAnswers⟩ := same (isRows ▸ ⟨_, List.mem_cons_self, rfl⟩)
    (isRows ▸ ⟨_, List.mem_cons_of_mem _ List.mem_cons_self, rfl⟩)
  exact ⟨reachable, succeeded, succeededSwapped, by rw [last_eq, swapped_eq, sameRows],
    sameAnswers⟩

end

end Session

end FederatedLogin
