import FederatedLogin.Proofs.Session.Advance

/-!
# Identities stay apart

Over any run, whatever is logged in, written directly or made to fail, a row that is stored stays
with its permanent part, no two rows share a federation key or an e-mail, and two logins answer with
one identifier exactly when they are for one uid.

The proof carries the rows of the last state along: every user that was ever returned is held by
one of them, and there a federation key and an identifier name the same row.
-/

namespace FederatedLogin.Session

open FederatedLogin.Store

/-- A record shows rows that continue those of an earlier record. -/
def Entry.Continues (later earlier : Entry) : Prop :=
  ∃ new old, later.rows = some new ∧ earlier.rows = some old ∧ Store.Continues new old

variable [Platform]

/-- What the transcript of a run from some rows to others shows. -/
structure Recorded (base : String) (transcript : List (Step × Entry)) (rows last : List Row) :
    Prop where
  shown : ∀ record ∈ transcript, ∃ shown, record.2.rows = some shown ∧ Orderly shown ∧
    Store.Continues shown rows
  lasting : transcript.Pairwise fun earlier later => later.2.Continues earlier.2
  held : ∀ record ∈ transcript, ∀ {uid user}, record.2.Resolves base record.1 uid user →
    ∃ row ∈ last, row.federationKey = uid ∧ user.id = some (row.id : Int)

variable {session : Session} {rows : List Row}

omit [Platform] in
/-- A user held by one of some rows is held by one of the rows that continue them. -/
theorem held_of_continues {last : List Row} (continues : Store.Continues last rows) {row : Row}
    (rowMem : row ∈ rows) : ∃ kept ∈ last,
      kept.federationKey = row.federationKey ∧ row.toUser.id = some (kept.id : Int) := by
  obtain ⟨kept, keptMem, same⟩ := continues.exists_of_mem rowMem
  simp only [Row.permanent, Prod.mk.injEq] at same
  obtain ⟨sameId, sameKey, _⟩ := same
  exact ⟨kept, keptMem, sameKey, by rw [sameId]; rfl⟩

/-- What every run in order records. -/
theorem run_recorded (inOrder : session.backend.InOrder rows) (steps : List Step) :
    ∃ last, (session.run steps).1.backend.InOrder last ∧ Store.Continues last rows ∧
      Recorded session.base (session.transcript steps) rows last := by
  -- The rows of the last state have to serve all records, so they come from the induction and the
  -- first record is carried over to them.
  induction steps generalizing session rows with
  | nil =>
      refine ⟨rows, inOrder, Continues.refl rows, ?_, List.Pairwise.nil, ?_⟩
      · intro record recordMem
        cases recordMem
      · intro record recordMem
        cases recordMem
  | cons first rest ih =>
      obtain ⟨after, afterInOrder, advance⟩ := step_advances inOrder first
      obtain ⟨last, lastInOrder, continues, recorded⟩ := ih afterInOrder
      rw [step_base] at recorded
      refine ⟨last, lastInOrder, continues.trans advance.continues, ?_⟩
      rw [transcript_cons]
      refine ⟨?_, List.pairwise_cons.mpr ⟨?_, recorded.lasting⟩, ?_⟩
      · intro record recordMem
        rcases List.mem_cons.mp recordMem with rfl | inRest
        · exact ⟨after, advance.rows_eq, afterInOrder.keeps.orderly, advance.continues⟩
        · obtain ⟨shown, rows_eq, orderly, shownContinues⟩ := recorded.shown record inRest
          exact ⟨shown, rows_eq, orderly, shownContinues.trans advance.continues⟩
      · intro record inRest
        obtain ⟨shown, rows_eq, _, shownContinues⟩ := recorded.shown record inRest
        exact ⟨shown, after, rows_eq, advance.rows_eq, shownContinues⟩
      · intro record recordMem uid user resolves
        rcases List.mem_cons.mp recordMem with rfl | inRest
        · obtain ⟨row, rowMem, key, rfl⟩ := advance.exists_row resolves
          obtain ⟨kept, keptMem, sameKey, sameId⟩ := held_of_continues continues rowMem
          exact ⟨kept, keptMem, sameKey.trans key, sameId⟩
        · exact recorded.held record inRest resolves

/-- Over any run from the empty store, the rows at every point are orderly and continue those at
every earlier point, and any two users that logins or reconciliations return have one identifier
exactly when the uids are the same. -/
theorem identities_stay_apart (base : String) (kind : Kind) (random : RandomSource)
    (steps : List Step) :
    let session := start base kind.empty random
    (∀ entry ∈ (session.run steps).2, ∃ rows, entry.rows = some rows ∧ Orderly rows) ∧
      (session.run steps).2.Pairwise (fun earlier later => later.Continues earlier) ∧
      ∀ first ∈ session.transcript steps, ∀ second ∈ session.transcript steps,
        ∀ uid user other another, first.2.Resolves base first.1 uid user →
          second.2.Resolves base second.1 other another →
          (user.id = another.id ↔ uid = other) := by
  intro session
  obtain ⟨last, lastInOrder, _, recorded⟩ := run_recorded (start_inOrder base kind random) steps
  have orderly := lastInOrder.keeps.orderly
  refine ⟨?_, ?_, ?_⟩
  · intro entry entryMem
    rw [← map_snd_transcript] at entryMem
    obtain ⟨record, recordMem, rfl⟩ := List.mem_map.mp entryMem
    obtain ⟨shown, rows_eq, shownOrderly, _⟩ := recorded.shown record recordMem
    exact ⟨shown, rows_eq, shownOrderly⟩
  · rw [← map_snd_transcript, List.pairwise_map]
    exact recorded.lasting
  · intro first firstMem second secondMem uid user other another firstResolves secondResolves
    obtain ⟨row, rowMem, rfl, userId⟩ := recorded.held first firstMem firstResolves
    obtain ⟨otherRow, otherMem, rfl, anotherId⟩ := recorded.held second secondMem secondResolves
    rw [userId, anotherId, Option.some.injEq]
    constructor
    · intro sameId
      rw [orderly.eq_of_id rowMem otherMem (Int.ofNat.inj sameId)]
    · intro sameKey
      rw [orderly.eq_of_key rowMem otherMem sameKey]

end FederatedLogin.Session
