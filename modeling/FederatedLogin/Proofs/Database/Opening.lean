import FederatedLogin.Database.Opening
import FederatedLogin.Proofs.Files.Directories
import FederatedLogin.Proofs.Login.Blame

/-!
# What opening a database leaves behind

Opening a database in a file puts the database in its place and takes its journals away.  Nothing
else happens to the files: the directories stay the same, and what stands under another path
afterwards stood there before.
-/

namespace FederatedLogin.OpenDatabase

open FederatedLogin.Text

variable {found left last : Files} {place : FilePath}

/-- Files with some file at a place, which differ from those that were found only there and by what
is missing. -/
structure Holding (found left : Files) (place : FilePath) : Prop where
  directories : left.SameDirectories found
  present : ∃ content, left.content? place = some content ∧ content ≠ .directory
  elsewhere : ∀ {path content}, path ≠ place → left.content? path = some content →
    found.content? path = some content

namespace Holding

/-- The file is written over. -/
theorem put (holding : Holding found left place) {content : FileContent}
    (written : content ≠ .directory) : Holding found (left.put place content) place where
  directories := by
    obtain ⟨old, present, isFile⟩ := holding.present
    have overwritten : left.content? place ≠ some .directory := by
      rw [present]
      simpa using isFile
    exact (Files.sameDirectories_put written overwritten
      (.inl (Option.isSome_of_eq_some present))).trans holding.directories
  present := ⟨content, by rw [Files.content?_put, if_pos rfl], written⟩
  elsewhere {path _} different here := by
    rw [Files.content?_put, if_neg different] at here
    exact holding.elsewhere different here

/-- A file beside it is taken away. -/
theorem remove (holding : Holding found left place) {beside : FilePath}
    (different : beside ≠ place) (sameAbove : beside.dropLast = place.dropLast)
    (noDirectory : found.isDirectory beside = false) :
    Holding found (left.remove beside) place where
  directories := by
    obtain ⟨content, present, _⟩ := holding.present
    have stillNoDirectory : left.isDirectory beside = false := by
      rw [holding.directories.isDirectory, noDirectory]
    exact (Files.sameDirectories_remove place stillNoDirectory (Option.isSome_of_eq_some present)
      different.symm sameAbove.symm).trans holding.directories
  present := by
    obtain ⟨content, present, isFile⟩ := holding.present
    exact ⟨content, by rw [Files.content?_remove, if_neg different.symm, present], isFile⟩
  elsewhere {path _} away here := by
    rw [Files.content?_remove] at here
    by_cases removed : path = beside
    · rw [if_pos removed] at here
      cases here
    · rw [if_neg removed] at here
      exact holding.elsewhere away here

end Holding

/-! ## The steps of an opening -/

theorem dropLast_journal (place : FilePath) (ending : String) :
    (journal place ending).dropLast = place.dropLast := by
  rw [journal, List.dropLast_concat]

/-- A journal is not its database. -/
theorem journal_ne {ending : String} (marked : Utf8.encode ending ≠ []) :
    journal place ending ≠ place := by
  intro same
  by_cases root : place = []
  · subst root
    cases same
  · have named : place.dropLast ++ [place.getLast root] = place := List.dropLast_concat_getLast root
    rw [journal, List.getLastD_eq_getLast?, List.getLast?_eq_some_getLast root] at same
    have sameName := List.append_cancel_left (same.trans named.symm)
    simp only [Option.getD_some, List.cons.injEq, and_true] at sameName
    exact marked (List.append_right_eq_self.mp sameName)

theorem Holding.withoutJournals (holding : Holding found left place)
    (clear : journalEndings.all fun ending => !left.isDirectory (journal place ending)) :
    Holding found (withoutJournals left place) place := by
  simp only [journalEndings, holding.directories.isDirectory, List.all_cons, List.all_nil,
    Bool.and_true, Bool.and_eq_true, Bool.not_eq_true'] at clear
  have first := holding.remove (journal_ne (by decide)) (dropLast_journal place "-journal") clear.1
  exact first.remove (journal_ne (by decide)) (dropLast_journal place "-wal") clear.2

theorem content?_withoutJournals (files : Files) (place : FilePath) :
    (OpenDatabase.withoutJournals files place).content? place = files.content? place := by
  have away : ∀ ending ∈ journalEndings, place ≠ journal place ending := by
    intro ending endingMem
    refine (journal_ne ?_).symm
    revert ending
    decide
  simp only [OpenDatabase.withoutJournals, journalEndings, List.foldl_cons, List.foldl_nil]
  rw [Files.content?_remove, if_neg (away _ (by decide)), Files.content?_remove,
    if_neg (away _ (by decide))]

/-- A file that is a database or can become one is there, or a directory is ready for it. -/
theorem holding_of_tableIn? {mode : FileMode} {table : Option Store.Table}
    (usable : tableIn? found place mode = some table) :
    Holding found (if (found.content? place).isSome then found else found.put place (.text ""))
      place := by
  rw [tableIn?] at usable
  cases here : found.content? place with
  | some content =>
      rw [if_pos (by simp)]
      refine ⟨.refl found, ⟨content, here, ?_⟩, fun _ same => same⟩
      rintro rfl
      rw [here] at usable
      cases usable
  | none =>
      simp only [here] at usable
      have ready : found.isDirectory place.dropLast := by
        rw [Option.ite_none_right_eq_some] at usable
        exact usable.1.2.2
      rw [if_neg (by simp)]
      refine ⟨Files.sameDirectories_put nofun (by rw [here]; exact nofun) (.inr ready),
        ⟨.text "", by rw [Files.content?_put, if_pos rfl], nofun⟩, ?_⟩
      intro path content different present
      rwa [Files.content?_put, if_neg different] at present

/-- What is left at the point where the journals have been looked at. -/
theorem Holding.cleared (holding : Holding found left place) (target : DatabaseTarget)
    {hasTable : Bool} (settled : ¬ (!(target.isImmutable || isClear left place
      (target.mode != .readOnly && !target.isImmutable) hasTable)) = true) :
    let cleared := if (target.mode != .readOnly && !target.isImmutable) = true then
      OpenDatabase.withoutJournals left place else left
    Holding found cleared place ∧ cleared.content? place = left.content? place := by
  intro cleared
  by_cases writable : (target.mode != .readOnly && !target.isImmutable) = true
  · have isCleared : cleared = OpenDatabase.withoutJournals left place := if_pos writable
    rw [isCleared]
    refine ⟨holding.withoutJournals ?_, content?_withoutJournals left place⟩
    simp only [Bool.and_eq_true, Bool.not_eq_true'] at writable
    simp only [writable.2, Bool.false_or, Bool.not_eq_true', Bool.not_eq_false] at settled
    rw [isClear, Bool.and_eq_true] at settled
    exact settled.1
  · have isLeft : cleared = left := if_neg writable
    rw [isLeft]
    exact ⟨holding, rfl⟩

/-! ## Openings -/

/-- What files are left when a database is open: those that were found, if it is in memory, or else
files with the database in its place. -/
inductive Leaves (found : Files) : Files → OpenDatabase → Prop where
  | memory (opened : OpenDatabase) (placeless : opened.place = none) : Leaves found found opened
  | file (left : Files) (opened : OpenDatabase) (place : FilePath)
      (placed : opened.place = some place) (holding : Holding found left place)
      (kept : left.content? place = some (.database opened.table)) : Leaves found left opened

/-- The table of a database that is open was there before, or is empty. -/
def Finds (found : Files) (opened : OpenDatabase) : Prop :=
  (∃ place, found.content? place = some (.database opened.table)) ∨ opened.table = .empty

variable {target : DatabaseTarget} {access : Access} {opened : OpenDatabase}

/-- A database that is there already is kept as it is. -/
theorem content?_of_tableIn? {mode : FileMode} {table : Store.Table}
    (usable : tableIn? found place mode = some (some table)) :
    found.content? place = some (.database table) := by
  rw [tableIn?] at usable
  cases here : found.content? place with
  | none =>
      simp only [here] at usable
      rw [Option.ite_none_right_eq_some] at usable
      exact nomatch usable.2
  | some content =>
      cases content with
      | directory =>
          rw [here] at usable
          cases usable
      | text source =>
          simp only [here] at usable
          rw [Option.ite_none_right_eq_some] at usable
          exact nomatch usable.2
      | database other =>
          rw [here] at usable
          cases usable
          rfl

theorem inFile_opens (isOpen : inFile found target access = (left, some opened)) :
    Leaves found left opened ∧ Finds found opened := by
  rw [inFile] at isOpen
  cases located : place? found target.path with
  | none => simp [located] at isOpen
  | some place =>
      simp only [located] at isOpen
      cases usable : tableIn? found place target.mode with
      | none => simp [usable] at isOpen
      | some table =>
          have made := holding_of_tableIn? usable
          have kept : ∀ stored, table = some stored →
              (if (found.content? place).isSome then found
                else found.put place (.text "")).content? place = some (.database stored) := by
            rintro stored rfl
            have here := content?_of_tableIn? usable
            rw [here, if_pos (by simp), here]
          simp only [usable] at isOpen
          generalize (if (found.content? place).isSome then found else found.put place (.text "")) =
            created at made kept isOpen
          split at isOpen
          · cases isOpen
          · split at isOpen
            · cases isOpen
            · next settled =>
                have cleared := made.cleared target settled
                cases table with
                | some stored =>
                    cases isOpen
                    refine ⟨.file _ _ place rfl cleared.1 ?_, .inl ⟨place, ?_⟩⟩
                    · rw [cleared.2, kept stored rfl]
                    · exact content?_of_tableIn? usable
                | none =>
                    simp only at isOpen
                    split at isOpen
                    · cases isOpen
                      exact ⟨.file _ _ place rfl (cleared.1.put nofun)
                        (by rw [Files.content?_put, if_pos rfl]), .inr rfl⟩
                    · cases isOpen

theorem ofTarget_opens (isOpen : ofTarget found target access = (left, some opened)) :
    Leaves found left opened ∧ Finds found opened := by
  rw [ofTarget] at isOpen
  split at isOpen
  · simp only [Prod.mk.injEq, Option.ite_none_right_eq_some, Option.some.injEq] at isOpen
    obtain ⟨rfl, _, rfl⟩ := isOpen
    exact ⟨.memory _ rfl, .inr rfl⟩
  · exact inFile_opens isOpen

end FederatedLogin.OpenDatabase

namespace FederatedLogin.Connection

variable {connection : Connection} {found left : Files}

/-- A connection that is made opens a database. -/
theorem connect_opens {opened : OpenDatabase}
    (connected : connection.connect found = (left, .ok opened)) :
    OpenDatabase.Leaves found left opened ∧ OpenDatabase.Finds found opened := by
  rw [connect] at connected
  split at connected
  · cases connected
  · split at connected
    · cases connected
    · simp only at connected
      split at connected
      · next isOpen =>
          cases connected
          exact OpenDatabase.ofTarget_opens isOpen
      · cases connected

/-- A connection that is made leaves what the opening of its database leaves. -/
theorem connect_leaves {opened : OpenDatabase}
    (connected : connection.connect found = (left, .ok opened)) :
    OpenDatabase.Leaves found left opened :=
  (connect_opens connected).1

/-- A connection that is not made has nothing to do with the configuration: what it is to was read
off the address already. -/
theorem connect_blameless {failure : Failure}
    (refused : connection.connect found = (left, .error failure)) :
    failure.isConfiguration = false := by
  rw [connect] at refused
  split at refused
  · cases refused
    rfl
  · split at refused
    · cases refused
      rfl
    · simp only at refused
      split at refused
      · cases refused
      · cases refused
        rfl

end FederatedLogin.Connection
