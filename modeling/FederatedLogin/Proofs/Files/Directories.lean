import FederatedLogin.Files

/-!
# Directories

A path is a directory because of what stands under it, because of the working directory, or because
something stands below it.  A file that is written or taken away in a directory that stays does not
change which paths are directories, so every other path leads where it led before.
-/

namespace FederatedLogin.Files

open FederatedLogin.Text

variable {files other : Files} {path place : FilePath}

/-! ## Contents -/

theorem content?_remove (files : Files) (path place : FilePath) :
    (files.remove path).content? place = if place = path then none else files.content? place := by
  obtain ⟨entries, workingDirectory⟩ := files
  simp only [content?, remove]
  induction entries with
  | nil => simp
  | cons entry rest ih =>
      obtain ⟨key, content⟩ := entry
      by_cases removed : key = path
      · subst removed
        by_cases same : place = key
        · simpa [same] using ih
        · simpa [same, List.lookup_cons, beq_false_of_ne same] using ih
      · by_cases same : place = key
        · subst same
          simp [removed]
        · simpa [removed, List.lookup_cons, beq_false_of_ne same] using ih

theorem content?_put (files : Files) (path : FilePath) (content : FileContent)
    (place : FilePath) : (files.put path content).content? place =
      if place = path then some content else files.content? place := by
  have removed := content?_remove files path place
  simp only [content?] at removed
  simp only [content?, put, List.lookup_append, removed]
  by_cases same : place = path
  · simp [same]
  · simp [same, List.lookup_cons, beq_false_of_ne same]

/-- Something that stands under a path is among the entries. -/
theorem exists_entry_of_content? (present : (files.content? path).isSome) :
    ∃ entry ∈ files.entries, entry.1 = path := by
  obtain ⟨content, found⟩ := Option.isSome_iff_exists.mp present
  obtain ⟨before, behind, entries_eq, _⟩ := List.lookup_eq_some_iff.mp found
  refine ⟨(path, content), ?_, rfl⟩
  rw [entries_eq]
  exact List.mem_append_right _ (List.mem_cons_self ..)

/-! ## Directories -/

/-- Whether a path leads to a place on the way to another one. -/
def IsOnTheWay (path place : FilePath) : Prop :=
  path <+: place ∧ path.length < place.length

theorem isDirectory_iff : files.isDirectory path = true ↔
    files.content? path = some .directory ∨ path <+: files.workingDirectory ∨
      ∃ entry ∈ files.entries, IsOnTheWay path entry.1 := by
  simp [isDirectory, IsOnTheWay, or_assoc]

theorem isOnTheWay_iff : IsOnTheWay path place ↔ path <+: place.dropLast ∧ place ≠ [] := by
  constructor
  · rintro ⟨isPrefix, shorter⟩
    have nonempty : place ≠ [] := by
      rintro rfl
      exact absurd shorter (Nat.not_lt_zero _)
    refine ⟨?_, nonempty⟩
    apply List.prefix_of_prefix_length_le isPrefix place.dropLast_prefix
    rw [List.length_dropLast]
    omega
  · rintro ⟨isPrefix, nonempty⟩
    refine ⟨isPrefix.trans place.dropLast_prefix, ?_⟩
    have bound := isPrefix.length_le
    have positive := List.length_pos_iff.mpr nonempty
    rw [List.length_dropLast] at bound
    omega

/-- Everything on the way to a directory is one. -/
theorem isDirectory_of_isPrefix (isPrefix : path <+: place) (directory : files.isDirectory place) :
    files.isDirectory path := by
  by_cases same : path = place
  · rwa [same]
  · have shorter : path.length < place.length := by
      have bound := isPrefix.length_le
      have different : path.length ≠ place.length := fun sameLength =>
        same (isPrefix.eq_of_length sameLength)
      omega
    rw [isDirectory_iff] at directory ⊢
    rcases directory with here | working | ⟨entry, entryMem, below, _⟩
    · obtain ⟨entry, entryMem, rfl⟩ :=
        exists_entry_of_content? (Option.isSome_of_eq_some here)
      exact .inr (.inr ⟨entry, entryMem, isPrefix, shorter⟩)
    · exact .inr (.inl (isPrefix.trans working))
    · exact .inr (.inr ⟨entry, entryMem, isPrefix.trans below,
        Nat.lt_of_lt_of_le shorter below.length_le⟩)

/-- What is on the way to something is a directory. -/
theorem isDirectory_of_isOnTheWay (present : (files.content? place).isSome)
    (onTheWay : IsOnTheWay path place) : files.isDirectory path := by
  obtain ⟨entry, entryMem, rfl⟩ := exists_entry_of_content? present
  exact isDirectory_iff.mpr (.inr (.inr ⟨entry, entryMem, onTheWay⟩))

/-! ## The same directories -/

/-- The same paths are directories, and paths start at the same one. -/
structure SameDirectories (files other : Files) : Prop where
  workingDirectory : files.workingDirectory = other.workingDirectory
  isDirectory : ∀ path, files.isDirectory path = other.isDirectory path

namespace SameDirectories

theorem refl (files : Files) : files.SameDirectories files :=
  ⟨rfl, fun _ => rfl⟩

theorem trans {third : Files} (first : files.SameDirectories other)
    (second : other.SameDirectories third) : files.SameDirectories third :=
  ⟨first.workingDirectory.trans second.workingDirectory,
    fun path => (first.isDirectory path).trans (second.isDirectory path)⟩

theorem absolute (same : files.SameDirectories other) (path : List UInt8) :
    files.absolute path = other.absolute path := by
  simp only [Files.absolute, same.workingDirectory]

theorem walk? (same : files.SameDirectories other) (reached path : FilePath) :
    files.walk? reached path = other.walk? reached path := by
  induction path generalizing reached with
  | nil => rfl
  | cons part rest ih => simp only [Files.walk?, same.isDirectory, ih]

theorem reach? (same : files.SameDirectories other) (path : List UInt8) :
    files.reach? path = other.reach? path := by
  rw [Files.reach?, Files.reach?, same.absolute, same.walk?]

theorem meetsLongName (same : files.SameDirectories other) (reached path : FilePath) :
    files.meetsLongName reached path = other.meetsLongName reached path := by
  induction path generalizing reached with
  | nil => rfl
  | cons part rest ih => simp only [Files.meetsLongName, same.isDirectory, ih]

theorem isTooLong (same : files.SameDirectories other) (path : String) :
    files.isTooLong path = other.isTooLong path := by
  simp only [Files.isTooLong, same.absolute, same.meetsLongName]

end SameDirectories

/-- Something other than a directory that is written where a directory is ready for it leaves the
directories as they are. -/
theorem sameDirectories_put {content : FileContent} (written : content ≠ .directory)
    (overwritten : files.content? place ≠ some .directory)
    (ready : (files.content? place).isSome ∨ files.isDirectory place.dropLast) :
    (files.put place content).SameDirectories files := by
  refine ⟨rfl, fun path => ?_⟩
  rw [Bool.eq_iff_iff, isDirectory_iff, isDirectory_iff, content?_put]
  have here : (if path = place then some content else files.content? path) = some .directory ↔
      files.content? path = some .directory := by
    by_cases same : path = place
    · rw [if_pos same, same]
      simp [written, overwritten]
    · rw [if_neg same]
  rw [here]
  constructor
  · rintro (directory | working | ⟨entry, entryMem, onTheWay⟩)
    · exact .inl directory
    · exact .inr (.inl working)
    · simp only [put, remove, List.mem_append, List.mem_filter, List.mem_singleton] at entryMem
      rcases entryMem with ⟨entryMem, _⟩ | rfl
      · exact .inr (.inr ⟨entry, entryMem, onTheWay⟩)
      · rw [← isDirectory_iff]
        rcases ready with present | above
        · exact isDirectory_of_isOnTheWay present onTheWay
        · exact isDirectory_of_isPrefix (isOnTheWay_iff.mp onTheWay).1 above
  · rintro (directory | working | ⟨entry, entryMem, onTheWay⟩)
    · exact .inl directory
    · exact .inr (.inl working)
    · refine .inr (.inr ?_)
      by_cases same : entry.1 = place
      · exact ⟨(place, content), by simp [put], same ▸ onTheWay⟩
      · exact ⟨entry, by simp [put, remove, entryMem, same], onTheWay⟩

/-- Something other than a directory that is taken away leaves the directories as they are, if
something stays beside it. -/
theorem sameDirectories_remove (beside : FilePath) (removed : files.isDirectory place = false)
    (stays : (files.content? beside).isSome) (different : beside ≠ place)
    (sameAbove : beside.dropLast = place.dropLast) :
    (files.remove place).SameDirectories files := by
  refine ⟨rfl, fun path => ?_⟩
  have stillStays : ((files.remove place).content? beside).isSome := by
    rwa [content?_remove, if_neg different]
  rw [Bool.eq_iff_iff]
  constructor
  · intro directory
    rw [isDirectory_iff, content?_remove] at directory
    rw [isDirectory_iff]
    rcases directory with here | working | ⟨entry, entryMem, onTheWay⟩
    · by_cases same : path = place
      · rw [if_pos same] at here
        cases here
      · rw [if_neg same] at here
        exact .inl here
    · exact .inr (.inl working)
    · exact .inr (.inr ⟨entry, (List.mem_filter.mp entryMem).1, onTheWay⟩)
  · intro directory
    have pathStays : path ≠ place := by
      rintro rfl
      rw [removed] at directory
      cases directory
    rw [isDirectory_iff] at directory
    rcases directory with here | working | ⟨entry, entryMem, onTheWay⟩
    · exact isDirectory_iff.mpr (.inl (by rwa [content?_remove, if_neg pathStays]))
    · exact isDirectory_iff.mpr (.inr (.inl working))
    · by_cases same : entry.1 = place
      · -- The way to what is taken away is the way to what stays, unless that is the root.
        have above := (isOnTheWay_iff.mp (same ▸ onTheWay)).1
        rw [← sameAbove] at above
        by_cases root : beside = []
        · have isRoot : path = [] := by
            rw [root] at above
            exact List.prefix_nil.mp above
          exact isDirectory_iff.mpr (.inr (.inl (isRoot ▸ List.nil_prefix)))
        · exact isDirectory_of_isOnTheWay stillStays (isOnTheWay_iff.mpr ⟨above, root⟩)
      · refine isDirectory_iff.mpr (.inr (.inr ⟨entry, ?_, onTheWay⟩))
        exact List.mem_filter.mpr ⟨entryMem, by simpa using same⟩

end FederatedLogin.Files
