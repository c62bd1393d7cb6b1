import FederatedLogin.Proofs.Database.Opening
import FederatedLogin.Proofs.Files.Places

/-!
# Sites of databases

At a site a database can be kept in a file: the file lies in a directory that is there, all the
names on the way are short enough, and nothing is in the way of the file or its journals.  Opening
the database of a site succeeds, and the place is still a site afterwards.
-/

namespace FederatedLogin.OpenDatabase

open FederatedLogin.Text

/-- A place at which a database can be kept in a file. -/
structure Site (files : Files) (place : FilePath) : Prop where
  isPlace : Files.IsPlace place
  /-- Names are no longer than names of files can be. -/
  short : ∀ part ∈ place, part.length ≤ Files.maxNameLength
  room : leavesRoom place
  /-- The path is no longer than that of a database can be. -/
  reachable : Files.pathLength place ≤ maxPathLength
  inDirectory : files.isDirectory place.dropLast
  notDirectory : files.isDirectory place = false
  /-- No file stands on the way. -/
  onTheWay : ∀ {reached : FilePath} {content : FileContent}, Files.IsOnTheWay reached place →
    files.content? reached = some content → content = .directory
  /-- No journal is a directory. -/
  clear : journalEndings.all fun ending => !files.isDirectory (journal place ending)

/-- The table that a place holds as a database; a file that is missing or empty holds the empty
table. -/
inductive Stores (files : Files) (place : FilePath) : Store.Table → Prop where
  | kept (table : Store.Table) (here : files.content? place = some (.database table)) :
      Stores files place table
  | missing (here : files.content? place = none) : Stores files place .empty
  | blank (here : files.content? place = some (.text "")) : Stores files place .empty

variable {files left : Files} {place : FilePath} {table : Store.Table}

/-- Files that differ from those of a site only at its place, and by what is missing, have the same
site. -/
theorem Site.of_holding (site : Site files place) (holding : Holding files left place) :
    Site left place where
  isPlace := site.isPlace
  short := site.short
  room := site.room
  reachable := site.reachable
  inDirectory := (holding.directories.isDirectory _).trans site.inDirectory
  notDirectory := (holding.directories.isDirectory _).trans site.notDirectory
  onTheWay {reached _} onTheWay here := by
    have different : reached ≠ place := by
      rintro rfl
      exact Nat.lt_irrefl _ onTheWay.2
    exact site.onTheWay onTheWay (holding.elsewhere different here)
  clear := by
    have clear := site.clear
    simp only [← holding.directories.isDirectory] at clear
    exact clear

/-! ## The way to a site -/

theorem Site.nonempty (site : Site files place) : place ≠ [] := by
  rintro rfl
  have root : files.isDirectory [] = true := by
    simp [Files.isDirectory]
  rw [site.notDirectory] at root
  cases root

/-- Every name on the way can be looked up. -/
theorem Site.advance?_eq (site : Site files place) {before rest : FilePath} {part : List UInt8}
    (whole : before ++ part :: rest = place) :
    advance? files before part = some (before ++ [part]) := by
  have partMem : part ∈ place := by
    rw [← whole]
    exact List.mem_append_right _ List.mem_cons_self
  have notAbove := (site.isPlace part partMem).notAbove
  have onTheWay : Files.IsOnTheWay before place := by
    rw [← whole]
    refine ⟨List.prefix_append _ _, ?_⟩
    simp
  have admitted : admits files before part := by
    have short := site.short part partMem
    rw [admits]
    cases here : files.content? before with
    | none => simp [short]
    | some content =>
        rw [site.onTheWay onTheWay here]
        simp [short]
  have bounded : Files.pathLength (before ++ [part]) ≤ maxPartialLength := by
    have reachable := site.reachable
    rw [← whole, ← List.singleton_append, ← List.append_assoc, Files.pathLength_append] at reachable
    exact Nat.le_trans (Nat.le_of_add_right_le reachable) (by decide)
  have stepped : Files.step before part = before ++ [part] := by
    rw [Files.step, if_neg notAbove]
  simp only [advance?, stepped, if_neg notAbove, admitted, bounded, decide_true, Bool.and_true,
    if_true]

theorem Site.foldlM_advance? (site : Site files place) {before rest : FilePath}
    (whole : before ++ rest = place) : rest.foldlM (advance? files) before = some place := by
  induction rest generalizing before with
  | nil =>
      rw [List.append_nil] at whole
      rw [whole]
      rfl
  | cons part rest ih =>
      rw [List.foldlM_cons, site.advance?_eq whole]
      apply ih
      rw [List.append_assoc, List.singleton_append, whole]

/-- A site that is written out is found. -/
theorem Site.place?_written (site : Site files place) :
    place? files (Files.written place) = some place := by
  rw [place?, Files.absolute_written site.isPlace site.nonempty, site.foldlM_advance? rfl]
  simp [site.reachable]

/-! ## The opening -/

/-- What is stored can be used as a database. -/
theorem Site.exists_tableIn? (site : Site files place) (stores : Stores files place table) :
    ∃ found, tableIn? files place .create = some found ∧ found.getD .empty = table := by
  cases stores with
  | kept table here => exact ⟨some table, by simp only [tableIn?, here], rfl⟩
  | missing here =>
      refine ⟨none, ?_, rfl⟩
      simp [tableIn?, here, site.notDirectory, site.inDirectory]
  | blank here =>
      refine ⟨none, ?_, rfl⟩
      simp only [tableIn?, here]
      rfl

/-- The database of a site opens, with the table that is stored there. -/
theorem Site.exists_inFile (site : Site files place) (stores : Stores files place table) :
    ∃ left, inFile files { path := Files.written place } {} =
      (left, some ⟨table, some place, {}⟩) := by
  obtain ⟨found, usable, rfl⟩ := site.exists_tableIn? stores
  have made := holding_of_tableIn? usable
  have clear := (site.of_holding made).clear
  simp only [inFile, site.place?_written, usable]
  generalize (if (files.content? place).isSome then files else files.put place (.text "")) =
    created at clear
  have settled : isClear created place true found.isSome := by
    simp only [isClear, clear, Bool.true_or, Bool.and_true]
  have writable : (FileMode.create != .readOnly && !false) = true := rfl
  simp only [Option.all_none, Bool.not_true, Bool.false_eq_true, if_false, writable, settled,
    Bool.or_true, if_true]
  cases found with
  | some table => exact ⟨_, rfl⟩
  | none =>
      have room : (true && leavesRoom place) = true := site.room
      simp only [room, if_true]
      exact ⟨_, rfl⟩

/-- A path that is written out names no database in memory. -/
theorem isFileless_written (place : FilePath) :
    DatabaseTarget.isFileless { path := Files.written place } = false := by
  have noMemory : (Files.written place == Utf8.encode Connection.memoryName) = false := by
    rw [beq_eq_false_iff_ne, Files.written]
    have memory : Utf8.encode Connection.memoryName = 0x3A :: Utf8.encode "memory:" := by decide
    rw [memory]
    simp [Files.slash]
  rw [DatabaseTarget.isFileless, noMemory]
  rfl

/-- A connection to a name whose place is a site is made, and leaves the database in its place. -/
theorem Site.exists_connect {name : String} (site : Site files (files.placeOf (Utf8.encode name)))
    (stores : Stores files (files.placeOf (Utf8.encode name)) table)
    (onDisk : name ≠ Connection.memoryName) (noZero : '\x00' ∉ name.toList) :
    ∃ left, Connection.connect files { name } =
        (left, .ok ⟨table, some (files.placeOf (Utf8.encode name)), {}⟩) ∧
      Holding files left (files.placeOf (Utf8.encode name)) ∧
      left.content? (files.placeOf (Utf8.encode name)) = some (.database table) := by
  obtain ⟨left, opened⟩ := site.exists_inFile stores
  have untroubled : Connection.trouble? { name } = none := by
    simp [Connection.trouble?, Connection.fitsWord, noZero]
  have target : Connection.target? files { name } =
      some { path := Files.written (files.placeOf (Utf8.encode name)) } := by
    simp [Connection.target?, onDisk]
  have connected : Connection.connect files { name } =
      (left, .ok ⟨table, some (files.placeOf (Utf8.encode name)), {}⟩) := by
    simp only [Connection.connect, untroubled, target, ofTarget, isFileless_written,
      Bool.or_false, Bool.false_eq_true, if_false]
    have fullAccess : ({ readsTimes := (0 : Int) % 2 == 0 } : Access) = {} := rfl
    rw [fullAccess, opened]
  refine ⟨left, connected, ?_⟩
  cases Connection.connect_leaves connected with
  | memory opened placeless => cases placeless
  | file left opened place placed holding kept =>
      cases placed
      exact ⟨holding, kept⟩

end FederatedLogin.OpenDatabase
