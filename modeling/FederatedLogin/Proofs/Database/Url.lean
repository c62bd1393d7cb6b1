import FederatedLogin.Settings.Basic
import Mathlib.Data.List.TakeWhile

/-!
# Addresses of databases in files

The address of a database in a file is the driver, three slashes and the path of the file, which is
percent-encoded.  It asks for a connection to the file of that path and sets nothing else.
-/

namespace FederatedLogin

open FederatedLogin.Text

namespace DatabaseUrl

/-- What stands in front of the path of a file. -/
def fileMarker : String :=
  "sqlite+aiosqlite:///"

/-- The name in front of an address is cut off. -/
theorem splitDriver?_append {driver : List Char} (named : driver ≠ [])
    (allowed : driver.all isDriverChar) (rest : List Char) :
    splitDriver? (driver ++ ':' :: '/' :: '/' :: rest) = some (driver, rest) := by
  have colon : ¬ isDriverChar ':' = true := by decide +kernel
  have inName : ∀ value ∈ driver, isDriverChar value = true := List.all_eq_true.mp allowed
  have taken : (driver ++ ':' :: '/' :: '/' :: rest).takeWhile isDriverChar = driver := by
    rw [List.takeWhile_append_of_pos inName, List.takeWhile_cons_of_neg colon, List.append_nil]
  have dropped : (driver ++ ':' :: '/' :: '/' :: rest).dropWhile isDriverChar =
      ':' :: '/' :: '/' :: rest := by
    rw [List.dropWhile_append_of_pos inName, List.dropWhile_cons_of_neg colon]
  obtain ⟨first, others, rfl⟩ := List.exists_cons_of_ne_nil named
  simp only [splitDriver?, taken, dropped]

/-- An address that goes on with a slash names no user, no host and no port. -/
theorem splitUser_slash (rest : List Char) : splitUser ('/' :: rest) = (none, none, '/' :: rest) :=
  rfl

theorem splitHost_slash (rest : List Char) : splitHost ('/' :: rest) = (none, '/' :: rest) :=
  rfl

theorem splitPort_slash (rest : List Char) : splitPort ('/' :: rest) = (none, '/' :: rest) :=
  rfl

/-- What follows the third slash is the name of the database, if no query follows. -/
theorem splitDatabase_slash {path : List Char} (noQuery : '?' ∉ path) :
    splitDatabase ('/' :: path) = (some path, []) := by
  have inPath : ∀ value ∈ path, (value != '?') = true := by
    intro value valueMem
    rw [bne_iff_ne]
    rintro rfl
    exact noQuery valueMem
  rw [splitDatabase, List.takeWhile_eq_self_iff.mpr inPath, List.dropWhile_eq_nil_iff.mpr inPath]

theorem ofText_file {path : String} (noQuery : '?' ∉ path.toList) :
    ofText (fileMarker ++ path) = .ok
      { driver := Connection.usableDriver, database := some (Percent.decode path.toList) } := by
  have written : (fileMarker ++ path).toList =
      Connection.usableDriver ++ ':' :: '/' :: '/' :: '/' :: path.toList := by
    rw [String.toList_append]
    rfl
  have named : splitDriver? (Connection.usableDriver ++ ':' :: '/' :: '/' :: '/' :: path.toList) =
      some (Connection.usableDriver, '/' :: path.toList) :=
    splitDriver?_append (by decide) (by decide +kernel) _
  rw [ofText, written, named]
  simp only [splitUser_slash, splitHost_slash, splitPort_slash, splitDatabase_slash noQuery]
  rfl

end DatabaseUrl

variable [Platform]

/-- A name of a file asks for a connection to the file and sets nothing else. -/
theorem Connection.ofUrl_file {name : String} (nonempty : name ≠ "") :
    ofUrl { driver := usableDriver, database := some name } = .ok { name } := by
  have isPath : pathName { driver := usableDriver, database := some name } = name := by
    simp only [pathName]
  have read : ofFileUrl { driver := usableDriver, database := some name } =
      .ok { name := pathName { driver := usableDriver, database := some name } } :=
    rfl
  rw [ofUrl, read, isPath]
  rfl

theorem Settings.connection_file {path : String} (noQuery : '?' ∉ path.toList)
    (nonempty : Percent.decode path.toList ≠ "") :
    connection (DatabaseUrl.fileMarker ++ path) = .ok { name := Percent.decode path.toList } := by
  rw [connection, DatabaseUrl.ofText_file noQuery]
  exact Connection.ofUrl_file nonempty

end FederatedLogin
