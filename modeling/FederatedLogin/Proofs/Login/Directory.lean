import FederatedLogin.Identity
import FederatedLogin.Proofs.Store.Keeps

/-!
# Directories

A directory is what is left of a session when only logins happen: under every uid an identifier, a
user name and the local part of a placeholder e-mail.  Of the store it knows no more than which
texts it takes; it knows no passwords, nor how an e-mail is told to be a placeholder.

A login that names another user than the directory holds takes a local part, which is the name
itself or, for the empty name, a random text.  Local parts belong to one uid each; the login of a
uid whose local part another uid holds is refused and changes nothing.  So is the login of a uid
that the store does not take, or under a new name that it does not take.
-/

namespace FederatedLogin

open FederatedLogin.Store FederatedLogin.Text

/-- What a directory holds under a uid. -/
structure Directory.Entry where
  id : Nat
  username : CodeString
  localPart : CodeString
  deriving DecidableEq, Repr

/-- The entries under their uids, and the randomness for further ones. -/
structure Directory where
  kind : Kind
  entries : Index CodeString Directory.Entry := []
  random : RandomSource

namespace Directory

/-- The local part for a name: the name itself, or the next random text for the empty name. -/
def localPartFor (name : CodeString) (random : RandomSource) : CodeString × RandomSource :=
  if name = [] then
    let (localPart, rest) := random.text localPartBytes
    (CodePoint.ofText localPart, rest)
  else (name, random)

/-- Whether another uid holds a local part. -/
def isTaken (directory : Directory) (uid localPart : CodeString) : Bool :=
  directory.entries.any fun member => member.1 != uid && member.2.localPart == localPart

/-- Holds a name under a uid with an identifier, unless the store does not take the name, or another
uid holds the local part. -/
def enter (directory : Directory) (uid : CodeString) (id : Nat) (name : CodeString)
    (random : RandomSource) : Except Failure Entry × Directory :=
  let (localPart, random) := localPartFor name random
  if !directory.kind.takes name then (.error (refusal name), { directory with random })
  else if directory.isTaken uid localPart then
    (.error (.duplicateKey "email" (localPart ++ placeholderSuffix)), { directory with random })
  else
    (.ok ⟨id, name, localPart⟩,
      { directory with entries := directory.entries.put uid ⟨id, name, localPart⟩, random })

/-- What a login of a uid under a name comes to.  A new uid has cost a password before its local
part is drawn. -/
def accept (directory : Directory) (uid name : CodeString) : Except Failure Entry × Directory :=
  if !directory.kind.takes uid then (.error (refusal uid), directory)
  else
    match directory.entries.get? uid with
    | some entry =>
        if entry.username = name then (.ok entry, directory)
        else directory.enter uid entry.id name directory.random
    | none =>
        directory.enter uid (directory.entries.length + 1) name
          (directory.random.skip passwordBytes)

/-- A login whose verification has come to a verdict.  One that fails changes nothing. -/
def step (directory : Directory) :
    Except Failure Identity → Except Failure (CodeString × Entry) × Directory
  | .error failure => (.error failure, directory)
  | .ok identity =>
      let (answer, after) := directory.accept identity.uid identity.username
      (answer.map fun entry => (identity.uid, entry), after)

/-- The answers to logins in order, each with the directory after it. -/
def run (directory : Directory) :
    List (Except Failure Identity) → List (Except Failure (CodeString × Entry) × Directory)
  | [] => []
  | first :: rest =>
      let (answer, after) := directory.step first
      (answer, after) :: after.run rest

variable {directory : Directory} {uid name : CodeString}

/-! ## Logins that are accepted and refused -/

theorem isTaken_iff {localPart : CodeString} : directory.isTaken uid localPart = true ↔
    ∃ member ∈ directory.entries, member.1 ≠ uid ∧ member.2.localPart = localPart := by
  simp [isTaken]

theorem enter_of_refused (id : Nat) {random : RandomSource} (refused : ¬ directory.kind.takes name) :
    directory.enter uid id name random =
      (.error (refusal name), { directory with random := (localPartFor name random).2 }) := by
  rw [enter]
  exact if_pos (by simpa using refused)

theorem enter_of_taken (id : Nat) {random : RandomSource} (takes : directory.kind.takes name)
    (taken : directory.isTaken uid (localPartFor name random).1) :
    directory.enter uid id name random =
      (.error (.duplicateKey "email" ((localPartFor name random).1 ++ placeholderSuffix)),
        { directory with random := (localPartFor name random).2 }) := by
  rw [enter]
  simp only [takes, taken, Bool.not_true, Bool.false_eq_true, if_false, if_true]

theorem enter_of_free (id : Nat) {random : RandomSource} (takes : directory.kind.takes name)
    (free : ¬ directory.isTaken uid (localPartFor name random).1) :
    directory.enter uid id name random =
      (.ok ⟨id, name, (localPartFor name random).1⟩,
        { directory with
          entries := directory.entries.put uid ⟨id, name, (localPartFor name random).1⟩
          random := (localPartFor name random).2 }) := by
  rw [enter]
  simp only [takes, free, Bool.not_true, Bool.false_eq_true, if_false]

theorem accept_of_refused (refused : ¬ directory.kind.takes uid) :
    directory.accept uid name = (.error (refusal uid), directory) := by
  rw [accept]
  exact if_pos (by simpa using refused)

theorem accept_of_present {entry : Entry} (takes : directory.kind.takes uid)
    (present : directory.entries.get? uid = some entry) :
    directory.accept uid name =
      if entry.username = name then (.ok entry, directory)
      else directory.enter uid entry.id name directory.random := by
  simp only [accept, takes, present, Bool.not_true, Bool.false_eq_true, if_false]

theorem accept_of_absent (takes : directory.kind.takes uid)
    (absent : directory.entries.get? uid = none) :
    directory.accept uid name =
      directory.enter uid (directory.entries.length + 1) name
        (directory.random.skip passwordBytes) := by
  simp only [accept, takes, absent, Bool.not_true, Bool.false_eq_true, if_false]

theorem run_cons (directory : Directory) (first : Except Failure Identity)
    (rest : List (Except Failure Identity)) :
    directory.run (first :: rest) =
      directory.step first :: (directory.step first).2.run rest :=
  rfl

/-! ## Names -/

/-- A name that is not empty is its own local part. -/
def Named (directory : Directory) : Prop :=
  ∀ member ∈ directory.entries, member.2.username ≠ [] → member.2.localPart = member.2.username

theorem Named.enter (named : directory.Named) (uid : CodeString) (id : Nat) (name : CodeString)
    (random : RandomSource) : (directory.enter uid id name random).2.Named := by
  by_cases takes : directory.kind.takes name
  · by_cases taken : directory.isTaken uid (localPartFor name random).1
    · rw [enter_of_taken id takes taken]
      exact named
    · rw [enter_of_free id takes taken]
      intro member memberMem notEmpty
      rcases Index.mem_put memberMem with old | new
      · exact named member old notEmpty
      · rw [new] at notEmpty ⊢
        rw [localPartFor, if_neg notEmpty]
  · rw [enter_of_refused id takes]
    exact named

theorem Named.accept (named : directory.Named) (uid name : CodeString) :
    (directory.accept uid name).2.Named := by
  by_cases takes : directory.kind.takes uid
  · cases present : directory.entries.get? uid with
    | none =>
        rw [accept_of_absent takes present]
        exact named.enter _ _ _ _
    | some entry =>
        rw [accept_of_present takes present]
        by_cases same : entry.username = name
        · rw [if_pos same]
          exact named
        · rw [if_neg same]
          exact named.enter _ _ _ _
  · rw [accept_of_refused takes]
    exact named

theorem Named.step (named : directory.Named) (verdict : Except Failure Identity) :
    (directory.step verdict).2.Named := by
  cases verdict with
  | error failure => exact named
  | ok identity => exact named.accept identity.uid identity.username

end Directory

end FederatedLogin
