import FederatedLogin.Platform.Standard
import FederatedLogin.Proofs.Login.Mirror
import FederatedLogin.Proofs.Session.Advance

/-!
# Logins follow a directory

A session in which only logins happen, and in whose store nothing is planted, does what a directory
does: login by login it gives the answer of the directory, and its rows mirror the directory.

From a directory it is plain what the rows look like.  Every e-mail is a placeholder, and since a
name that is not empty is its own local part, no two rows share such a name.
-/

namespace FederatedLogin

open FederatedLogin.Store FederatedLogin.Verification FederatedLogin.Text

namespace Directory

/-- Rows that each have an e-mail, and a name of their own if they have one. -/
structure NamedApart (rows : List Row) : Prop where
  email_ne : ∀ row ∈ rows, row.email ≠ []
  federationKey_eq : ∀ row ∈ rows, ∀ other ∈ rows, row.username ≠ [] →
    row.username = other.username → row.federationKey = other.federationKey

variable {directory : Directory} {rows : List Row}

theorem MirroredBy.exists_entry (mirrored : directory.MirroredBy rows) {row : Row}
    (rowMem : row ∈ rows) : ∃ member ∈ directory.entries,
      member.2.Describes row.federationKey row.toUser := by
  have shownMem : row.identifying ∈ rows.map Row.identifying := List.mem_map_of_mem rowMem
  rw [mirrored] at shownMem
  obtain ⟨⟨uid, entry⟩, memberMem, shown⟩ := List.mem_map.mp shownMem
  have describes := Entry.describes_toUser shown.symm
  refine ⟨(uid, entry), memberMem, ?_⟩
  rw [show row.federationKey = uid from describes.federationKey]
  exact describes

/-- A directory in which names are their own local parts is mirrored by rows named apart. -/
theorem MirroredBy.namedApart (mirrored : directory.MirroredBy rows) (orderly : Orderly rows)
    (named : directory.Named) : NamedApart rows where
  email_ne := by
    intro row rowMem isEmpty
    obtain ⟨member, _, describes⟩ := mirrored.exists_entry rowMem
    have placeholder : member.2.localPart ++ placeholderSuffix = [] :=
      describes.email.symm.trans isEmpty
    have suffixEmpty := (List.append_eq_nil_iff.mp placeholder).2
    exact absurd suffixEmpty (by decide +kernel)
  federationKey_eq := by
    intro row rowMem other otherMem notEmpty sameName
    obtain ⟨member, memberMem, describes⟩ := mirrored.exists_entry rowMem
    obtain ⟨another, anotherMem, otherDescribes⟩ := mirrored.exists_entry otherMem
    have rowName : row.username = member.2.username := describes.username
    have otherName : other.username = another.2.username := otherDescribes.username
    have sameEmail : row.email = other.email := by
      calc row.email
        _ = member.2.localPart ++ placeholderSuffix := describes.email
        _ = row.username ++ placeholderSuffix := by
          rw [named member memberMem (rowName ▸ notEmpty), rowName]
        _ = another.2.localPart ++ placeholderSuffix := by
          rw [sameName] at notEmpty ⊢
          rw [named another anotherMem (otherName ▸ notEmpty), otherName]
        _ = other.email := otherDescribes.email.symm
    rw [orderly.eq_of_email rowMem otherMem sameEmail]

end Directory

namespace Session

/-- A login as a step of a session. -/
def loginStep (login : Credential × Reply) : Step :=
  .login login.1 login.2

variable [Platform]

/-- What the verification of a login comes to. -/
def verdict (base : String) (login : Credential × Reply) : Except Failure Identity :=
  (verify base login.1 login.2).result

/-- An answer of a directory and that of a step: the same failure, or a user that the entry under
the uid describes. -/
inductive Answers : Except Failure (CodeString × Directory.Entry) → Except Failure Answer → Prop where
  | failed (failure : Failure) : Answers (.error failure) (.error failure)
  | resolved {uid : CodeString} {entry : Directory.Entry} {user : User}
      (describes : entry.Describes uid user) : Answers (.ok (uid, entry)) (.ok (.user user))

/-- What a record shows of a directory after a login. -/
structure Shows (answered : Except Failure (CodeString × Directory.Entry) × Directory)
    (entry : Entry) : Prop where
  answers : Answers answered.1 entry.result
  exists_rows : ∃ rows, entry.rows = some rows ∧ answered.2.MirroredBy rows ∧
    Directory.NamedApart rows

variable {session : Session} {directory : Directory} {rows : List Row}

omit [Platform] in
theorem Answers.of_agree {uid : CodeString} {answer : Except Failure Directory.Entry}
    {result : Except Failure User} (agree : Directory.Agree uid answer result) :
    Answers (answer.map fun entry => (uid, entry)) (result.map Answer.user) := by
  cases agree with
  | failed failure => exact .failed failure
  | resolved describes => exact .resolved describes

/-- One login. -/
theorem login_follows (follows : directory.Follows session.backend rows)
    (login : Credential × Reply) :
    ∃ after, Directory.Follows (directory.step (verdict session.base login)).2
        (session.step (loginStep login)).1.backend after ∧
      (session.step (loginStep login)).2.rows = some after ∧
      Answers (directory.step (verdict session.base login)).1
        (session.step (loginStep login)).2.result := by
  cases verified : verdict session.base login with
  | error failure =>
      have refused := login_of_error session.backend verified
      refine ⟨rows, ?_, ?_, ?_⟩
      · simpa only [loginStep, step, after, refused, Directory.step] using follows
      · simpa only [loginStep, step, after, refused] using follows.inOrder.keeps.rows_eq
      · simp only [loginStep, step, after, refused, Directory.step]
        exact .failed failure
  | ok identity =>
      have accepted := login_of_ok session.backend verified
      obtain ⟨rowsAfter, afterFollows, agree⟩ := follows.reconcile identity login.1.principal
      refine ⟨rowsAfter, ?_, ?_, ?_⟩
      · simpa only [loginStep, step, after, accepted, Directory.step] using afterFollows
      · simpa only [loginStep, step, after, accepted] using afterFollows.inOrder.keeps.rows_eq
      · simpa only [loginStep, step, after, accepted, Directory.step]
          using Answers.of_agree agree

/-- Logins from any point at which the session follows the directory. -/
theorem run_follows (follows : directory.Follows session.backend rows) (named : directory.Named)
    (logins : List (Credential × Reply)) :
    List.Forall₂ Shows (directory.run (logins.map (verdict session.base)))
      (session.run (logins.map loginStep)).2 := by
  induction logins generalizing session directory rows with
  | nil => exact .nil
  | cons first rest ih =>
      obtain ⟨rowsAfter, afterFollows, rows_eq, answers⟩ := login_follows follows first
      have afterNamed := named.step (verdict session.base first)
      have later := ih afterFollows afterNamed
      rw [step_base] at later
      rw [List.map_cons, List.map_cons, run_cons, Directory.run_cons]
      refine .cons ⟨answers, rowsAfter, rows_eq, afterFollows.mirrored, ?_⟩ later
      exact afterFollows.mirrored.namedApart afterFollows.inOrder.keeps.orderly afterNamed

/-- Logins from the empty store are, one by one, answered as by the directory, and the rows after
each mirror it. -/
theorem logins_follow_directory (base : String) (kind : Kind) (random : RandomSource)
    (logins : List (Credential × Reply)) :
    List.Forall₂ Shows (Directory.run { kind, random } (logins.map (verdict base)))
      ((start base kind.empty random).run (logins.map loginStep)).2 := by
  have follows : Directory.Follows { kind, random } (start base kind.empty random).backend [] :=
    ⟨start_inOrder base kind random, ⟨rfl, rfl, rfl⟩, kind.kind_empty, rfl, rfl⟩
  have named : Directory.Named { kind, random } := by
    intro member memberMem
    cases memberMem
  exact run_follows follows named logins

end Session

namespace Session

section

open scoped Platform

/-- A database does not take a uid that is a lone surrogate.  A directory that takes all texts, as
the store in memory does, would enter it. -/
theorem surrogate_uid_not_entered :
    let user := "\x7b\"uid\": \"\\ud800\", \"username\": \"n\"\x7d"
    let status := "\x7b\"authenticated\": true, \"user\": " ++ user ++ "\x7d"
    let body := Text.Utf8.encode ("\x7b\"status\": " ++ status ++ "\x7d")
    let login : Credential × Reply := (⟨.named "p", "t"⟩, .response 200 body)
    let records := ((start "http://verify.example.com" Kind.database.empty (.arithmetic 0)).run
      [loginStep login]).2
    verdict "http://verify.example.com" login =
        .ok { uid := [.surrogate 0], username := "n" } ∧
      records.map Entry.result = [.error (refusal [.surrogate 0])] ∧
      ¬ List.Forall₂ Shows (Directory.run { kind := .memory, random := .arithmetic 0 }
        [verdict "http://verify.example.com" login]) records := by
  intro user status body login records
  have verified : (verify "http://verify.example.com" login.1 login.2).result =
      .ok { uid := [.surrogate 0], username := "n" } := by
    decide +kernel
  have refused : records.map Entry.result = [.error (refusal [.surrogate 0])] := by
    simp only [records, run, loginStep, start, step, after, login_of_ok _ verified]
    rfl
  refine ⟨verified, refused, ?_⟩
  intro shows
  rw [show verdict "http://verify.example.com" login = .ok _ from verified] at shows
  obtain ⟨entry, rest, shown, _, records_eq⟩ := List.forall₂_cons_left_iff.mp shows
  rw [records_eq, List.map_cons, List.cons.injEq] at refused
  have answers := shown.answers
  rw [refused.1] at answers
  cases answers

end

end Session

end FederatedLogin
