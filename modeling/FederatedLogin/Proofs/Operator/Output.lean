import FederatedLogin.Operator.Command
import FederatedLogin.Platform.Standard
import FederatedLogin.Proofs.Files.Directories
import FederatedLogin.Proofs.Json.RoundTrip
import FederatedLogin.Proofs.Login.Identifier

/-!
# What a run prints

A run that returns a status prints something exactly if the status is that of success and no check
was asked for.  It is then one line of printable ASCII, which is read again as the user that the
login returned, unless a text of the user has a surrogate, of which two may be read as one
character.
-/

namespace FederatedLogin

open FederatedLogin.Json FederatedLogin.Text FederatedLogin.Verification

/-- Files whose databases have room. -/
def Files.HasRoom (files : Files) : Prop :=
  ∀ place table, files.content? place = some (.database table) → table.HasRoom

namespace Operator

variable {invocation : Invocation} {found : Surroundings} {principal : Principal} {user : User}

/-! ## The user that is returned -/

section

variable [Platform]

/-- The user that the login of a run returns for its token. -/
inductive Authenticates (invocation : Invocation) (principal : Principal) (found : Surroundings)
    (user : User) : Prop where
  | returned (settings : Settings) (files : Files) (opened : OpenStore) (client : Client)
      (loaded : Settings.load invocation.environment = .ok settings)
      (isOpen : openStore found.files settings = (files, .ok opened))
      (built : (Client.build files settings.verifyUrl settings.bundlePath
        settings.timeout).result = .ok client)
      (returned : (login client.url ⟨principal, tokenOf invocation.input⟩ invocation.reply
        { store := opened.store, random := found.random, access := opened.access }).outcome.result =
          .ok user)

/-- A resolution gives a user exactly if a login returns it. -/
theorem resolve_eq_ok_iff :
    (resolve invocation ⟨principal, tokenOf invocation.input⟩ found).result = .ok user ↔
      Authenticates invocation principal found user := by
  rw [resolve]
  constructor
  · intro resolved
    cases loaded : Settings.load invocation.environment with
    | error failure => simp [loaded] at resolved
    | ok settings =>
        simp only [loaded] at resolved
        cases isOpen : openStore found.files settings with
        | mk files result =>
            cases result with
            | error failure => simp [isOpen] at resolved
            | ok opened =>
                simp only [isOpen, resolveOn] at resolved
                cases built : (Client.build files settings.verifyUrl settings.bundlePath
                    settings.timeout).result with
                | error failure => simp [built] at resolved
                | ok client =>
                    simp only [built] at resolved
                    exact .returned settings files opened client loaded isOpen built resolved
  · rintro ⟨settings, files, opened, client, loaded, isOpen, built, returned⟩
    simp only [loaded, isOpen, resolveOn, built, returned]

/-- The store that a run opens has room, if the databases in its files do. -/
theorem openStore_hasRoom {files left : Files} {settings : Settings} {opened : OpenStore}
    (room : files.HasRoom) (isOpen : openStore files settings = (left, .ok opened)) :
    opened.store.HasRoom := by
  rw [openStore] at isOpen
  cases isUrl : settings.databaseUrl with
  | none =>
      simp only [isUrl] at isOpen
      cases isOpen
      exact .memory
  | some url =>
      simp only [isUrl] at isOpen
      cases connected : Settings.connection url with
      | error failure => simp [connected] at isOpen
      | ok connection =>
          simp only [connected] at isOpen
          cases made : connection.connect files with
          | mk after result =>
              rw [made] at isOpen
              cases result with
              | error failure => simp [Except.map] at isOpen
              | ok database =>
                  cases isOpen
                  rcases (Connection.connect_opens made).2 with ⟨place, stored⟩ | isEmpty
                  · exact .database (room place database.table stored)
                  · simp only [isEmpty]
                    exact .database .empty

theorem Authenticates.isIdentified (authenticates : Authenticates invocation principal found user)
    (room : found.files.HasRoom) : user.IsIdentified := by
  obtain ⟨settings, files, opened, client, _, isOpen, _, returned⟩ := authenticates
  exact isIdentified_of_login (openStore_hasRoom room isOpen) returned

/-! ## The line that is printed -/

omit [Platform] in
/-- An identifier that fits its column has few enough digits to be read. -/
theorem natAbs_lt_of_fitsColumn {id : Int} (fits : Store.Table.fitsColumn (some id) = true) :
    id.natAbs < 10 ^ Token.maxDigits := by
  simp only [Store.Table.fitsColumn, Bool.and_eq_true, decide_eq_true_eq] at fits
  have small : id.natAbs < 10 ^ 19 := by omega
  exact Nat.lt_of_lt_of_le small (Nat.pow_le_pow_right (by decide) (by decide))

omit [Platform] in
/-- What is printed of a user is a line of printable ASCII, whatever its texts. -/
theorem printed_isAscii (user : User) :
    ∃ line, printed user = line ++ "\n" ∧
      ∀ character ∈ line.toList, 0x20 ≤ character.toNat ∧ character.toNat ≤ 0x7E := by
  have nullAdmitted : Layout.ascii.AdmitsAll "null".toList := .of_isAscii (by decide)
  refine ⟨_, rfl, ?_⟩
  intro character characterMem
  rw [Value.print, String.toList_ofList] at characterMem
  suffices admits : Layout.ascii.Admits character from ⟨admits.1, admits.2 rfl⟩
  refine Value.admitsAll_record Layout.ascii_separates ?_ character characterMem
  simp only [List.forall_mem_cons]
  refine ⟨?_, Printer.admitsAll_string _, Printer.admitsAll_string _, Printer.admitsAll_string _,
    List.forall_mem_nil _⟩
  split
  · exact Value.admitsAll_integer _
  · exact nullAdmitted

/-- The value that shows a user with an identifier. -/
def shownUser (id : Int) (user : User) : Value :=
  .record [("user_id", .integer id), ("federation_key", .string user.federationKey),
    ("username", .string user.username), ("email", .string user.email)]

/-- What is printed of a user whose texts can be encoded is read again as the user. -/
theorem ofText?_printed {id : Int} (isId : user.id = some id)
    (fits : Store.Table.fitsColumn (some id) = true)
    (encodable : ∀ text ∈ [user.federationKey, user.username, user.email], text.isEncodable)
    {line : String} (isLine : printed user = line ++ "\n") :
    Value.ofText? line = some (shownUser id user) := by
  simp only [List.forall_mem_cons] at encodable
  obtain ⟨key, isKey⟩ := CodeString.exists_of_isEncodable encodable.1
  obtain ⟨name, isName⟩ := CodeString.exists_of_isEncodable encodable.2.1
  obtain ⟨email, isEmail⟩ := CodeString.exists_of_isEncodable encodable.2.2.1
  have legible : (shownUser id user).Legible 1 := by
    rw [shownUser, isKey, isName, isEmail]
    refine .record ?_
    simp only [List.forall_mem_cons]
    exact ⟨.integer 0 (natAbs_lt_of_fitsColumn fits), .text 0 _, .text 0 _, .text 0 _,
      List.forall_mem_nil _⟩
  have line_eq : line = (shownUser id user).print .ascii := by
    rw [printed, isId] at isLine
    exact (String.append_left_inj _).mp isLine.symm
  rw [line_eq]
  exact Value.ofText?_print Layout.ascii_separates legible (Nat.le_of_lt two_le_nestingLimit)

/-! ## The end of a run -/

omit [Platform] in
theorem ending_reportOn {α : Type} {output : α → String} {progress : Progress α} {code : Nat}
    {text : String} (ending : (reportOn principal output progress).1.ending = .status code text) :
    (∃ value, progress.result = .ok value ∧ code = statusOk ∧ text = output value) ∨
      code ≠ statusOk ∧ text = "" := by
  rw [reportOn] at ending
  cases came : progress.result with
  | ok value =>
      rw [came] at ending
      cases ending
      exact .inl ⟨value, rfl, rfl, rfl⟩
  | error failure =>
      rw [came] at ending
      right
      cases failure <;> cases ending <;> exact ⟨by decide, rfl⟩

theorem ending_obey {code : Nat} {output : String}
    (ending : (obey invocation found).1.ending = .status code output) :
    ∃ request, readArguments invocation.arguments = .asked request ∧
      ((∃ user, Authenticates invocation request.principal found user ∧
          code = statusOk ∧ request.checksConfig = false ∧ output = printed user) ∨
        (code = statusOk → request.checksConfig = true) ∧ output = "") := by
  rw [obey] at ending
  cases asked : readArguments invocation.arguments with
  | helped => simp [asked] at ending
  | misused => simp [asked] at ending
  | asked request =>
      refine ⟨request, rfl, ?_⟩
      simp only [asked] at ending
      split at ending
      · next checks =>
        rcases ending_reportOn ending with ⟨_, _, _, silent⟩ | ⟨_, silent⟩
        · exact .inr ⟨fun _ => checks, silent⟩
        · exact .inr ⟨fun _ => checks, silent⟩
      · next noCheck =>
        split at ending
        · cases ending
          exact .inr ⟨fun isOk => absurd isOk (by decide), rfl⟩
        · rcases ending_reportOn ending with ⟨user, resolved, isOk, isPrinted⟩ | ⟨failed, silent⟩
          · exact .inl ⟨user, resolve_eq_ok_iff.mp resolved, isOk, Bool.eq_false_iff.mpr noCheck,
              isPrinted⟩
          · exact .inr ⟨fun isOk => absurd isOk failed, silent⟩

/-- A run that returns a status prints the user that a login returned, or nothing at all. -/
theorem ending_run {code : Nat} {output : String}
    (ending : (run invocation found).1.ending = .status code output) :
    ∃ request, readArguments invocation.arguments = .asked request ∧
      ((∃ user, Authenticates invocation request.principal found user ∧
          code = statusOk ∧ request.checksConfig = false ∧ output = printed user) ∨
        (code = statusOk → request.checksConfig = true) ∧ output = "") := by
  cases isSetUp : setUpLog invocation.environment with
  | error trouble =>
      rw [run_of_not_setUp isSetUp] at ending
      cases ending
  | ok done =>
      rw [run_of_setUp isSetUp] at ending
      exact ending_obey ending

/-- A run that returns a status prints something exactly if the status is that of success and no
check was asked for, and then it prints one line of printable ASCII.  The line is read again as the
user that the login returned if the texts of the user can be encoded. -/
theorem output_iff_resolved (room : found.files.HasRoom) {code : Nat} {output : String}
    (ending : (run invocation found).1.ending = .status code output) :
    ∃ request, readArguments invocation.arguments = .asked request ∧
      (output ≠ "" ↔ code = statusOk ∧ request.checksConfig = false) ∧
      (output ≠ "" → ∃ user id line,
        Authenticates invocation request.principal found user ∧ user.id = some id ∧
        output = line ++ "\n" ∧
        (∀ character ∈ line.toList, 0x20 ≤ character.toNat ∧ character.toNat ≤ 0x7E) ∧
        ((∀ text ∈ [user.federationKey, user.username, user.email], text.isEncodable) →
          Value.ofText? line = some (shownUser id user))) := by
  obtain ⟨request, asked, ⟨user, authenticates, isOk, noCheck, isPrinted⟩ | ⟨checked, silent⟩⟩ :=
    ending_run ending
  · obtain ⟨id, isId, fits⟩ := authenticates.isIdentified room
    obtain ⟨line, isLine, ascii⟩ := printed_isAscii user
    rw [isLine] at isPrinted
    have speaks : output ≠ "" := by
      rw [isPrinted]
      simp
    exact ⟨request, asked, iff_of_true speaks ⟨isOk, noCheck⟩,
      fun _ => ⟨user, id, line, authenticates, isId, isPrinted, ascii,
        fun encodable => ofText?_printed isId fits encodable isLine⟩⟩
  · refine ⟨request, asked, iff_of_false (not_not_intro silent) ?_,
      fun speaks => absurd silent speaks⟩
    rintro ⟨isOk, noCheck⟩
    rw [checked isOk] at noCheck
    cases noCheck

end

/-- A user whose federation key has a quote, a control and a character beyond U+FFFF. -/
def oddUser : Store.Row :=
  ⟨1, "u\"\x7f😀", "alice", "é@example.com", "p", "c"⟩

/-- A database with that user. -/
def oddUserFound : Surroundings where
  files := ({} : Files).put [Utf8.encode "users.db"] (.database ⟨[oddUser]⟩)
  random := .arithmetic 0

/-- A login of that user. -/
def oddUserInvocation : Invocation where
  arguments := ["--principal", "p"]
  environment :=
    [("FEDERATION_VERIFY_URL", "http://verify.example.com"),
      ("FEDERATION_DATABASE_URL", "sqlite+aiosqlite:///users.db")]
  input := "tok\n"
  reply := .response 200 (Utf8.encode ("\x7b\"status\": \x7b\"authenticated\": true, " ++
    "\"user\": \x7b\"uid\": \"u\\\"\x7f😀\", \"username\": \"alice\"\x7d\x7d\x7d"))

theorem oddUserFound_hasRoom : oddUserFound.files.HasRoom := by
  intro place table stored
  rw [oddUserFound, Files.content?_put] at stored
  split at stored
  · cases stored
    exact ⟨by decide, by decide⟩
  · cases stored

section

open scoped Platform

theorem output_of_odd_user :
    oddUserFound.files.HasRoom ∧ ∃ output line,
      (run oddUserInvocation oddUserFound).1.ending = .status statusOk output ∧
      readArguments oddUserInvocation.arguments = .asked ⟨.named "p", false⟩ ∧
      Authenticates oddUserInvocation (.named "p") oddUserFound oddUser.toUser ∧
      output = line ++ "\n" ∧ Value.ofText? line = some (shownUser 1 oddUser.toUser) := by
  have ending : (run oddUserInvocation oddUserFound).1.ending = .status statusOk
      ("\x7b\"user_id\": 1, \"federation_key\": \"u\\\"\\u007f\\ud83d\\ude00\", " ++
        "\"username\": \"alice\", \"email\": \"\\u00e9@example.com\"\x7d\n") := by
    decide +kernel
  have isAsked : readArguments oddUserInvocation.arguments = .asked ⟨.named "p", false⟩ := by
    decide +kernel
  have resolved : (resolve oddUserInvocation ⟨.named "p", tokenOf oddUserInvocation.input⟩
      oddUserFound).result = .ok oddUser.toUser := by
    decide +kernel
  obtain ⟨request, asked, _, reads⟩ := output_iff_resolved oddUserFound_hasRoom ending
  obtain ⟨user, id, line, authenticates, isId, isLine, _, isRead⟩ := reads (by decide)
  rw [isAsked] at asked
  cases asked
  have sameUser := (resolve_eq_ok_iff.mpr authenticates).symm.trans resolved
  cases sameUser
  cases isId
  exact ⟨oddUserFound_hasRoom, _, line, ending, isAsked, authenticates, isLine,
    isRead (by decide +kernel)⟩

end

end Operator

end FederatedLogin
