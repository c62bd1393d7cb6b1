import FederatedLogin.Platform.Standard
import FederatedLogin.Proofs.Login.Principal
import FederatedLogin.Proofs.Operator.Runs
import FederatedLogin.Proofs.Text.Blank
import FederatedLogin.Proofs.Verification.Sending

/-!
# The token on standard input

A run that logs in takes its token from the first line of standard input, without the blanks around
it, and takes nothing else from standard input.  Without a token it ends before anything is looked
at but the level of the log.

What ends a line and what is blank are different sets of characters: a vertical tab, a separator or
a next-line character is blank around the token, a part of it in its midst, and never the end of the
line.
-/

namespace FederatedLogin.Operator

open FederatedLogin.Json FederatedLogin.Text FederatedLogin.Verification

/-- What stands before the first line end, if there is one. -/
structure IsFirstLine (source line : List Char) : Prop where
  exists_rest : ∃ rest, source = line ++ rest ∧ ∀ value ∈ rest.head?, value = '\n' ∨ value = '\r'
  unbroken : '\n' ∉ line ∧ '\r' ∉ line

/-- The token of a text on standard input. -/
def IsTokenOf (input token : String) : Prop :=
  ∃ line, IsFirstLine input.toList line ∧ IsTrimmed isBlank line token.toList

theorem endsInputLine_iff {value : Char} :
    endsInputLine value ↔ value = '\n' ∨ value = '\r' := by
  simp [endsInputLine]

theorem isFirstLine_iff {input : String} {line : List Char} :
    IsFirstLine input.toList line ↔ (firstLine endsInputLine input).toList = line := by
  rw [firstLine, String.toList_ofList]
  constructor
  · rintro ⟨⟨rest, whole, ended⟩, noNewline, noReturn⟩
    have unbroken : ∀ value ∈ line, (!endsInputLine value) = true := by
      intro value valueMem
      rw [Bool.not_eq_true', ← Bool.not_eq_true, endsInputLine_iff, not_or]
      exact ⟨ne_of_mem_of_not_mem valueMem noNewline, ne_of_mem_of_not_mem valueMem noReturn⟩
    rw [whole, List.takeWhile_append_of_pos unbroken]
    cases rest with
    | nil => rw [List.takeWhile_nil, List.append_nil]
    | cons first rest =>
        have ends : endsInputLine first := endsInputLine_iff.mpr (ended first rfl)
        rw [List.takeWhile_cons_of_neg (by simp [ends]), List.append_nil]
  · rintro rfl
    have unbroken : ∀ value ∈ input.toList.takeWhile (fun value => !endsInputLine value),
        ¬ (value = '\n' ∨ value = '\r') := by
      intro value valueMem
      rw [← endsInputLine_iff]
      simpa using List.mem_takeWhile_imp valueMem
    refine ⟨⟨input.toList.dropWhile fun value => !endsInputLine value,
      List.takeWhile_append_dropWhile.symm, ?_⟩, fun newlineMem => unbroken _ newlineMem (.inl rfl),
      fun returnMem => unbroken _ returnMem (.inr rfl)⟩
    intro value isFirst
    have stops := List.head?_dropWhile_not (fun value => !endsInputLine value) input.toList
    rw [Option.mem_def.mp isFirst] at stops
    exact endsInputLine_iff.mp (by simpa using stops)

/-- Every text has one token, and it is the one that is taken. -/
theorem isTokenOf_iff {input token : String} : IsTokenOf input token ↔ tokenOf input = token := by
  simp only [IsTokenOf, isFirstLine_iff, exists_eq_left', isTrimmed_iff, tokenOf, strip]
  rw [← String.toList_inj, String.toList_ofList]

/-! ## Requests -/

variable {invocation : Invocation} {credential : Credential} {found : Surroundings}
  {sent : Verification.Request}

section

variable [Platform]

theorem body_of_mem_resolve (sentMem : sent ∈ (resolve invocation credential found).requests) :
    sent.body = requestBody credential.token := by
  rw [resolve] at sentMem
  cases loaded : Settings.load invocation.environment with
  | error failure => simp [loaded] at sentMem
  | ok settings =>
      simp only [loaded] at sentMem
      cases opened : (openStore found.files settings).2 with
      | error failure => simp [opened] at sentMem
      | ok store =>
          simp only [opened, resolveOn] at sentMem
          split at sentMem
          · cases sentMem
          · simp only [requests_login] at sentMem
            exact body_of_mem_verify sentMem

/-- A run sends nothing but the token of standard input, and nothing at all without one. -/
theorem body_of_mem_run (sentMem : sent ∈ (run invocation found).1.requests) :
    tokenOf invocation.input ≠ "" ∧ sent.body = requestBody (tokenOf invocation.input) := by
  cases isSetUp : setUpLog invocation.environment with
  | error trouble =>
      rw [run_of_not_setUp isSetUp] at sentMem
      cases sentMem
  | ok done =>
      cases logsIn : invocation.credential? with
      | none =>
          rw [(idle_of_no_credential logsIn).2] at sentMem
          cases sentMem
      | some credential =>
          obtain ⟨request, _, _, supplied, isCredential⟩ := credential?_eq_some_iff.mp logsIn
          have sameToken : credential.token = tokenOf invocation.input := by rw [isCredential]
          rw [run_of_credential isSetUp logsIn, requests_reportOn] at sentMem
          rw [← sameToken]
          exact ⟨sameToken ▸ supplied, body_of_mem_resolve sentMem⟩

/-! ## Runs -/

theorem resolve_congr_input (input : String) :
    resolve { invocation with input } credential found = resolve invocation credential found := by
  simp only [resolve, resolveOn]

theorem checkConfig_congr_input (input : String) :
    checkConfig { invocation with input } found = checkConfig invocation found := by
  simp only [checkConfig]

/-- A run looks at nothing of standard input but the token. -/
theorem run_congr_input {input : String} (same : tokenOf input = tokenOf invocation.input)
    (found : Surroundings) : run { invocation with input } found = run invocation found := by
  simp only [run, obey, same, resolve_congr_input, checkConfig_congr_input]

end

/-! ## The log -/

/-- An environment that asks for a level of the log by the name of something else. -/
def MisnamesLevel (environment : Environment) : Prop :=
  ∃ name, environment.get? "LOG_LEVEL" = some name ∧
    (Logging.Level.capitalised name = "BASIC_FORMAT" ∨ Logging.Level.capitalised name = "_STYLES")

theorem exists_ofName_error_iff {name : String} :
    (∃ trouble, Logging.Level.ofName name = .error trouble) ↔
      Logging.Level.capitalised name = "BASIC_FORMAT" ∨
        Logging.Level.capitalised name = "_STYLES" := by
  rw [Logging.Level.ofName]
  split
  · next isTemplate => simp [isTemplate]
  · next isTable => simp [isTable]
  · next notTemplate notTable =>
      apply iff_of_false
      · rintro ⟨trouble, refused⟩
        cases refused
      · rintro (isTemplate | isTable)
        · exact notTemplate isTemplate
        · exact notTable isTable

/-- The log cannot be set up exactly if its level is misnamed. -/
theorem exists_setUpLog_error_iff {environment : Environment} :
    (∃ trouble, setUpLog environment = .error trouble) ↔ MisnamesLevel environment := by
  rw [setUpLog, Logging.Loggers.configure, MisnamesLevel]
  cases environment.get? "LOG_LEVEL" with
  | none => simp [Logging.Level.ofSetting]
  | some name =>
      simp only [Option.some.injEq, exists_eq_left', ← exists_ofName_error_iff,
        Logging.Level.ofSetting]
      cases Logging.Level.ofName name with
      | ok level => simp
      | error trouble => simp

/-- Standard input has one token, which the first line tells.  A run whose environment misnames the
level of the log ends with what is raised then, before it looks at anything.  Any other run that is
to log in and has no token fails: it logs that, sends and prints nothing and leaves everything as it
found it, be the configuration as it may.  Every request of a run asks for the token and for nothing
else, and there is none without it.  A run on another text with the same token is the same in all it
reports and leaves. -/
theorem token_is_first_line [Platform] (invocation : Invocation) (found : Surroundings) :
    ∃ token, (∀ other, IsTokenOf invocation.input other ↔ other = token) ∧
      (MisnamesLevel invocation.environment → ∃ trouble,
        run invocation found = (⟨.escaped (.outside trouble), [], []⟩, found)) ∧
      (¬ MisnamesLevel invocation.environment → token = "" →
        ∀ request, readArguments invocation.arguments = .asked request →
          request.checksConfig = false →
            run invocation found =
              (⟨.status 1 "", [.tokenMissing request.principal], []⟩, found)) ∧
      (∀ sent ∈ (run invocation found).1.requests, token ≠ "" ∧
        Value.ofBytes? (Utf8.encode sent.body) = some (.record
          [("apiVersion", .text "authentication.k8s.io/v1"), ("kind", .text "TokenReview"),
           ("spec", .record [("token", .text token)])])) ∧
      ∀ input, IsTokenOf input token → run { invocation with input } found = run invocation found := by
  refine ⟨tokenOf invocation.input, fun other => isTokenOf_iff.trans eq_comm, ?_, ?_, ?_, ?_⟩
  · intro misnamed
    obtain ⟨trouble, refused⟩ := exists_setUpLog_error_iff.mpr misnamed
    exact ⟨trouble, run_of_not_setUp refused found⟩
  · intro named missing request asked noCheck
    cases isSetUp : setUpLog invocation.environment with
    | error trouble => exact absurd (exists_setUpLog_error_iff.mp ⟨trouble, isSetUp⟩) named
    | ok done =>
        simp only [run_of_setUp isSetUp, obey, asked, noCheck, missing, Bool.false_eq_true,
          if_false, if_true]
        rfl
  · intro sent sentMem
    obtain ⟨supplied, body_eq⟩ := body_of_mem_run sentMem
    rw [body_eq]
    exact ⟨supplied, ofBytes?_requestBody _⟩
  · intro input isToken
    exact run_congr_input (isTokenOf_iff.mp isToken) found

section

open scoped Platform

/-- With the name of a template for the level of the log, a run without a token returns nothing. -/
theorem nothing_returned_of_template :
    IsTokenOf "\n" "" ∧
      (run ⟨[], [("LOG_LEVEL", "BASIC_FORMAT")], "\n", .response 200 []⟩
        ⟨{}, .arithmetic 0⟩).1.ending = .escaped (.outside .unknownLevel) ∧
      ¬ (run ⟨[], [("LOG_LEVEL", "BASIC_FORMAT")], "\n", .response 200 []⟩
        ⟨{}, .arithmetic 0⟩).1.Returns 1 := by
  have escaped : (run ⟨[], [("LOG_LEVEL", "BASIC_FORMAT")], "\n", .response 200 []⟩
      ⟨{}, .arithmetic 0⟩).1.ending = .escaped (.outside .unknownLevel) := by
    decide +kernel
  refine ⟨isTokenOf_iff.mpr (by decide +kernel), escaped, ?_⟩
  rintro ⟨output, returned⟩
  rw [escaped] at returned
  cases returned

end

example : tokenOf "\u000b tok\u0085en \u001c\r\nrest" = "tok\u0085en" := by decide +kernel

end FederatedLogin.Operator
