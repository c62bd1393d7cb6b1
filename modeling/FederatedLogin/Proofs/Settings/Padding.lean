import FederatedLogin.Proofs.Number.Separators
import FederatedLogin.Proofs.Settings.Timeout

/-!
# Blanks around settings

Blanks around the value of a variable make no difference to the settings, with one exception.  The
timeout is handed to the reader of numbers as it stands, and that reader does not drop separators.
-/

namespace FederatedLogin

open FederatedLogin.Text FederatedLogin.Number Written

/-- Blanks that can be put around a value. -/
structure Padding where
  before : List Char := []
  after : List Char := []
  blank : (before ++ after).all isBlank = true := by decide

namespace Padding

/-- A value with the blanks around it. -/
def around (padding : Padding) (written : String) : String :=
  String.ofList (padding.before ++ written.toList ++ padding.after)

/-- Whether one of the blanks is a separator. -/
def holdsSeparator (padding : Padding) : Bool :=
  (padding.before ++ padding.after).any isSeparator

variable {padding : Padding} {written : String}

theorem toList_around (padding : Padding) (written : String) :
    (padding.around written).toList = padding.before ++ written.toList ++ padding.after :=
  String.toList_ofList

/-- A padding of characters that are dropped may as well not be there. -/
theorem trimWhile_around {drops : Char → Bool}
    (dropped : ∀ value ∈ padding.before ++ padding.after, drops value) (written : String) :
    trimWhile drops (padding.around written).toList = trimWhile drops written.toList := by
  obtain ⟨droppedBefore, droppedAfter⟩ := List.forall_mem_append.mp dropped
  rw [toList_around, trimWhile_append_of_drops droppedBefore droppedAfter]

theorem strip_around (padding : Padding) (written : String) :
    strip (padding.around written) = strip written := by
  rw [strip, trimWhile_around (List.all_eq_true.mp padding.blank), strip]

/-- Without separators a padding is dropped around a number. -/
theorem real?_around (noSeparator : padding.holdsSeparator = false) (written : String) :
    real? (padding.around written) = real? written := by
  have dropped : ∀ value ∈ padding.before ++ padding.after, isNumberBlank value := by
    intro value valueMem
    have blank := List.all_eq_true.mp padding.blank value valueMem
    rwa [isBlank_eq, Bool.eq_false_iff.mpr (List.any_eq_false.mp noSeparator value valueMem),
      Bool.or_false] at blank
  rw [real?, plain?, trimWhile_around dropped, real?, plain?]

theorem real?_around_of_separator (separator : padding.holdsSeparator = true) (written : String) :
    real? (padding.around written) = none := by
  obtain ⟨value, valueMem, isSeparator⟩ := List.any_eq_true.mp separator
  refine real?_eq_none_of_separator ?_ isSeparator
  rw [toList_around]
  rcases List.mem_append.mp valueMem with beforeMem | afterMem
  · exact List.mem_append_left _ (List.mem_append_left _ beforeMem)
  · exact List.mem_append_right _ afterMem

end Padding

namespace Environment

variable (environment : Environment) (paddings : String → Padding) (name : String)

/-- The environment with blanks around the values of its variables. -/
def pad : Environment :=
  environment.map fun (name, written) => (name, (paddings name).around written)

theorem get?_pad : (environment.pad paddings).get? name =
    (environment.get? name).map (paddings name).around := by
  rw [get?, get?, pad]
  induction environment with
  | nil => rfl
  | cons entry rest ih =>
      obtain ⟨other, written⟩ := entry
      by_cases here : name = other
      · subst here
        simp
      · have apart : (name == other) = false := beq_eq_false_iff_ne.mpr here
        simp [List.lookup_cons, apart, ih]

/-- What is stripped anyway is not changed by blanks around it. -/
theorem stripped?_pad :
    (environment.pad paddings).stripped? name = environment.stripped? name := by
  rw [stripped?, stripped?, get?_pad]
  cases environment.get? name with
  | none => rfl
  | some written => simp only [Option.map_some, Option.getD_some, Padding.strip_around]

end Environment

namespace Settings

variable {environment : Environment} {paddings : String → Padding} {settings : Settings}
  {seconds : Float}

/-- A timeout that is set, with a separator among the blanks around it. -/
def HasSeparatedTimeout (environment : Environment) (paddings : String → Padding) : Prop :=
  ∃ written, environment.get? "FEDERATION_HTTP_TIMEOUT_SECONDS" = some written ∧
    strip written ≠ "" ∧ (paddings "FEDERATION_HTTP_TIMEOUT_SECONDS").holdsSeparator

theorem verifyUrl?_pad : verifyUrl? (environment.pad paddings) = verifyUrl? environment := by
  simp only [verifyUrl?, Environment.stripped?_pad]

theorem bundlePath?_pad : bundlePath? (environment.pad paddings) = bundlePath? environment := by
  simp only [bundlePath?, Environment.stripped?_pad]

theorem databaseUrl?_pad : databaseUrl? (environment.pad paddings) = databaseUrl? environment := by
  simp only [databaseUrl?, Environment.stripped?_pad]

/-- A timeout that is given is given with blanks around it, unless one is a separator. -/
theorem timeout?_pad_of_not_separated (given : timeout? environment = .ok seconds)
    (notSeparated : ¬HasSeparatedTimeout environment paddings) :
    timeout? (environment.pad paddings) = .ok seconds := by
  rw [timeout?] at given
  rw [timeout?, Environment.get?_pad]
  cases isSet : environment.get? "FEDERATION_HTTP_TIMEOUT_SECONDS" with
  | none =>
      rw [isSet] at given
      exact given
  | some written =>
      simp only [isSet, Option.map_some, Padding.strip_around] at given ⊢
      by_cases blank : strip written = ""
      · rw [if_pos blank] at given ⊢
        exact given
      · rw [if_neg blank] at given ⊢
        rw [timeoutOf_eq_ok_iff] at given ⊢
        have noSeparator : (paddings "FEDERATION_HTTP_TIMEOUT_SECONDS").holdsSeparator = false :=
          Bool.eq_false_iff.mpr fun separator => notSeparated ⟨written, isSet, blank, separator⟩
        rwa [Padding.real?_around noSeparator]

/-- A separator beside a timeout is taken for a part of it. -/
theorem timeout?_pad_of_separated {written : String}
    (isSet : environment.get? "FEDERATION_HTTP_TIMEOUT_SECONDS" = some written)
    (notBlank : strip written ≠ "")
    (separator : (paddings "FEDERATION_HTTP_TIMEOUT_SECONDS").holdsSeparator) :
    timeout? (environment.pad paddings) = .error (.configuration (.timeoutNotNumber
      ((paddings "FEDERATION_HTTP_TIMEOUT_SECONDS").around written))) := by
  simp only [timeout?, Environment.get?_pad, isSet, Option.map_some, Padding.strip_around,
    if_neg notBlank, timeoutOf, Padding.real?_around_of_separator separator]

theorem load_pad_of_separated {url written : String} (isUrl : verifyUrl? environment = .ok url)
    (isSet : environment.get? "FEDERATION_HTTP_TIMEOUT_SECONDS" = some written)
    (notBlank : strip written ≠ "")
    (separator : (paddings "FEDERATION_HTTP_TIMEOUT_SECONDS").holdsSeparator) :
    load (environment.pad paddings) = .error (.configuration (.timeoutNotNumber
      ((paddings "FEDERATION_HTTP_TIMEOUT_SECONDS").around written))) := by
  rw [load, verifyUrl?_pad, isUrl, timeout?_pad_of_separated isSet notBlank separator]
  rfl

/-- Blanks around the values of variables make no difference to settings that are loaded, unless a
separator is put beside a timeout.  That one is refused, with the separator in the text that is no
number. -/
theorem padding_ignored_iff (loaded : load environment = .ok settings)
    (paddings : String → Padding) :
    (load (environment.pad paddings) = .ok settings ↔
      ¬HasSeparatedTimeout environment paddings) ∧
    ∀ written, environment.get? "FEDERATION_HTTP_TIMEOUT_SECONDS" = some written →
      strip written ≠ "" → (paddings "FEDERATION_HTTP_TIMEOUT_SECONDS").holdsSeparator →
        load (environment.pad paddings) = .error (.configuration (.timeoutNotNumber
          ((paddings "FEDERATION_HTTP_TIMEOUT_SECONDS").around written))) := by
  obtain ⟨isUrl, isTimeout, isDatabase, isBundle⟩ := load_eq_ok_iff.mp loaded
  refine ⟨⟨?_, ?_⟩, fun written => load_pad_of_separated isUrl⟩
  · rintro kept ⟨written, isSet, notBlank, separator⟩
    rw [load_pad_of_separated isUrl isSet notBlank separator] at kept
    cases kept
  · intro notSeparated
    rw [load_eq_ok_iff, verifyUrl?_pad, databaseUrl?_pad, bundlePath?_pad]
    exact ⟨isUrl, timeout?_pad_of_not_separated isTimeout notSeparated, isDatabase, isBundle⟩

/-- Blanks of all kinds but the separators are put around a timeout in other digits, and separators
around the address beside it. -/
theorem padding_ignored_beside_number :
    let environment : Environment := [("FEDERATION_VERIFY_URL", "http://v"),
      ("FEDERATION_HTTP_TIMEOUT_SECONDS", "٥.5")]
    let aroundUrl : Padding := { before := ['\x1c', '\n'], after := ['\x1f'] }
    let aroundTimeout : Padding := { before := ['\u3000', '\t'], after := ['\u0085', ' '] }
    let paddings (name : String) :=
      if name = "FEDERATION_VERIFY_URL" then aroundUrl else aroundTimeout
    ∃ settings, load environment = .ok settings ∧
      load (environment.pad paddings) = .ok settings := by
  intro environment aroundUrl aroundTimeout paddings
  have loads : (load environment).isOk = true := by decide +kernel
  cases loaded : load environment with
  | error failure =>
      rw [loaded] at loads
      cases loads
  | ok settings =>
      refine ⟨settings, rfl, (padding_ignored_iff loaded paddings).1.mpr ?_⟩
      rintro ⟨_, _, _, separator⟩
      cases separator

/-- A separator in front of a timeout, which is dropped in front of everything else. -/
theorem padding_not_ignored_of_separator :
    let environment : Environment := [("FEDERATION_VERIFY_URL", "http://v"),
      ("FEDERATION_HTTP_TIMEOUT_SECONDS", "5")]
    let separator : Padding := { before := ['\x1c'] }
    (∃ settings, load environment = .ok settings) ∧
      load (environment.pad fun _ => separator) =
        .error (.configuration (.timeoutNotNumber "\x1c5")) := by
  intro environment separator
  have loads : (load environment).isOk = true := by decide +kernel
  have isUrl : verifyUrl? environment = .ok "http://v" := by decide +kernel
  have isSet : environment.get? "FEDERATION_HTTP_TIMEOUT_SECONDS" = some "5" := by decide +kernel
  have notBlank : strip "5" ≠ "" := by decide +kernel
  refine ⟨?_, load_pad_of_separated isUrl isSet notBlank rfl⟩
  cases loaded : load environment with
  | error failure =>
      rw [loaded] at loads
      cases loads
  | ok settings => exact ⟨settings, rfl⟩

end Settings

end FederatedLogin
