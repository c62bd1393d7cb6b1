import FederatedLogin.Proofs.Number.NotANumber
import FederatedLogin.Proofs.Settings.Startup
import FederatedLogin.Proofs.Text.Blank

/-!
# Timeouts are positive

A timeout that is not above zero is refused, with one exception: what is no number is not at most
zero either, so a text that names it passes.
-/

namespace FederatedLogin.Settings

open FederatedLogin.Text FederatedLogin.Number Written

variable {written : String} {seconds : Float}

theorem timeoutOf_eq_ok_iff :
    timeoutOf written = .ok seconds ↔ real? written = some seconds ∧ ¬seconds ≤ 0 := by
  rw [timeoutOf]
  cases real? written with
  | none => simp
  | some read =>
      by_cases atMost : read ≤ 0
      · simp only [if_pos atMost, reduceCtorEq, Option.some.injEq, false_iff]
        rintro ⟨rfl, above⟩
        exact above atMost
      · simp only [if_neg atMost, Except.ok.injEq, Option.some.injEq]
        constructor
        · rintro rfl
          exact ⟨rfl, atMost⟩
        · exact And.left

/-- A blank text names nothing. -/
theorem not_namesNoNumber_of_blank (blank : strip written = "") : ¬NamesNoNumber written := by
  rintro ⟨sign, _, letters, isName, trimmed⟩
  obtain ⟨letter, letterMem⟩ : ∃ letter, letter ∈ letters := by
    apply List.exists_mem_of_ne_nil
    rintro rfl
    cases isName
  obtain ⟨before, after, whole, _⟩ := (isTrimmed_iff.mpr trimmed).exists_ends
  have isBlank : isBlank letter := by
    apply strip_eq_empty_iff.mp blank
    rw [whole]
    simp [letterMem]
  have position := toNat_of_isAlpha (isAlpha_of_name isName letter letterMem)
  simp only [Text.isBlank, isNumberBlank, Bool.or_eq_true, Bool.and_eq_true, decide_eq_true_eq,
    beq_iff_eq] at isBlank
  omega

theorem pos_defaultTimeout : 0 < defaultTimeout := by
  decide +kernel

/-- A timeout is given or refused as a configuration.  One that is given is never at most zero, and
it is above zero unless it is set to a text that names what is no number.  The timeout of settings
that are loaded is the one that is given. -/
theorem timeout_positive_iff (environment : Environment) :
    IsDocumented (timeout? environment) ∧
    (∀ seconds, timeout? environment = .ok seconds →
      ¬seconds ≤ 0 ∧
        (0 < seconds ↔ ¬∃ written, NamesNoNumber written ∧
          environment.get? "FEDERATION_HTTP_TIMEOUT_SECONDS" = some written)) ∧
    ∀ settings, load environment = .ok settings →
      timeout? environment = .ok settings.timeout := by
  refine ⟨isDocumented_timeout? environment, ?_,
    fun settings loaded => (load_eq_ok_iff.mp loaded).2.1⟩
  intro seconds given
  rw [timeout?] at given
  cases isSet : environment.get? "FEDERATION_HTTP_TIMEOUT_SECONDS" with
  | none =>
      simp only [isSet, Except.ok.injEq] at given
      subst given
      exact ⟨by decide +kernel, by simp [pos_defaultTimeout]⟩
  | some written =>
      simp only [isSet] at given
      simp only [Option.some.injEq, exists_eq_right']
      by_cases blank : strip written = ""
      · rw [if_pos blank, Except.ok.injEq] at given
        subst given
        exact ⟨by decide +kernel, iff_of_true pos_defaultTimeout (not_namesNoNumber_of_blank blank)⟩
      · rw [if_neg blank] at given
        obtain ⟨read, notLe⟩ := timeoutOf_eq_ok_iff.mp given
        refine ⟨notLe, ?_⟩
        rw [Binary64.pos_iff_of_not_le_zero notLe, ← isNaN_iff_namesNoNumber read,
          Bool.not_eq_true]

/-- The name of what is no number passes for a timeout. -/
theorem timeout_not_positive_of_name :
    let environment := [("FEDERATION_VERIFY_URL", "http://v"),
      ("FEDERATION_HTTP_TIMEOUT_SECONDS", "nan")]
    ∃ settings, load environment = .ok settings ∧
      timeout? environment = .ok settings.timeout ∧ ¬0 < settings.timeout := by
  have loaded : load [("FEDERATION_VERIFY_URL", "http://v"),
      ("FEDERATION_HTTP_TIMEOUT_SECONDS", "nan")] =
        .ok ⟨"http://v", none, Binary64.signed false 0x7FF8000000000000, none⟩ := rfl
  exact ⟨_, loaded, (load_eq_ok_iff.mp loaded).2.1, by decide +kernel⟩

end FederatedLogin.Settings
