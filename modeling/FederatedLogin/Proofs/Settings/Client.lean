import FederatedLogin.Platform.Standard
import FederatedLogin.Proofs.Address.Resolved
import FederatedLogin.Proofs.Client
import FederatedLogin.Proofs.Settings.Startup

/-!
# How the setup of a client fails

A setup gives a client for the resolved base address, or fails with a configuration failure, except
in three cases.  The name of the host can be refused.  The text of the address can be too long when
it is read a second time, since quotes make it longer.  And the path of a bundle can be too long to
be looked up.
-/

namespace FederatedLogin

open FederatedLogin.Text

namespace Client

/-- A path of a bundle that is too long to be looked up. -/
structure IsOverlong (files : Files) (path : String) : Prop where
  nonempty : path ≠ ""
  withoutZero : ¬ path.toList.contains '\x00'
  tooLong : files.isTooLong path

/-- What lets a setup for a base address fail otherwise than with a configuration failure. -/
inductive Escapes (files : Files) (bundlePath : Option String) (base : Address) : Prop where
  /-- The host is written as an international name and is none. -/
  | host (failure : Failure) (refused : base.checkHost = .error failure)
  /-- The address cannot be read again. -/
  | address (named : base.host ≠ [])
      (tooLong : Address.maxLength < (Address.withoutEndSlashes base.text).length)
  /-- The bundle cannot be looked up. -/
  | bundle (named : base.host ≠ []) (secure : base.scheme = "https".toList) (path : String)
      (isPath : bundlePath = some path) (overlong : IsOverlong files path)

section

variable [Platform] {files : Files} {bundlePath : Option String} {base : Address}

theorem not_isDocumented_trust_iff : ¬ IsDocumented (trust files bundlePath).result ↔
    ∃ path, bundlePath = some path ∧ IsOverlong files path := by
  constructor
  · intro undocumented
    cases bundlePath with
    | none => exact absurd isDocumented_ok undocumented
    | some path =>
        have nonempty : path ≠ "" := by
          rintro rfl
          exact undocumented isDocumented_ok
        have withoutZero : ¬ path.toList.contains '\x00' := by
          intro zero
          apply undocumented
          rw [trust, if_pos zero]
          · exact isDocumented_ok
          · exact nonempty
        refine ⟨path, rfl, nonempty, withoutZero, ?_⟩
        apply Decidable.byContradiction
        intro short
        apply undocumented
        rw [trust_of_isLookedUp ⟨nonempty, withoutZero, short⟩]
        split
        · exact isDocumented_configuration
        · exact isDocumented_ok
  · rintro ⟨path, rfl, nonempty, withoutZero, tooLong⟩
    rw [trust, if_neg withoutZero, if_pos tooLong]
    · exact not_isDocumented_outside
    · exact nonempty

omit [Platform] in
/-- What is wrong with a host lies outside the family of failures. -/
theorem exists_trouble_of_checkHost {failure : Failure} (refused : base.checkHost = .error failure) :
    ∃ trouble, failure = .outside trouble := by
  obtain ⟨_, fault, rfl⟩ := Address.of_checkHost_error refused
  exact ⟨_, rfl⟩

omit [Platform] in
/-- Resolving a base address fails with a configuration failure or because of the host. -/
theorem of_not_isDocumented_serviceUrl {written : String}
    (undocumented : ¬ IsDocumented (Address.serviceUrl written)) :
    ∃ base, Address.ofText? (strip written) = some base ∧ base.isWeb ∧
      ∃ failure, base.checkHost = .error failure := by
  rw [Address.serviceUrl] at undocumented
  cases isBase : Address.ofText? (strip written) with
  | none =>
      rw [isBase] at undocumented
      exact absurd isDocumented_configuration undocumented
  | some base =>
      simp only [isBase] at undocumented
      cases web : base.isWeb with
      | false =>
          rw [web] at undocumented
          exact absurd isDocumented_configuration undocumented
      | true =>
          refine ⟨base, rfl, web, ?_⟩
          simp only [web, if_true, Bool.true_and] at undocumented
          cases checked : base.checkHost with
          | error failure => exact ⟨failure, rfl⟩
          | ok done =>
              rw [checked] at undocumented
              simp only [bind, Except.bind, pure, Except.pure] at undocumented
              split at undocumented
              · exact absurd isDocumented_ok undocumented
              · exact absurd isDocumented_configuration undocumented

/-- How a setup goes on once its base address is admitted. -/
theorem build_of_base {written : String} (timeout : Float)
    (isBase : Address.ofText? (strip written) = some base) (web : base.isWeb)
    (checked : base.checkHost = .ok ()) (named : base.host ≠ []) :
    let url := Address.withoutEndSlashes base.text
    let trusted := trust files bundlePath
    build files written bundlePath timeout =
      if Address.maxLength < url.length then ⟨.error (.outside .invalidAddress), []⟩
      else if base.scheme = "https".toList then
        match trusted.result with
        | .ok () =>
            ⟨.ok { url, timeout, usesTls := true }, trusted.events ++ [.serviceSelected url]⟩
        | .error failure => ⟨.error failure, trusted.events⟩
      else ⟨.ok { url, timeout, usesTls := false }, [.serviceSelected url]⟩ := by
  intro url trusted
  have normal := Address.isNormal_of_ofChars? isBase web named
  have scheme_eq : base.again.trimmed.scheme = base.scheme := Address.scheme_mapEnd _ base.again
  simp only [build, Address.serviceUrl_of_base isBase web checked named,
    normal.ofText?_withoutEndSlashes]
  by_cases tooLong : Address.maxLength < url.length
  · simp only [if_pos tooLong, url]
  · cases (trust files bundlePath).result <;>
      simp only [if_neg tooLong, url, trusted, scheme_eq]

/-- How a setup ends once its base address is admitted. -/
theorem result_build_of_base {written : String} (timeout : Float)
    (isBase : Address.ofText? (strip written) = some base) (web : base.isWeb)
    (checked : base.checkHost = .ok ()) (named : base.host ≠ []) :
    let url := Address.withoutEndSlashes base.text
    (build files written bundlePath timeout).result =
      if Address.maxLength < url.length then .error (.outside .invalidAddress)
      else if base.scheme = "https".toList then
        (trust files bundlePath).result.map fun _ => { url, timeout, usesTls := true }
      else .ok { url, timeout, usesTls := false } := by
  intro url
  rw [build_of_base timeout isBase web checked named]
  split
  · rfl
  · split
    · cases (trust files bundlePath).result <;> rfl
    · rfl

/-- A setup that fails otherwise than with a configuration failure escapes. -/
theorem escapes_of_undocumented {written : String} {timeout : Float}
    (undocumented : ¬ IsDocumented (build files written bundlePath timeout).result) :
    ∃ base, Address.ofText? (strip written) = some base ∧ base.isWeb ∧
      Escapes files bundlePath base := by
  cases resolved : Address.serviceUrl written with
  | error failure =>
      have failed : (build files written bundlePath timeout).result = .error failure := by
        simp only [build, resolved]
      rw [failed, isDocumented_error_iff] at undocumented
      have unresolved : ¬ IsDocumented (Address.serviceUrl written) := by
        rwa [resolved, isDocumented_error_iff]
      obtain ⟨base, isBase, web, failure, refused⟩ := of_not_isDocumented_serviceUrl unresolved
      exact ⟨base, isBase, web, .host failure refused⟩
  | ok url =>
      obtain ⟨base, isBase⟩ := Address.exists_base_of_serviceUrl resolved
      obtain ⟨web, named, checked, _⟩ := Address.of_serviceUrl resolved isBase
      refine ⟨base, isBase, web, ?_⟩
      rw [result_build_of_base timeout isBase web checked named] at undocumented
      split at undocumented
      · next tooLong => exact .address named tooLong
      · split at undocumented
        · next secure =>
            rw [isDocumented_map_iff] at undocumented
            obtain ⟨path, isPath, overlong⟩ := not_isDocumented_trust_iff.mp undocumented
            exact .bundle named secure path isPath overlong
        · exact absurd isDocumented_ok undocumented

/-- A setup that escapes fails otherwise than with a configuration failure. -/
theorem Escapes.undocumented {written : String} (escapes : Escapes files bundlePath base)
    (isBase : Address.ofText? (strip written) = some base) (web : base.isWeb) (timeout : Float) :
    ¬ IsDocumented (build files written bundlePath timeout).result := by
  cases checked : base.checkHost with
  | error failure =>
      obtain ⟨trouble, rfl⟩ := exists_trouble_of_checkHost checked
      have failed : (build files written bundlePath timeout).result =
          .error (.outside trouble) := by
        simp only [build, Address.serviceUrl_of_refused isBase web checked]
      rw [failed]
      exact not_isDocumented_outside
  | ok done =>
      cases escapes with
      | host failure refused =>
          rw [checked] at refused
          cases refused
      | address named tooLong =>
          rw [result_build_of_base timeout isBase web checked named, if_pos tooLong]
          exact not_isDocumented_outside
      | bundle named secure path isPath overlong =>
          rw [result_build_of_base timeout isBase web checked named]
          by_cases tooLong : Address.maxLength < (Address.withoutEndSlashes base.text).length
          · rw [if_pos tooLong]
            exact not_isDocumented_outside
          · rw [if_neg tooLong, if_pos secure, isDocumented_map_iff, not_isDocumented_trust_iff]
            exact ⟨path, isPath, overlong⟩

/-- The setup of a client gives one for the resolved base address or fails with a configuration
failure, unless the base address is one of a web service and the setup escapes.  A resolved base
address is read again unless it is too long. -/
theorem build_undocumented_iff (files : Files) (written : String) (bundlePath : Option String)
    (timeout : Float) :
    (¬ IsDocumented (build files written bundlePath timeout).result ↔
      ∃ base, Address.ofText? (strip written) = some base ∧ base.isWeb ∧
        Escapes files bundlePath base) ∧
    (∀ client, (build files written bundlePath timeout).result = .ok client →
      Address.serviceUrl written = .ok client.url) ∧
    ∀ url, Address.serviceUrl written = .ok url →
      (Address.ofText? url = none ↔ Address.maxLength < url.length) := by
  refine ⟨⟨escapes_of_undocumented, ?_⟩, ?_, ?_⟩
  · rintro ⟨base, isBase, web, escapes⟩
    exact escapes.undocumented isBase web timeout
  · intro client built
    exact serviceUrl_of_build built
  · intro url admitted
    exact Address.ofText?_eq_none_iff_of_serviceUrl admitted

/-! ## Quotes -/

end

/-- An address with a run of quotation marks as its query. -/
def quotationMarks (count : Nat) : String :=
  "http://h?" ++ String.ofList (List.replicate count '"')

/-- Its components. -/
def writtenMarks (count : Nat) : Address.Written where
  scheme := "http".toList
  userinfo := []
  host := ['h']
  port := []
  path := []
  query := some (List.replicate count '"')
  fragment := none

/-- The address that they make up. -/
def quotedMarks (count : Nat) : Address where
  scheme := "http".toList
  userinfo := []
  host := ['h']
  port := none
  path := []
  query := some (Address.Quote.quote Address.Quote.isQuerySafe (List.replicate count '"'))
  fragment := none

theorem toList_quotationMarks (count : Nat) : (quotationMarks count).toList =
    "http://h?".toList ++ List.replicate count '"' := by
  rw [quotationMarks, String.toList_append]
  exact congrArg ("http://h?".toList ++ ·) String.toList_ofList

theorem isTidy_writtenMarks (count : Nat) : (writtenMarks count).IsTidy := by
  constructor
  · exact (by decide : "http".toList.head?.any Char.isAlpha)
  · intro value valueMem
    have all : "http".toList.all Address.isSchemeChar = true := by decide
    exact List.all_eq_true.mp all value valueMem
  · intro value valueMem
    have isHost : value = 'h' := List.mem_singleton.mp valueMem
    rw [isHost]
    decide
  · exact .inr ⟨(by decide : ['h'].head? ≠ some '['), (by decide : ':' ∉ ['h'])⟩
  · exact (by decide : '@' ∉ ['h'])
  · intro value valueMem
    cases valueMem
  · intro first firstMem
    cases firstMem
  · intro value valueMem
    cases valueMem
  · intro query isQuery hashMem
    cases isQuery
    cases List.eq_of_mem_replicate hashMem

theorem plain_of_mem_quotationMarks {count : Nat} {value : Char}
    (valueMem : value ∈ (quotationMarks count).toList) :
    isBlank value = false ∧ Address.isControl value = false := by
  have plain : "http://h?\"".toList.all
      (fun value => !isBlank value && !Address.isControl value) = true := by
    decide
  have among : value ∈ "http://h?\"".toList := by
    rw [toList_quotationMarks, List.mem_append] at valueMem
    rcases valueMem with start | mark
    · exact List.mem_append_left ['"'] start
    · rw [List.eq_of_mem_replicate mark]
      decide
  simpa using List.all_eq_true.mp plain value among

/-- As long as it is not too long, such an address is read. -/
theorem ofText?_quotationMarks {count : Nat} (fits : 9 + count ≤ Address.maxLength) :
    Address.ofText? (strip (quotationMarks count)) = some (quotedMarks count) := by
  have unblanked : strip (quotationMarks count) = quotationMarks count := by
    rw [strip, trimWhile_eq_self fun value valueMem => (plain_of_mem_quotationMarks valueMem).1,
      String.ofList_toList]
  have uncontrolled : (quotationMarks count).toList.any Address.isControl = false := by
    rw [List.any_eq_false]
    intro value valueMem
    simp [(plain_of_mem_quotationMarks valueMem).2]
  have short : ¬ Address.maxLength < (quotationMarks count).toList.length := by
    rw [toList_quotationMarks, List.length_append, List.length_replicate]
    exact Nat.not_lt.mpr fits
  have chars_eq : (quotationMarks count).toList = (writtenMarks count).chars := by
    rw [toList_quotationMarks]
    simp [Address.Written.chars, writtenMarks, Address.Written.authority,
      Address.Written.shownUserinfo, Address.Written.shownPort, Address.marked]
  rw [unblanked, Address.ofText?, Address.ofChars?, if_neg (by simp [short, uncontrolled]),
    chars_eq, (isTidy_writtenMarks count).ofChars_chars]
  rfl

/-- In its normal form every quotation mark takes three characters. -/
theorem length_quotedMarks (count : Nat) :
    (Address.withoutEndSlashes (quotedMarks count).text).length = 9 + 3 * count := by
  let quoted := Address.Quote.quote Address.Quote.isQuerySafe (List.replicate count '"')
  have chars_eq : (quotedMarks count).chars = "http://h".toList ++ '?' :: quoted := by
    simp [Address.chars, quotedMarks, Address.authority, Address.shownHost, Address.marked, quoted]
  have length_quoted : quoted.length = 3 * count := by
    have each : (Address.Quote.quoteChar Address.Quote.isQuerySafe '"').length = 3 := by decide
    simp [quoted, Address.Quote.quote, List.length_flatMap, each, Nat.mul_comm]
  have kept : dropEndWhile (· == '/') quoted = quoted := by
    apply dropEndWhile_eq_self
    intro nonempty
    rw [beq_eq_false_iff_ne]
    intro isSlash
    have slashMem : '/' ∈ quoted := isSlash ▸ List.getLast_mem nonempty
    cases List.eq_of_mem_replicate (Address.Quote.mem_of_mem_quote (by decide) slashMem)
  rw [← String.length_toList, Address.toList_withoutEndSlashes, Address.text,
    String.toList_ofList, chars_eq, dropEndWhile_append_cons _ (by decide), kept,
    List.length_append, List.length_cons, length_quoted]
  have start : "http://h".toList.length = 8 := by decide
  omega

section

open scoped Platform

/-- An address that is short enough as it is written, but not in its normal form. -/
theorem build_undocumented_of_quotation_marks :
    let written := quotationMarks 22000
    ∃ resolved, Address.serviceUrl written = .ok resolved ∧ Address.ofText? resolved = none ∧
      (build {} written none 10).result = .error (.outside .invalidAddress) ∧
      ¬ IsDocumented (build {} written none 10).result := by
  intro written
  have isBase : Address.ofText? (strip written) = some (quotedMarks 22000) :=
    ofText?_quotationMarks (by decide)
  have named : (quotedMarks 22000).host ≠ [] := List.cons_ne_nil 'h' []
  have tooLong : Address.maxLength <
      (Address.withoutEndSlashes (quotedMarks 22000).text).length := by
    rw [length_quotedMarks]
    decide
  have normal := Address.isNormal_of_ofChars? isBase rfl named
  have failed : (build {} written none 10).result = .error (.outside .invalidAddress) := by
    rw [result_build_of_base 10 isBase rfl rfl named, if_pos tooLong]
  refine ⟨_, Address.serviceUrl_of_base isBase rfl rfl named, ?_, failed, ?_⟩
  · rw [normal.ofText?_withoutEndSlashes, if_pos tooLong]
  · rw [failed]
    exact not_isDocumented_outside

end

end Client

end FederatedLogin
