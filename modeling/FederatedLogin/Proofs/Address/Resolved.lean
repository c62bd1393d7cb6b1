import FederatedLogin.Proofs.Address.Service

/-!
# Base addresses that are resolved again

The base address that comes out of `serviceUrl` can be put in once more.  It is read as the address
that it writes, so only its length can keep it out, and what then comes out has the host in lower
case throughout and no port that is the default of the scheme.  The third time nothing changes.

Already the second time changes something where the first left work behind: quotes in a host have
digits in upper case, and the default of a port goes by the scheme as it is written.
-/

namespace FederatedLogin.Address

open FederatedLogin.Text

variable {address : Address}

/-! ## Without the slashes at the end -/

/-- The address without the slashes at the end of what stands last in it. -/
def trimmed (address : Address) : Address :=
  address.mapEnd (dropEndWhile (· == '/'))

theorem IsNormal.trimmed (normal : address.IsNormal) : address.trimmed.IsNormal := by
  apply normal.mapEnd
  · intro path normalPath
    exact normalPath.withoutEndSlashes
  · intro component value valueMem
    exact .inl ((dropEndWhile_isPrefix _ _).subset valueMem)

theorem IsNormal.chars_trimmed (normal : address.IsNormal) :
    address.trimmed.chars = dropEndWhile (· == '/') address.chars := by
  have cut := normal.chars_mapEnd_dropEndWhile []
  simp only [List.append_nil] at cut
  exact cut

theorem IsNormal.toList_withoutEndSlashes_text (normal : address.IsNormal) :
    (withoutEndSlashes address.text).toList = address.trimmed.chars := by
  rw [toList_withoutEndSlashes, text, String.toList_ofList, normal.chars_trimmed]

theorem trimmed_trimmed (address : Address) : address.trimmed.trimmed = address.trimmed := by
  simp only [trimmed, mapEnd_mapEnd, dropEndWhile_dropEndWhile]

theorem checkHost_trimmed (address : Address) :
    address.trimmed.checkHost = address.checkHost :=
  checkHost_mapEnd _ address

/-! ## Reading again -/

/-- The second reading finishes the work of the first. -/
theorem again_again (address : Address) : address.again.again = address.again := by
  simp only [again, Host.again_again, mk.injEq, true_and, and_true]
  by_cases isDefault : address.port = defaultPort? address.scheme
  · simp only [if_pos isDefault, ite_self]
  · simp only [if_neg isDefault]

theorem again_trimmed (address : Address) : address.trimmed.again = address.again.trimmed := by
  obtain ⟨scheme, userinfo, host, port, path, query, fragment⟩ := address
  cases fragment with
  | some fragment => rfl
  | none => cases query <;> rfl

theorem IsNormal.again (normal : address.IsNormal) : address.again.IsNormal := by
  constructor
  · exact normal.web
  · exact normal.userinfo
  · exact normal.host.again
  · intro number isNumber
    apply normal.port
    simp only [Address.again] at isNumber
    split at isNumber
    · cases isNumber
    · exact isNumber
  · exact normal.path
  · exact normal.path_safe
  · exact normal.query
  · exact normal.fragment

/-! ## No blanks around an address -/

theorem isBlank_of_isVisible {value : Char} (visible : Quote.isVisible value) :
    isBlank value = false := by
  simp only [Quote.isVisible, Bool.and_eq_true, decide_eq_true_eq] at visible
  simp only [isBlank, isNumberBlank, Bool.or_eq_false_iff, Bool.and_eq_false_iff,
    decide_eq_false_iff_not, beq_eq_false_iff_ne]
  omega

/-- What follows the host of an address in its text. -/
def charsBehindHost (address : Address) : List Char :=
  Written.shownPort address.written.port ++
    (address.path ++ (marked '?' address.query ++ marked '#' address.fragment))

namespace IsNormal

variable (normal : address.IsNormal)
include normal

theorem isVisible_of_mem_charsBehindHost {value : Char}
    (valueMem : value ∈ address.charsBehindHost) : Quote.isVisible value := by
  simp only [charsBehindHost, List.mem_append] at valueMem
  rcases valueMem with portMem | pathMem | queryMem | fragmentMem
  · rcases Written.mem_shownPort portMem with rfl | digitMem
    · decide
    · have position := (isPlain_of_mem_port digitMem).position
      simp only [Quote.isVisible, Bool.and_eq_true, decide_eq_true_eq]
      omega
  · exact Quote.isVisible_of_isQuerySafe
      (Quote.isQuerySafe_of_isPathSafe (normal.path_safe value pathMem))
  · rcases mem_marked queryMem with rfl | ⟨query, isQuery, valueMem⟩
    · decide
    · exact Quote.isVisible_of_isQuerySafe (normal.query query isQuery value valueMem)
  · rcases mem_marked fragmentMem with rfl | ⟨fragment, isFragment, valueMem⟩
    · decide
    · exact Quote.isVisible_of_isFragmentSafe (normal.fragment fragment isFragment value valueMem)

/-- No blank stands last in a host as it is shown. -/
theorem exists_shownHost_eq :
    ∃ before last, shownHost address.host = before ++ [last] ∧ isBlank last = false := by
  rcases normal.host.safe_or_isIpv6 with safe | ⟨isLiteral, _⟩
  · have named := normal.host.ne_nil
    refine ⟨address.host.dropLast, address.host.getLast named, ?_, ?_⟩
    · rw [Host.shownHost_of_safe safe, List.dropLast_append_getLast]
    · exact isBlank_of_isVisible
        (Quote.isVisible_of_isHostSafe (safe _ (List.getLast_mem named)))
  · exact ⟨'[' :: address.host, ']', Host.shownHost_of_isIpv6 isLiteral, by decide⟩

/-- There are no blanks around the text of an address, though there may be some in its host. -/
theorem trimWhile_isBlank_chars : trimWhile isBlank address.chars = address.chars := by
  obtain ⟨before, last, host_eq, stays⟩ := normal.exists_shownHost_eq
  have chars_eq : address.chars = address.scheme ++
      ':' :: ('/' :: '/' :: (Written.shownUserinfo address.userinfo ++ before)) ++
        last :: address.charsBehindHost := by
    rw [normal.chars_written, Written.chars, Written.authority, charsBehindHost]
    simp [written, host_eq]
  have fromFront : address.chars.dropWhile isBlank = address.chars := by
    rw [chars_eq]
    rcases normal.scheme_eq with isHttp | isHttps
    · rw [isHttp]
      rfl
    · rw [isHttps]
      rfl
  have toEnd : dropEndWhile isBlank address.charsBehindHost = address.charsBehindHost := by
    apply dropEndWhile_eq_self
    intro nonempty
    exact isBlank_of_isVisible
      (normal.isVisible_of_mem_charsBehindHost (List.getLast_mem nonempty))
  rw [trimWhile, fromFront, chars_eq, dropEndWhile_append_cons isBlank stays, toEnd]

end IsNormal

/-! ## What a second reading leaves alone -/

/-- An address with nothing left for a second reading: its port is not the default of its scheme,
and its host is a literal or has no letters in upper case. -/
structure IsSettled (address : Address) : Prop where
  port : address.port ≠ defaultPort? address.scheme
  host : ':' ∈ address.host ∨ ∀ value ∈ address.host, value.isUpper = false

theorem isSettled_trimmed_iff : address.trimmed.IsSettled ↔ address.IsSettled := by
  have scheme_eq : address.trimmed.scheme = address.scheme := scheme_mapEnd _ address
  have host_eq : address.trimmed.host = address.host := host_mapEnd _ address
  have port_eq : address.trimmed.port = address.port := port_mapEnd _ address
  constructor
  · rintro ⟨port, host⟩
    exact ⟨by rwa [← scheme_eq, ← port_eq], by rwa [← host_eq]⟩
  · rintro ⟨port, host⟩
    exact ⟨by rwa [scheme_eq, port_eq], by rwa [host_eq]⟩

namespace IsNormal

variable (normal : address.IsNormal)
include normal

theorem exists_defaultPort : ∃ number, defaultPort? address.scheme = some number := by
  rcases normal.scheme_eq with isHttp | isHttps
  · exact ⟨80, by rw [isHttp]; rfl⟩
  · exact ⟨443, by rw [isHttps]; rfl⟩

theorem again_eq_self_iff : address.again = address ↔ address.IsSettled := by
  obtain ⟨number, isDefault⟩ := normal.exists_defaultPort
  constructor
  · intro same
    constructor
    · intro port_eq
      have dropped : address.again.port = none := if_pos port_eq
      rw [same, port_eq, isDefault] at dropped
      cases dropped
    · exact Host.again_eq_self_iff.mp (congrArg Address.host same)
  · rintro ⟨port, host⟩
    simp only [Address.again, Host.again_eq_self_iff.mpr host, if_neg port]

/-- An address with the text that it has when it is read again is that address. -/
theorem again_eq_self_of_chars (same : address.again.chars = address.chars) :
    address.again = address := by
  -- Both texts are tidy, so they are cut into the same components.
  have sameWritten : address.again.written = address.written := by
    rw [← normal.again.isTidy_written.ofChars_chars, ← normal.isTidy_written.ofChars_chars,
      ← normal.again.chars_written, ← normal.chars_written, same]
  have host_eq : Host.again address.host = address.host :=
    Host.shownHost_inj (congrArg Written.host sameWritten)
  apply normal.again_eq_self_iff.mpr
  refine ⟨?_, Host.again_eq_self_iff.mp host_eq⟩
  intro port_eq
  obtain ⟨number, isDefault⟩ := normal.exists_defaultPort
  have dropped : address.again.port = none := if_pos port_eq
  have samePort : address.again.written.port = address.written.port :=
    congrArg Written.port sameWritten
  simp only [written, dropped, port_eq, isDefault, Option.map_none, Option.map_some,
    Option.getD_none, Option.getD_some] at samePort
  exact toList_toString_ne_nil number samePort.symm

/-- A second reading makes no text longer. -/
theorem length_chars_again : address.again.chars.length ≤ address.chars.length := by
  have port_le : (Written.shownPort address.again.written.port).length ≤
      (Written.shownPort address.written.port).length := by
    simp only [written, Address.again]
    split
    · exact Nat.zero_le _
    · exact Nat.le_refl _
  have host_eq : address.again.written.host.length = address.written.host.length :=
    Host.length_shownHost_again address.host
  rw [normal.again.chars_written, normal.chars_written]
  simp only [Written.chars, Written.authority, List.length_append, List.length_cons, host_eq]
  simp only [written, Address.again] at port_le ⊢
  omega

end IsNormal

/-! ## The second time -/

namespace IsNormal

variable (normal : address.IsNormal)
include normal

theorem ofText?_withoutEndSlashes : ofText? (withoutEndSlashes address.text) =
    if maxLength < (withoutEndSlashes address.text).length then none
    else some address.again.trimmed := by
  rw [ofText?, ← String.length_toList, normal.toList_withoutEndSlashes_text,
    normal.trimmed.ofChars?_chars, again_trimmed]

theorem strip_withoutEndSlashes :
    strip (withoutEndSlashes address.text) = withoutEndSlashes address.text := by
  rw [strip, normal.toList_withoutEndSlashes_text, normal.trimmed.trimWhile_isBlank_chars,
    ← normal.toList_withoutEndSlashes_text, String.ofList_toList]

/-- The text of an address without the slashes at its end is resolved to that of the address that is
read again. -/
theorem serviceUrl_withoutEndSlashes (checked : address.again.checkHost = .ok ())
    (short : (withoutEndSlashes address.text).length ≤ maxLength) :
    serviceUrl (withoutEndSlashes address.text) = .ok (withoutEndSlashes address.again.text) := by
  have isAddress : ofText? (strip (withoutEndSlashes address.text)) =
      some address.again.trimmed := by
    rw [normal.strip_withoutEndSlashes, normal.ofText?_withoutEndSlashes,
      if_neg (Nat.not_lt.mpr short)]
  have checkedTrimmed := (checkHost_trimmed address.again).trans checked
  have sameText : withoutEndSlashes address.again.trimmed.text =
      withoutEndSlashes address.again.text := by
    apply String.toList_inj.mp
    rw [normal.again.trimmed.toList_withoutEndSlashes_text, trimmed_trimmed,
      normal.again.toList_withoutEndSlashes_text]
  rw [serviceUrl_of_base isAddress normal.again.trimmed.web checkedTrimmed
    normal.again.trimmed.host.ne_nil, sameText]

end IsNormal

/-- What comes of a base address that is admitted is an address, unless it is too long. -/
theorem ofText?_eq_none_iff_of_serviceUrl {written resolved : String}
    (admitted : serviceUrl written = .ok resolved) :
    ofText? resolved = none ↔ maxLength < resolved.length := by
  obtain ⟨base, isBase⟩ := exists_base_of_serviceUrl admitted
  have normal := isNormal_of_serviceUrl admitted isBase
  obtain ⟨_, _, _, rfl⟩ := of_serviceUrl admitted isBase
  rw [normal.ofText?_withoutEndSlashes]
  split
  · next tooLong => simp [tooLong]
  · next short => simp [short]

/-- A base address that is admitted and does not come out too long can be resolved again.  What
comes of that does not change any more, and it is what came out the first time exactly if nothing
was left to do on the address. -/
theorem resolved_unchanged_iff {written resolved : String} {base : Address}
    (admitted : serviceUrl written = .ok resolved) (isBase : ofText? (strip written) = some base)
    (short : resolved.length ≤ maxLength) :
    (∃ settled, serviceUrl resolved = .ok settled ∧ serviceUrl settled = .ok settled) ∧
      (serviceUrl resolved = .ok resolved ↔ base.IsSettled) := by
  have normal := isNormal_of_serviceUrl admitted isBase
  obtain ⟨_, named, checked, rfl⟩ := of_serviceUrl admitted isBase
  obtain ⟨host, isHost⟩ := exists_host_of_ofChars? isBase
  have checkedAgain := (checkHost_again named isHost).trans checked
  have second := normal.serviceUrl_withoutEndSlashes checkedAgain short
  constructor
  · refine ⟨withoutEndSlashes base.again.text, second, ?_⟩
    have shortAgain : (withoutEndSlashes base.again.text).length ≤ maxLength := by
      apply Nat.le_trans _ short
      rw [← String.length_toList, ← String.length_toList,
        normal.toList_withoutEndSlashes_text, normal.again.toList_withoutEndSlashes_text,
        ← again_trimmed]
      exact normal.trimmed.length_chars_again
    have checkedThird : base.again.again.checkHost = .ok () := by
      rw [again_again]
      exact checkedAgain
    have third := normal.again.serviceUrl_withoutEndSlashes checkedThird shortAgain
    rw [again_again] at third
    exact third
  · rw [second, Except.ok.injEq]
    constructor
    · intro unchanged
      have sameChars : base.trimmed.again.chars = base.trimmed.chars := by
        rw [again_trimmed, ← normal.again.toList_withoutEndSlashes_text,
          ← normal.toList_withoutEndSlashes_text, unchanged]
      have settled := normal.trimmed.again_eq_self_iff.mp
        (normal.trimmed.again_eq_self_of_chars sameChars)
      exact isSettled_trimmed_iff.mp settled
    · intro settled
      rw [normal.again_eq_self_iff.mpr settled]

/-- Dots, slashes and capitals are dealt with the first time. -/
theorem plain_base_unchanged :
    serviceUrl " http://V:8080/a/../b// " = .ok "http://v:8080/b" ∧
      serviceUrl "http://v:8080/b" = .ok "http://v:8080/b" := by
  have admitted : serviceUrl " http://V:8080/a/../b// " = .ok "http://v:8080/b" := by
    decide +kernel
  have isBase : ofText? (strip " http://V:8080/a/../b// ") =
      some ⟨"http".toList, [], ['v'], some 8080, "/b//".toList, none, none⟩ := by
    decide +kernel
  have unchanged := (resolved_unchanged_iff admitted isBase (by decide +kernel)).2
  have lower : ∀ value ∈ ['v'], value.isUpper = false := by simp
  exact ⟨admitted, unchanged.mpr ⟨by decide, .inr lower⟩⟩

/-- The default port of a scheme in upper case stays the first time, and so do the digits of a
quote. -/
theorem late_changes :
    serviceUrl "HTTP://v:80" = .ok "http://v:80" ∧ serviceUrl "http://v:80" = .ok "http://v" ∧
      serviceUrl "http://a<b" = .ok "http://a%3Cb" ∧
      serviceUrl "http://a%3Cb" = .ok "http://a%3cb" ∧
      "http://v:80".length ≤ maxLength ∧ serviceUrl "http://v:80" ≠ .ok "http://v:80" := by
  have second : serviceUrl "http://v:80" = .ok "http://v" := by decide +kernel
  refine ⟨by decide +kernel, second, by decide +kernel, by decide +kernel, by decide +kernel, ?_⟩
  rw [second]
  decide

end FederatedLogin.Address
