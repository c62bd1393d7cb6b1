import FederatedLogin.Proofs.Address.Normal
import FederatedLogin.Proofs.HostName.Case

/-!
# Where tokens are posted

The slashes at the end of a base address are dropped from its text, and the path of authentication
is put behind the text.  Both happen at whatever stands last in the address: in its fragment if it
has one, else in its query if it has one, else in its path.  So tokens are posted below the path of
the base exactly if it has neither, and if the text that comes about is not too long.
-/

namespace FederatedLogin.Address

open FederatedLogin.Text

variable {address : Address}

/-! ## The end of an address -/

/-- An address with a change to what stands last in its text. -/
def mapEnd (change : List Char → List Char) (address : Address) : Address :=
  match address.fragment, address.query with
  | some fragment, _ => { address with fragment := some (change fragment) }
  | none, some query => { address with query := some (change query) }
  | none, none => { address with path := change address.path }

/-- What stands in front of the path in the text of an address. -/
def charsBeforePath (address : Address) : List Char :=
  (if address.scheme.isEmpty then [] else address.scheme ++ [':']) ++
    if address.authority.isEmpty then [] else '/' :: '/' :: address.authority

theorem chars_eq (address : Address) : address.chars =
    address.charsBeforePath ++ (address.path ++
      (marked '?' address.query ++ marked '#' address.fragment)) := by
  simp only [chars, charsBeforePath, List.append_assoc]

/-- Only what can stand last is changed. -/
theorem mapEnd_eq (change : List Char → List Char) (address : Address) : address.mapEnd change =
    { address with
      path := (address.mapEnd change).path
      query := (address.mapEnd change).query
      fragment := (address.mapEnd change).fragment } := by
  obtain ⟨scheme, userinfo, host, port, path, query, fragment⟩ := address
  cases fragment with
  | some fragment => rfl
  | none => cases query <;> rfl

theorem mapEnd_mapEnd (first second : List Char → List Char) (address : Address) :
    (address.mapEnd first).mapEnd second = address.mapEnd fun component =>
      second (first component) := by
  obtain ⟨scheme, userinfo, host, port, path, query, fragment⟩ := address
  cases fragment with
  | some fragment => rfl
  | none => cases query <;> rfl

theorem scheme_mapEnd (change : List Char → List Char) (address : Address) :
    (address.mapEnd change).scheme = address.scheme := by
  rw [mapEnd_eq]

theorem host_mapEnd (change : List Char → List Char) (address : Address) :
    (address.mapEnd change).host = address.host := by
  rw [mapEnd_eq]

theorem port_mapEnd (change : List Char → List Char) (address : Address) :
    (address.mapEnd change).port = address.port := by
  rw [mapEnd_eq]

theorem isWeb_mapEnd (change : List Char → List Char) (address : Address) :
    (address.mapEnd change).isWeb = address.isWeb := by
  simp only [isWeb, scheme_mapEnd]

theorem checkHost_mapEnd (change : List Char → List Char) (address : Address) :
    (address.mapEnd change).checkHost = address.checkHost := by
  simp only [checkHost, host_mapEnd]

theorem charsBeforePath_mapEnd (change : List Char → List Char) (address : Address) :
    (address.mapEnd change).charsBeforePath = address.charsBeforePath := by
  rw [mapEnd_eq]
  rfl

/-- No slash stands last in front of the path. -/
theorem IsNormal.exists_charsBeforePath_eq (normal : address.IsNormal) :
    ∃ before last, address.charsBeforePath = before ++ [last] ∧ last ≠ '/' := by
  have authorized := normal.authority_ne_nil
  have schemed := normal.scheme_isEmpty
  have last := normal.isClean_of_mem_authority (List.getLast_mem authorized)
  refine ⟨address.scheme ++ ':' :: '/' :: '/' :: address.authority.dropLast,
    address.authority.getLast authorized, ?_, ?_⟩
  · rw [charsBeforePath, schemed, List.isEmpty_eq_false_iff.mpr authorized]
    simp [List.dropLast_append_getLast]
  · intro isSlash
    exact last.1 (isSlash ▸ List.mem_cons_self ..)

/-- The text of an address is cut in front of what stands last in it, behind a character that is
no slash. -/
theorem IsNormal.exists_chars_mapEnd (normal : address.IsNormal) :
    ∃ before mark component, mark ≠ '/' ∧ address.chars = before ++ mark :: component ∧
      ∀ change, (address.mapEnd change).chars = before ++ mark :: change component := by
  simp only [chars_eq, charsBeforePath_mapEnd]
  cases isFragment : address.fragment with
  | some fragment =>
      refine ⟨address.charsBeforePath ++ (address.path ++ marked '?' address.query), '#', fragment,
        by decide, ?_, ?_⟩
      · simp [marked]
      · simp [mapEnd, isFragment, marked]
  | none =>
      cases isQuery : address.query with
      | some query =>
          refine ⟨address.charsBeforePath ++ address.path, '?', query, by decide, ?_, ?_⟩
          · simp [marked]
          · simp [mapEnd, isFragment, isQuery, marked]
      | none =>
          obtain ⟨before, last, before_eq, stays⟩ := normal.exists_charsBeforePath_eq
          refine ⟨before, last, address.path, stays, ?_, ?_⟩
          · simp [before_eq, marked]
          · simp [mapEnd, isFragment, isQuery, before_eq, marked]

/-- A text without the slashes at its end, and with something else there, is that of the address
with the same done to what stands last in it. -/
theorem IsNormal.chars_mapEnd_dropEndWhile (normal : address.IsNormal) (below : List Char) :
    (address.mapEnd fun component => dropEndWhile (· == '/') component ++ below).chars =
      dropEndWhile (· == '/') address.chars ++ below := by
  obtain ⟨before, mark, component, stays, chars_eq, mapEnd_eq⟩ := normal.exists_chars_mapEnd
  have kept : (mark == '/') = false := beq_eq_false_iff_ne.mpr stays
  rw [mapEnd_eq, chars_eq, dropEndWhile_append_cons (· == '/') kept, List.append_assoc,
    List.cons_append]

/-- An address in normal form stays so when its end is changed into a path in normal form, of
characters that were there or are safe everywhere. -/
theorem IsNormal.mapEnd (normal : address.IsNormal) {change : List Char → List Char}
    (normalPath : ∀ {path}, Path.IsNormal path → Path.IsNormal (change path))
    (safe : ∀ {component value}, value ∈ change component →
      value ∈ component ∨ Quote.isPathSafe value ∧ Quote.isFragmentSafe value) :
    (address.mapEnd change).IsNormal := by
  obtain ⟨scheme, userinfo, host, port, path, query, fragment⟩ := address
  cases fragment with
  | some fragment =>
      constructor
      · exact normal.web
      · exact normal.userinfo
      · exact normal.host
      · exact normal.port
      · exact normal.path
      · exact normal.path_safe
      · exact normal.query
      · intro changed isFragment value valueMem
        cases isFragment
        rcases safe valueMem with old | new
        · exact normal.fragment fragment rfl value old
        · exact new.2
  | none =>
      cases query with
      | some query =>
          constructor
          · exact normal.web
          · exact normal.userinfo
          · exact normal.host
          · exact normal.port
          · exact normal.path
          · exact normal.path_safe
          · intro changed isQuery value valueMem
            cases isQuery
            rcases safe valueMem with old | new
            · exact normal.query query rfl value old
            · exact Quote.isQuerySafe_of_isPathSafe new.1
          · exact normal.fragment
      | none =>
          constructor
          · exact normal.web
          · exact normal.userinfo
          · exact normal.host
          · exact normal.port
          · exact normalPath normal.path
          · intro value valueMem
            rcases safe valueMem with old | new
            · exact normal.path_safe value old
            · exact new.1
          · exact normal.query
          · exact normal.fragment

/-! ## The endpoint of a base -/

/-- The address with the path of authentication behind what stands last in it. -/
def endpoint (base : Address) : Address :=
  base.mapEnd fun component => dropEndWhile (· == '/') component ++ authenticatePath.toList

theorem toList_authenticatePath :
    authenticatePath.toList = '/' :: "authenticate/token".toList := by
  decide

theorem safe_of_mem_authenticatePath {value : Char} (valueMem : value ∈ authenticatePath.toList) :
    Quote.isPathSafe value ∧ Quote.isFragmentSafe value := by
  have pathSafe : authenticatePath.toList.all Quote.isPathSafe = true := by decide
  have fragmentSafe : authenticatePath.toList.all Quote.isFragmentSafe = true := by decide
  exact ⟨List.all_eq_true.mp pathSafe value valueMem, List.all_eq_true.mp fragmentSafe value valueMem⟩

theorem plain_of_mem_partsAt_authenticatePath :
    ∀ segment ∈ partsAt '/' "authenticate/token".toList, Path.IsPlain segment := by
  have parts : partsAt '/' "authenticate/token".toList =
      ["authenticate".toList, "token".toList] := by
    decide
  rw [parts]
  intro segment segmentMem
  simp only [List.mem_cons, List.not_mem_nil, or_false] at segmentMem
  rcases segmentMem with rfl | rfl
  · exact ⟨by decide, by decide⟩
  · exact ⟨by decide, by decide⟩

theorem IsNormal.endpoint (normal : address.IsNormal) : address.endpoint.IsNormal := by
  apply normal.mapEnd
  · intro path normalPath
    rw [toList_authenticatePath]
    exact normalPath.withoutEndSlashes.append plain_of_mem_partsAt_authenticatePath
  · intro component value valueMem
    rcases List.mem_append.mp valueMem with old | new
    · exact .inl ((dropEndWhile_isPrefix _ _).subset old)
    · exact .inr (safe_of_mem_authenticatePath new)

theorem toList_withoutEndSlashes (source : String) :
    (withoutEndSlashes source).toList = dropEndWhile (· == '/') source.toList :=
  String.toList_ofList

theorem IsNormal.toList_authenticateUrl (normal : address.IsNormal) :
    (authenticateUrl (withoutEndSlashes address.text)).toList = address.endpoint.chars := by
  rw [authenticateUrl, String.toList_append, toList_withoutEndSlashes, toList_withoutEndSlashes,
    dropEndWhile_dropEndWhile, text, String.toList_ofList]
  exact (normal.chars_mapEnd_dropEndWhile _).symm

theorem dropEndWhile_append_authenticatePath (before : List Char) :
    dropEndWhile (· == '/') (before ++ authenticatePath.toList) =
      before ++ authenticatePath.toList := by
  have last : authenticatePath.toList = "/authenticate/toke".toList ++ ['n'] := by
    decide
  rw [last, ← List.append_assoc]
  exact dropEndWhile_append_cons (· == '/') rfl _ []

/-- Only below an address without query and fragment, the path of the endpoint lies below the path
of the address. -/
theorem path_endpoint_eq_iff (base : Address) :
    base.endpoint.path = dropEndWhile (· == '/') base.path ++ authenticatePath.toList ↔
      base.query = none ∧ base.fragment = none := by
  obtain ⟨scheme, userinfo, host, port, path, query, fragment⟩ := base
  have apart : path ≠ dropEndWhile (· == '/') path ++ authenticatePath.toList := by
    intro same
    have kept : dropEndWhile (· == '/') path = path := by
      rw [same]
      exact dropEndWhile_append_authenticatePath _
    rw [kept, List.self_eq_append_right] at same
    cases same
  cases fragment with
  | some fragment => simp [endpoint, mapEnd, apart]
  | none =>
      cases query with
      | some query => simp [endpoint, mapEnd, apart]
      | none => simp [endpoint, mapEnd]

/-! ## The address of the service -/

variable {written resolved : String} {base : Address}

/-- A base address with a host that is in order is admitted. -/
theorem serviceUrl_of_base (isBase : ofText? (strip written) = some base) (web : base.isWeb)
    (checked : base.checkHost = .ok ()) (named : base.host ≠ []) :
    serviceUrl written = .ok (withoutEndSlashes base.text) := by
  have nonempty : base.host.isEmpty = false := List.isEmpty_eq_false_iff.mpr named
  simp only [serviceUrl, isBase, web, checked, nonempty, if_true, Bool.not_false, Bool.and_self]
  rfl

/-- What is wrong with the host of a web service is passed on. -/
theorem serviceUrl_of_refused {failure : Failure} (isBase : ofText? (strip written) = some base)
    (web : base.isWeb) (refused : base.checkHost = .error failure) :
    serviceUrl written = .error failure := by
  simp only [serviceUrl, isBase, web, refused, if_true]
  rfl

/-- A base address that is admitted is an address. -/
theorem exists_base_of_serviceUrl (admitted : serviceUrl written = .ok resolved) :
    ∃ base, ofText? (strip written) = some base := by
  rw [serviceUrl] at admitted
  cases isBase : ofText? (strip written) with
  | none =>
      rw [isBase] at admitted
      cases admitted
  | some base => exact ⟨base, rfl⟩

/-- What a base address that is admitted is, and what it comes to. -/
theorem of_serviceUrl (admitted : serviceUrl written = .ok resolved)
    (isBase : ofText? (strip written) = some base) :
    base.isWeb ∧ base.host ≠ [] ∧ base.checkHost = .ok () ∧
      resolved = withoutEndSlashes base.text := by
  simp only [serviceUrl, isBase] at admitted
  cases web : base.isWeb with
  | false =>
      rw [web] at admitted
      cases admitted
  | true =>
      simp only [web, if_true, Bool.true_and] at admitted
      cases checked : base.checkHost with
      | error failure =>
          rw [checked] at admitted
          cases admitted
      | ok done =>
          rw [checked] at admitted
          simp only [bind, Except.bind, pure, Except.pure] at admitted
          split at admitted
          · next named =>
              have named : base.host ≠ [] := by simpa using named
              exact ⟨rfl, named, rfl, (Except.ok.inj admitted).symm⟩
          · cases admitted

theorem isNormal_of_serviceUrl (admitted : serviceUrl written = .ok resolved)
    (isBase : ofText? (strip written) = some base) : base.IsNormal := by
  obtain ⟨web, named, _, _⟩ := of_serviceUrl admitted isBase
  exact isNormal_of_ofChars? isBase web named

/-- The host of an address that a text writes is the normal form of the one in its components. -/
theorem normalize?_host_of_ofChars? {source : List Char}
    (isAddress : ofChars? source = some address) :
    Host.normalize? (Written.ofChars source).host = some address.host := by
  rw [ofChars?, Option.ite_none_left_eq_some] at isAddress
  obtain ⟨host, port, isHost, _, _, rfl⟩ := Written.normalize?_eq_some_iff.mp isAddress.2
  exact isHost

/-- The host of an address that a text writes comes from a host that was written. -/
theorem exists_host_of_ofChars? {source : List Char} (isAddress : ofChars? source = some address) :
    ∃ host, Host.normalize? host = some address.host :=
  ⟨_, normalize?_host_of_ofChars? isAddress⟩

/-- Only a host that is written as an international name is refused. -/
theorem of_checkHost_error {failure : Failure} (refused : base.checkHost = .error failure) :
    HostName.marker.isPrefixOf base.host ∧ ∃ fault, failure = .outside (.hostRefused fault) := by
  rw [checkHost] at refused
  split at refused
  · next marked =>
      cases checked : HostName.check base.host with
      | ok done =>
          rw [checked] at refused
          cases refused
      | error fault =>
          rw [checked] at refused
          exact ⟨marked, fault, (Except.error.inj refused).symm⟩
  · cases refused

/-- A host that is read again is in order if it was before. -/
theorem checkHost_again {written : List Char} (named : address.host ≠ [])
    (isHost : Host.normalize? written = some address.host) :
    address.again.checkHost = address.checkHost := by
  have nonempty : written ≠ [] := by
    rintro rfl
    have unnamed : some [] = some address.host := isHost
    exact named (Option.some.inj unnamed).symm
  have sameCheck : HostName.check (Host.again address.host) = HostName.check address.host := by
    rw [Host.again]
    split
    · rfl
    · exact HostName.check_map_toLower address.host
  simp only [checkHost, again, sameCheck, Host.isPrefixOf_marker_again nonempty isHost]

theorem checkHost_endpoint (base : Address) : base.endpoint.checkHost = base.checkHost :=
  checkHost_mapEnd _ base

/-- An address in normal form that is read again is absolute. -/
theorem IsNormal.isAbsolute_again (normal : address.IsNormal) : address.again.isAbsolute := by
  have named := normal.host.ne_nil
  have namedAgain : Host.again address.host ≠ [] := by
    rw [Host.again]
    split
    · exact named
    · simpa using named
  simp [isAbsolute, again, normal.scheme_isEmpty, namedAgain]

end FederatedLogin.Address
