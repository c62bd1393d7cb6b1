import FederatedLogin.Proofs.Address.Service

/-!
# Slashes behind a base address

A slash behind a text that writes an address with a host stands behind what is last in it: the
fragment, else the query, else the path, which may end in dot segments or not be there at all.  The
scheme, the authority and the cuts in front do not see it, and it comes through to the end of the
address, where it is dropped.  So a base address comes to the same with slashes behind it.

Without a host there is no base address, with slashes or without, though the slashes may give the
text another meaning: `http:/` becomes `http://`, and `//@/`, which is an address, becomes `//@//`,
which is none.
-/

namespace FederatedLogin.Address

open FederatedLogin.Text

variable {source : List Char}

/-! ## Cuts in front of a slash -/

theorem exists_splitBefore (ends source : List Char) : ∃ before after,
    source = before ++ after ∧ (∀ value ∈ before, value ∉ ends) ∧ StartsWithin ends after := by
  refine ⟨source.takeWhile (!ends.contains ·), source.dropWhile (!ends.contains ·),
    (List.takeWhile_append_dropWhile ..).symm, fun value valueMem => ?_, fun first firstMem => ?_⟩
  · exact (mem_fst_splitBefore valueMem).2
  · have stops := List.head?_dropWhile_not (!ends.contains ·) source
    rw [Option.mem_def.mp firstMem] at stops
    simpa using stops

theorem StartsWithin.exists_marked {mark : Char} (starts : StartsWithin [mark] source) :
    ∃ component, source = marked mark component := by
  cases source with
  | nil => exact ⟨none, rfl⟩
  | cons first rest =>
      have isMark := List.mem_singleton.mp (starts first rfl)
      exact ⟨some rest, by rw [isMark]; rfl⟩

namespace Written

/-- Every text is a path, a query and a fragment. -/
theorem exists_end (source : List Char) : ∃ path query fragment,
    source = path ++ (marked '?' query ++ marked '#' fragment) ∧
      (∀ value ∈ path, value ∉ ['?', '#']) ∧ ∀ content ∈ query, '#' ∉ content := by
  obtain ⟨path, behindPath, rfl, path_chars, starts⟩ := exists_splitBefore ['?', '#'] source
  obtain ⟨beforeHash, fromHash, rfl, hashFree, fragmentStarts⟩ :=
    exists_splitBefore ['#'] behindPath
  obtain ⟨fragment, rfl⟩ := fragmentStarts.exists_marked
  have queryStarts : StartsWithin ['?'] beforeHash := by
    intro first firstMem
    have present : first ∈ beforeHash := List.mem_of_mem_head? firstMem
    have allowed := starts first (by rw [List.head?_append, firstMem, Option.some_or]; rfl)
    have unlike := hashFree first present
    simp only [List.mem_cons, List.not_mem_nil, or_false] at allowed unlike ⊢
    exact allowed.resolve_right unlike
  obtain ⟨query, rfl⟩ := queryStarts.exists_marked
  refine ⟨path, query, fragment, rfl, path_chars, ?_⟩
  rintro content isContent hashMem
  cases isContent
  exact hashFree '#' (List.mem_cons_of_mem _ hashMem) (List.mem_singleton_self _)

/-- Components with a change to what stands last in their text. -/
def mapEnd (change : List Char → List Char) (written : Written) : Written :=
  match written.fragment, written.query with
  | some fragment, _ => { written with fragment := some (change fragment) }
  | none, some query => { written with query := some (change query) }
  | none, none => { written with path := change written.path }

theorem mapEnd_eq (change : List Char → List Char) (written : Written) : written.mapEnd change =
    { written with
      path := (written.mapEnd change).path
      query := (written.mapEnd change).query
      fragment := (written.mapEnd change).fragment } := by
  obtain ⟨scheme, userinfo, host, port, path, query, fragment⟩ := written
  cases fragment with
  | some fragment => rfl
  | none => cases query <;> rfl

/-- No scheme ends at a slash. -/
theorem splitScheme_append_slash (source : List Char) :
    splitScheme (source ++ ['/']) = ((splitScheme source).1, (splitScheme source).2 ++ ['/']) := by
  have sameHead : (source ++ ['/']).head?.any Char.isAlpha = source.head?.any Char.isAlpha := by
    cases source <;> rfl
  have sameTaken : (source ++ ['/']).takeWhile isSchemeChar = source.takeWhile isSchemeChar := by
    have stops : ['/'].takeWhile isSchemeChar = [] := by decide
    rw [List.takeWhile_append, stops, List.append_nil]
    split
    · next whole => exact ((source.takeWhile_prefix _).eq_of_length whole).symm
    · rfl
  simp only [splitScheme, sameHead, sameTaken]
  generalize taken : (if source.head?.any Char.isAlpha then source.takeWhile isSchemeChar else []) =
    scheme
  have short : scheme.length ≤ source.length := by
    rw [← taken]
    split
    · exact (source.takeWhile_prefix _).length_le
    · exact Nat.zero_le _
  rw [List.drop_append_of_le_length short]
  cases source.drop scheme.length with
  | nil => rfl
  | cons first rest =>
      by_cases isColon : first = ':'
      · rw [isColon]
        rfl
      · simp [isColon]

theorem splitBefore_append_slash {ends : List Char} (slashMem : '/' ∈ ends) (source : List Char) :
    splitBefore ends (source ++ ['/']) =
      ((splitBefore ends source).1, (splitBefore ends source).2 ++ ['/']) := by
  obtain ⟨before, after, rfl, others, starts⟩ := exists_splitBefore ends source
  have slashStarts : StartsWithin ends ['/'] := by
    rintro first ⟨⟩
    exact slashMem
  rw [splitBefore_append others starts, List.append_assoc,
    splitBefore_append others (starts.append slashStarts)]

theorem splitAuthority_of_unlike (unlike : ∀ rest, source ≠ '/' :: '/' :: rest) :
    splitAuthority source = ([], source) := by
  rw [splitAuthority.eq_def]
  split
  · exact absurd rfl (unlike _)
  · rfl

/-- No authority reaches to a slash behind it.  A slash behind a single one opens an authority, but
an empty one. -/
theorem splitAuthority_append_slash (source : List Char) :
    (splitAuthority (source ++ ['/'])).1 = (splitAuthority source).1 ∧
      ((splitAuthority source).1 ≠ [] →
        (splitAuthority (source ++ ['/'])).2 = (splitAuthority source).2 ++ ['/']) := by
  by_cases authorized : ∃ rest, source = '/' :: '/' :: rest
  · obtain ⟨rest, rfl⟩ := authorized
    have cutAt := splitBefore_append_slash (List.mem_cons_self .. : '/' ∈ ['/', '?', '#']) rest
    simp only [List.cons_append, splitAuthority, cutAt, implies_true, and_self]
  · rw [splitAuthority_of_unlike (not_exists.mp authorized)]
    refine ⟨?_, fun nonempty => absurd rfl nonempty⟩
    by_cases isSlash : source = ['/']
    · rw [isSlash]
      rfl
    · rw [splitAuthority_of_unlike]
      intro rest
      rcases source with _ | ⟨first, _ | ⟨second, others⟩⟩
      · intro same
        cases same
      · rintro ⟨⟩
        exact isSlash rfl
      · rintro ⟨⟩
        exact authorized ⟨others, rfl⟩

/-- The slash comes behind what stands last. -/
theorem splitEnd_append_slash (written : Written) {source : List Char}
    (isEnd : splitEnd source = (written.path, written.query, written.fragment)) :
    splitEnd (source ++ ['/']) = ((written.mapEnd (· ++ ['/'])).path,
      (written.mapEnd (· ++ ['/'])).query, (written.mapEnd (· ++ ['/'])).fragment) := by
  obtain ⟨scheme, userinfo, host, port, path, query, fragment⟩ := written
  obtain ⟨pathText, queryText, fragmentText, rfl, path_chars, query_chars⟩ := exists_end source
  rw [splitEnd_append path_chars query_chars, Prod.mk.injEq, Prod.mk.injEq] at isEnd
  obtain ⟨rfl, rfl, rfl⟩ := isEnd
  cases fragmentText with
  | some fragment =>
      have regroup : pathText ++ (marked '?' queryText ++ marked '#' (some fragment)) ++ ['/'] =
          pathText ++ (marked '?' queryText ++ marked '#' (some (fragment ++ ['/']))) := by
        simp [marked]
      rw [regroup, splitEnd_append path_chars query_chars]
      rfl
  | none =>
      cases queryText with
      | some query =>
          have regroup : pathText ++ (marked '?' (some query) ++ marked '#' none) ++ ['/'] =
              pathText ++ (marked '?' (some (query ++ ['/'])) ++ marked '#' none) := by
            simp [marked]
          have hashFree : ∀ content ∈ some (query ++ ['/']), '#' ∉ content := by
            rintro content ⟨⟩
            simpa using query_chars query rfl
          rw [regroup, splitEnd_append path_chars hashFree]
          rfl
      | none =>
          have regroup : pathText ++ (marked '?' none ++ marked '#' none) ++ ['/'] =
              pathText ++ ['/'] ++ (marked '?' none ++ marked '#' none) := by
            simp [marked]
          have markFree : ∀ value ∈ pathText ++ ['/'], value ∉ ['?', '#'] :=
            List.forall_mem_append.mpr ⟨path_chars, by simp⟩
          rw [regroup, splitEnd_append markFree query_chars]
          rfl

theorem host_ofChars_append_slash (source : List Char) :
    (ofChars (source ++ ['/'])).host = (ofChars source).host := by
  simp only [ofChars_eq, splitScheme_append_slash, (splitAuthority_append_slash _).1]

/-- Behind a text with a host, a slash stands behind what is last in its components. -/
theorem ofChars_append_slash (named : (ofChars source).host ≠ []) :
    ofChars (source ++ ['/']) = (ofChars source).mapEnd (· ++ ['/']) := by
  have authorized : (splitAuthority (splitScheme source).2).1 ≠ [] := by
    intro unauthorized
    apply named
    simp only [ofChars_eq, unauthorized]
    rfl
  obtain ⟨sameAuthority, behind⟩ := splitAuthority_append_slash (splitScheme source).2
  have endCut : splitEnd ((splitAuthority (splitScheme source).2).2 ++ ['/']) = _ :=
    splitEnd_append_slash (ofChars source) rfl
  rw [ofChars_eq (source ++ ['/'])]
  simp only [splitScheme_append_slash, sameAuthority, behind authorized, endCut]
  exact (mapEnd_eq (· ++ ['/']) (ofChars source)).symm

/-- The address that components with a host make up. -/
def addressOf (written : Written) (host : List Char) (port : Option Int) : Address where
  scheme := written.scheme.map Char.toLower
  userinfo := Quote.quote Quote.isUserinfoSafe written.userinfo
  host := host
  port := port
  path := Quote.quote Quote.isPathSafe (Path.normalize written.path)
  query := written.query.map (Quote.quote Quote.isQuerySafe)
  fragment := written.fragment.map (Quote.quote Quote.isFragmentSafe)

/-- Components with a host make up an address if their port is one and their path can stand behind
an authority. -/
theorem normalize?_eq_some_iff_of_host {written : Written} {host : List Char} {address : Address}
    (isHost : Host.normalize? written.host = some host) (named : host ≠ []) :
    written.normalize? = some address ↔
      ∃ port, normalizePort? written.scheme written.port = some port ∧
        (written.path = [] ∨ written.path.head? = some '/') ∧
        address = written.addressOf host port := by
  have authorized (userinfo : List Char) (port : Option Int) :
      hasAuthority userinfo host port = true := by
    simp [hasAuthority, named]
  rw [normalize?_eq_some_iff, isHost]
  simp [fitsPath, authorized, cleanPath, isRooted, addressOf]

/-- A path that can stand behind an authority can do so with a slash behind it, and no other can. -/
theorem rooted_mapEnd_slash_iff (written : Written) :
    ((written.mapEnd (· ++ ['/'])).path = [] ∨
        (written.mapEnd (· ++ ['/'])).path.head? = some '/') ↔
      written.path = [] ∨ written.path.head? = some '/' := by
  obtain ⟨scheme, userinfo, host, port, path, query, fragment⟩ := written
  cases fragment with
  | some fragment => rfl
  | none =>
      cases query with
      | some query => rfl
      | none => cases path <;> simp [mapEnd]

/-- The slash comes through the normal form of what it stands behind. -/
theorem addressOf_mapEnd_slash {written : Written}
    (rooted : written.path = [] ∨ written.path.head? = some '/') (host : List Char)
    (port : Option Int) : (written.mapEnd (· ++ ['/'])).addressOf host port =
      (written.addressOf host port).mapEnd (· ++ ['/']) := by
  have quote_slash {safe : Char → Bool} (isSafe : safe '/') (component : List Char) :
      Quote.quote safe (component ++ ['/']) = Quote.quote safe component ++ ['/'] := by
    have slashKept : Quote.quote safe ['/'] = ['/'] := Quote.quote_eq_self (by simpa using isSafe)
    rw [Quote.quote_append, slashKept]
  obtain ⟨scheme, userinfo, writtenHost, writtenPort, path, query, fragment⟩ := written
  cases fragment with
  | some fragment =>
      simp only [mapEnd, addressOf, Address.mapEnd, Option.map_some,
        quote_slash (rfl : Quote.isFragmentSafe '/')]
  | none =>
      cases query with
      | some query =>
          simp only [mapEnd, addressOf, Address.mapEnd, Option.map_some, Option.map_none,
            quote_slash (rfl : Quote.isQuerySafe '/')]
      | none =>
          simp only [mapEnd, addressOf, Address.mapEnd, Option.map_none,
            Path.normalize_append_slash rooted, quote_slash (rfl : Quote.isPathSafe '/')]

/-- A slash behind what is last in components with a host comes behind their address. -/
theorem normalize?_mapEnd_slash {written : Written} {host : List Char}
    (isHost : Host.normalize? written.host = some host) (named : host ≠ []) :
    (written.mapEnd (· ++ ['/'])).normalize? =
      written.normalize?.map (Address.mapEnd (· ++ ['/'])) := by
  have sameScheme := congrArg Written.scheme (mapEnd_eq (· ++ ['/']) written)
  have samePort := congrArg Written.port (mapEnd_eq (· ++ ['/']) written)
  have sameHost := congrArg Written.host (mapEnd_eq (· ++ ['/']) written)
  ext address
  rw [Option.map_eq_some_iff, normalize?_eq_some_iff_of_host (sameHost ▸ isHost) named, sameScheme,
    samePort, rooted_mapEnd_slash_iff]
  simp only [normalize?_eq_some_iff_of_host isHost named]
  constructor
  · rintro ⟨port, isPort, rooted, rfl⟩
    exact ⟨_, ⟨port, isPort, rooted, rfl⟩, (addressOf_mapEnd_slash rooted host port).symm⟩
  · rintro ⟨_, ⟨port, isPort, rooted, rfl⟩, rfl⟩
    exact ⟨port, isPort, rooted, (addressOf_mapEnd_slash rooted host port).symm⟩

end Written

/-! ## Addresses with slashes behind -/

/-- The address with a host that a text writes. -/
def namedAddress? (source : List Char) : Option Address :=
  (ofChars? source).filter fun address => !address.host.isEmpty

theorem of_namedAddress? {address : Address} (isNamed : namedAddress? source = some address) :
    ofChars? source = some address ∧ address.host ≠ [] := by
  rw [namedAddress?, Option.filter_eq_some_iff] at isNamed
  simpa using isNamed

theorem namedAddress?_eq_none (unnamed : ∀ host,
    Host.normalize? (Written.ofChars source).host = some host → host = []) :
    namedAddress? source = none := by
  rw [namedAddress?, Option.filter_eq_none_iff]
  intro address isAddress
  simpa using unnamed address.host (normalize?_host_of_ofChars? isAddress)

/-- A slash behind a text comes behind the address with a host that it writes. -/
theorem namedAddress?_append_slash (fits : (source ++ ['/']).length ≤ maxLength) :
    namedAddress? (source ++ ['/']) = (namedAddress? source).map (mapEnd (· ++ ['/'])) := by
  by_cases isNamed : ∃ host, Host.normalize? (Written.ofChars source).host = some host ∧ host ≠ []
  · obtain ⟨host, isHost, named⟩ := isNamed
    have writtenNamed : (Written.ofChars source).host ≠ [] := by
      intro unnamed
      rw [unnamed] at isHost
      cases isHost
      exact named rfl
    have sameControls : (source ++ ['/']).any isControl = source.any isControl := by
      rw [List.any_append]
      exact Bool.or_false _
    have short : ¬ maxLength < source.length := by
      rw [List.length_append] at fits
      omega
    have slashed : ofChars? (source ++ ['/']) = (ofChars? source).map (mapEnd (· ++ ['/'])) := by
      rw [ofChars?, ofChars?, sameControls, Written.ofChars_append_slash writtenNamed,
        Written.normalize?_mapEnd_slash isHost named]
      simp only [Nat.not_lt.mpr fits, short, false_or, apply_ite (Option.map _), Option.map_none]
    rw [namedAddress?, namedAddress?, slashed, Option.filter_map]
    simp only [Function.comp_def, host_mapEnd]
  · -- The components have the same host with the slash, so there is no address with one either.
    have unnamed :
        ∀ host, Host.normalize? (Written.ofChars source).host = some host → host = [] := by
      simpa using isNamed
    rw [namedAddress?_eq_none unnamed, namedAddress?_eq_none, Option.map_none]
    rwa [Written.host_ofChars_append_slash]

/-- An address with slashes behind what stands last in it. -/
def withEndSlashes (count : Nat) (address : Address) : Address :=
  address.mapEnd (· ++ List.replicate count '/')

theorem isWeb_withEndSlashes (count : Nat) (address : Address) :
    (address.withEndSlashes count).isWeb = address.isWeb :=
  isWeb_mapEnd _ address

theorem checkHost_withEndSlashes (count : Nat) (address : Address) :
    (address.withEndSlashes count).checkHost = address.checkHost :=
  checkHost_mapEnd _ address

theorem withEndSlashes_zero (address : Address) : address.withEndSlashes 0 = address := by
  obtain ⟨scheme, userinfo, host, port, path, query, fragment⟩ := address
  cases fragment with
  | some fragment => simp [withEndSlashes, mapEnd]
  | none => cases query <;> simp [withEndSlashes, mapEnd]

theorem withEndSlashes_succ (count : Nat) (address : Address) :
    address.withEndSlashes (count + 1) = (address.withEndSlashes count).mapEnd (· ++ ['/']) := by
  simp only [withEndSlashes, mapEnd_mapEnd, List.append_assoc, List.replicate_succ']

/-- Slashes behind a text come behind the address with a host that it writes. -/
theorem namedAddress?_append_slashes {count : Nat} (fits : source.length + count ≤ maxLength) :
    namedAddress? (source ++ List.replicate count '/') =
      (namedAddress? source).map (withEndSlashes count) := by
  induction count with
  | zero => rw [List.replicate_zero, List.append_nil, funext withEndSlashes_zero, Option.map_id']
  | succ count ih =>
      have fitsSlash : (source ++ List.replicate count '/' ++ ['/']).length ≤ maxLength := by
        simp only [List.length_append, List.length_replicate, List.length_singleton]
        omega
      rw [List.replicate_succ', ← List.append_assoc, namedAddress?_append_slash fitsSlash,
        ih (by omega), Option.map_map, funext (withEndSlashes_succ count)]
      rfl

theorem chars_mapEnd_append (address : Address) (after : List Char) :
    (address.mapEnd (· ++ after)).chars = address.chars ++ after := by
  obtain ⟨scheme, userinfo, host, port, path, query, fragment⟩ := address
  cases fragment with
  | some fragment => simp [mapEnd, chars, authority, marked]
  | none => cases query <;> simp [mapEnd, chars, authority, marked]

/-! ## Base addresses with slashes behind -/

variable {written : String} {base : Address}

theorem exists_configuration_of_unnamed (unnamed : namedAddress? (strip written).toList = none) :
    ∃ fault, serviceUrl written = .error (.configuration fault) := by
  cases isBase : ofText? (strip written) with
  | none => exact ⟨_, by rw [serviceUrl, isBase]⟩
  | some base =>
      have noHost : base.host = [] := by
        rw [namedAddress?, Option.filter_eq_none_iff] at unnamed
        simpa using unnamed base isBase
      have checked : base.checkHost = .ok () := by
        rw [checkHost, noHost]
        rfl
      refine ⟨.verifyUrlNotAbsolute written, ?_⟩
      simp only [serviceUrl, isBase, checked, noHost]
      cases base.isWeb <;> rfl

/-- What comes of an address with a host. -/
theorem serviceUrl_of_named (isBase : ofText? (strip written) = some base)
    (named : base.host ≠ []) :
    serviceUrl written =
      if base.isWeb then base.checkHost.map fun _ => withoutEndSlashes base.text
      else .error (.configuration (.verifyUrlNotAbsolute written)) := by
  cases web : base.isWeb with
  | false =>
      simp only [serviceUrl, isBase, web]
      rfl
  | true =>
      cases checked : base.checkHost with
      | ok done => exact serviceUrl_of_base isBase web checked named
      | error failure => exact serviceUrl_of_refused isBase web checked

theorem withoutEndSlashes_withEndSlashes (address : Address) (count : Nat) :
    withoutEndSlashes (address.withEndSlashes count).text = withoutEndSlashes address.text := by
  have slashes : ∀ value ∈ List.replicate count '/', (value == '/') = true := by
    intro value valueMem
    rw [List.eq_of_mem_replicate valueMem]
    rfl
  rw [withoutEndSlashes, withoutEndSlashes, text, text, String.toList_ofList, String.toList_ofList,
    withEndSlashes, chars_mapEnd_append, dropEndWhile_append_of_drops slashes]

theorem strip_append_slashes (trimmed : strip written = written) (count : Nat) :
    strip (written ++ String.ofList (List.replicate count '/')) =
      written ++ String.ofList (List.replicate count '/') := by
  have trimmedChars : trimWhile isBlank written.toList = written.toList :=
    String.toList_ofList.symm.trans (congrArg String.toList trimmed)
  have slashesStay : ∀ value ∈ List.replicate count '/', isBlank value = false := by
    intro value valueMem
    rw [List.eq_of_mem_replicate valueMem]
    decide
  rw [strip, String.toList_append, String.toList_ofList,
    trimWhile_append_of_stays trimmedChars slashesStay, String.ofList_append, String.ofList_toList]

/-- Slashes behind a base address without blanks around it change nothing that comes of it, as long
as the text is not too long: it is resolved to the same address, or it is no base address before or
after, or its host is written as an international name and is none. -/
theorem end_slashes_never_matter {count : Nat} (trimmed : strip written = written)
    (fits : written.length + count ≤ maxLength) :
    let slashed := written ++ String.ofList (List.replicate count '/')
    (∃ url, serviceUrl written = .ok url ∧ serviceUrl slashed = .ok url) ∨
    (∃ fault slashedFault, serviceUrl written = .error (.configuration fault) ∧
      serviceUrl slashed = .error (.configuration slashedFault)) ∨
    ∃ base fault, ofText? written = some base ∧ HostName.marker.isPrefixOf base.host ∧
      serviceUrl written = .error (.outside (.hostRefused fault)) ∧
      serviceUrl slashed = .error (.outside (.hostRefused fault)) := by
  intro slashed
  have slashedTrimmed : strip slashed = slashed := strip_append_slashes trimmed count
  have slashedNamed : namedAddress? slashed.toList =
      (namedAddress? written.toList).map (withEndSlashes count) := by
    rw [String.toList_append, String.toList_ofList]
    exact namedAddress?_append_slashes (by rwa [String.length_toList])
  cases isNamed : namedAddress? written.toList with
  | none =>
      right; left
      rw [isNamed, Option.map_none] at slashedNamed
      obtain ⟨fault, first⟩ := exists_configuration_of_unnamed (trimmed.symm ▸ isNamed)
      obtain ⟨slashedFault, second⟩ :=
        exists_configuration_of_unnamed (slashedTrimmed.symm ▸ slashedNamed)
      exact ⟨fault, slashedFault, first, second⟩
  | some base =>
      rw [isNamed, Option.map_some] at slashedNamed
      obtain ⟨isAddress, named⟩ := of_namedAddress? isNamed
      obtain ⟨slashedAddress, slashedHost⟩ := of_namedAddress? slashedNamed
      have isBase : ofText? (strip written) = some base := by
        rw [trimmed]
        exact isAddress
      have slashedBase : ofText? (strip slashed) = some (base.withEndSlashes count) := by
        rw [slashedTrimmed]
        exact slashedAddress
      have first := serviceUrl_of_named isBase named
      have second := serviceUrl_of_named slashedBase slashedHost
      rw [isWeb_withEndSlashes, checkHost_withEndSlashes,
        withoutEndSlashes_withEndSlashes] at second
      cases web : base.isWeb with
      | false =>
          rw [web, if_neg Bool.false_ne_true] at first second
          exact .inr (.inl ⟨_, _, first, second⟩)
      | true =>
          rw [web, if_pos rfl] at first second
          cases checked : base.checkHost with
          | ok done =>
              rw [checked] at first second
              exact .inl ⟨_, first, second⟩
          | error failure =>
              obtain ⟨marked, fault, rfl⟩ := of_checkHost_error checked
              rw [checked] at first second
              exact .inr (.inr ⟨base, fault, isAddress, marked, first, second⟩)

/-- A path that ends in dot segments comes to the same with three slashes behind it, which are kept
as empty segments and dropped. -/
theorem dot_segments_before_slashes :
    strip "http://h:80/a/./b/.." = "http://h:80/a/./b/.." ∧
      "http://h:80/a/./b/..".length + 3 ≤ maxLength ∧
      serviceUrl "http://h:80/a/./b/..///" = .ok "http://h/a" := by
  have trimmed : strip "http://h:80/a/./b/.." = "http://h:80/a/./b/.." := by decide +kernel
  have fits : "http://h:80/a/./b/..".length + 3 ≤ maxLength := by decide +kernel
  have resolved : serviceUrl "http://h:80/a/./b/.." = .ok "http://h/a" := by decide +kernel
  have slashed : "http://h:80/a/./b/.." ++ String.ofList (List.replicate 3 '/') =
      "http://h:80/a/./b/..///" := by
    decide +kernel
  refine ⟨trimmed, fits, ?_⟩
  rcases end_slashes_never_matter trimmed fits with
    ⟨url, same, slashedSame⟩ | ⟨_, _, refused, _⟩ | ⟨_, _, _, _, refused, _⟩
  · rw [resolved] at same
    cases same
    rwa [slashed] at slashedSame
  · rw [resolved] at refused
    cases refused
  · rw [resolved] at refused
    cases refused

end FederatedLogin.Address
