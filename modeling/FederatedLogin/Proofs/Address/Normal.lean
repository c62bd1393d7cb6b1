import FederatedLogin.Address.Service
import FederatedLogin.Proofs.Address.Path
import FederatedLogin.Proofs.Address.Written
import FederatedLogin.Proofs.Number.Written

/-!
# Addresses in normal form

An address of a web service that a text writes is in normal form: its components are quoted, its
path has no dot segments, its port has few enough digits.  The text of an address in normal form is
read again as that address, but for the case of its host and for a port that is the default of the
scheme; only its length can keep it from being read.
-/

namespace FederatedLogin.Address

open FederatedLogin.Text

/-- An address of a web service in normal form. -/
structure IsNormal (address : Address) : Prop where
  web : address.isWeb
  userinfo : ∀ value ∈ address.userinfo, Quote.isUserinfoSafe value
  host : Host.IsNormal address.host
  port : ∀ number ∈ address.port, number.natAbs < 10 ^ Number.Written.maxDigits
  path : Path.IsNormal address.path
  path_safe : ∀ value ∈ address.path, Quote.isPathSafe value
  query : ∀ query ∈ address.query, ∀ value ∈ query, Quote.isQuerySafe value
  fragment : ∀ fragment ∈ address.fragment, ∀ value ∈ fragment, Quote.isFragmentSafe value

variable {address : Address} {source : List Char}

/-! ## What is read is in normal form -/

/-- Whether components have a scheme or an authority, so that their path starts at a root. -/
def Written.isRooted (written : Written) (host : List Char) (port : Option Int) : Bool :=
  !(written.scheme.map Char.toLower).isEmpty ||
    hasAuthority (Quote.quote Quote.isUserinfoSafe written.userinfo) host port

/-- The path of components, before it is quoted. -/
def Written.cleanPath (written : Written) (host : List Char) (port : Option Int) : List Char :=
  if written.isRooted host port then Path.normalize written.path else written.path

theorem Written.normalize?_eq_some_iff {written : Written} :
    written.normalize? = some address ↔
      ∃ host port, Host.normalize? written.host = some host ∧
        normalizePort? written.scheme written.port = some port ∧
        fitsPath (!(written.scheme.map Char.toLower).isEmpty)
          (hasAuthority (Quote.quote Quote.isUserinfoSafe written.userinfo) host port)
          written.path ∧
        address =
          { scheme := written.scheme.map Char.toLower
            userinfo := Quote.quote Quote.isUserinfoSafe written.userinfo
            host, port
            path := Quote.quote Quote.isPathSafe (written.cleanPath host port)
            query := written.query.map (Quote.quote Quote.isQuerySafe)
            fragment := written.fragment.map (Quote.quote Quote.isFragmentSafe) } := by
  simp only [normalize?, Option.bind_eq_bind, Option.bind_eq_some_iff,
    Option.ite_none_right_eq_some, Option.some.injEq]
  constructor
  · rintro ⟨host, isHost, port, isPort, fits, rfl⟩
    exact ⟨host, port, isHost, isPort, fits, rfl⟩
  · rintro ⟨host, port, isHost, isPort, fits, rfl⟩
    exact ⟨host, isHost, port, isPort, fits, rfl⟩

/-- A port that is kept has no more digits than may be read. -/
theorem natAbs_lt_of_normalizePort? {scheme written : List Char} {number : Int}
    (isPort : normalizePort? scheme written = some (some number)) :
    number.natAbs < 10 ^ Number.Written.maxDigits := by
  rw [normalizePort?] at isPort
  split at isPort
  · cases isPort
  · rw [Option.map_eq_some_iff] at isPort
    obtain ⟨read, isRead, kept⟩ := isPort
    split at kept
    · cases kept
    · cases kept
      exact Number.Written.natAbs_lt_of_integer? isRead

theorem isNormal_of_normalize? {written : Written}
    (hostClean : ∀ value ∈ written.host, Host.IsClean value)
    (isAddress : written.normalize? = some address) (web : address.isWeb)
    (named : address.host ≠ []) : address.IsNormal := by
  obtain ⟨host, port, isHost, isPort, fits, rfl⟩ := Written.normalize?_eq_some_iff.mp isAddress
  have writtenNamed : written.host ≠ [] := by
    intro unnamed
    rw [unnamed] at isHost
    cases isHost
    exact named rfl
  have hasAuthority_eq : hasAuthority (Quote.quote Quote.isUserinfoSafe written.userinfo) host
      port = true := by
    have nonempty : host ≠ [] := named
    simp [hasAuthority, nonempty]
  have rooted : written.path = [] ∨ written.path.head? = some '/' := by
    rw [hasAuthority_eq, fitsPath] at fits
    simpa using (Bool.and_eq_true_iff.mp fits).1
  have isRooted : written.isRooted host port := by
    rw [Written.isRooted, hasAuthority_eq, Bool.or_true]
  have clean : written.cleanPath host port = Path.normalize written.path := if_pos isRooted
  constructor
  · exact web
  · intro value valueMem
    exact Quote.keepsQuotes_userinfo.safe_of_mem_quote valueMem
  · exact Host.isNormal_of_normalize? writtenNamed hostClean isHost
  · intro number isNumber
    have port_eq : port = some number := isNumber
    exact natAbs_lt_of_normalizePort? (port_eq ▸ isPort)
  · rw [clean]
    exact (Path.isNormal_normalize rooted).quote
  · intro value valueMem
    exact Quote.keepsQuotes_path.safe_of_mem_quote valueMem
  · intro query isQuery value valueMem
    obtain ⟨original, _, rfl⟩ := Option.map_eq_some_iff.mp isQuery
    exact Quote.keepsQuotes_query.safe_of_mem_quote valueMem
  · intro fragment isFragment value valueMem
    obtain ⟨original, _, rfl⟩ := Option.map_eq_some_iff.mp isFragment
    exact Quote.keepsQuotes_fragment.safe_of_mem_quote valueMem

/-- The address of a web service that a text writes is in normal form. -/
theorem isNormal_of_ofChars? (isAddress : ofChars? source = some address) (web : address.isWeb)
    (named : address.host ≠ []) : address.IsNormal := by
  rw [ofChars?, Option.ite_none_left_eq_some, not_or] at isAddress
  obtain ⟨⟨_, uncontrolled⟩, isAddress⟩ := isAddress
  rw [Bool.not_eq_true] at uncontrolled
  apply isNormal_of_normalize? _ isAddress web named
  intro value valueMem
  exact Written.isClean_of_mem_host uncontrolled valueMem

/-! ## Components again -/

/-- The components of an address as they stand in its text. -/
def written (address : Address) : Written where
  scheme := address.scheme
  userinfo := address.userinfo
  host := shownHost address.host
  port := (address.port.map fun number => (toString number).toList).getD []
  path := address.path
  query := address.query
  fragment := address.fragment

/-- A digit or a minus sign is no mark, and no control. -/
theorem isClean_of_isPlain {value : Char} (plain : Number.Written.IsPlain value) :
    value ∉ ['/', '?', '#', '@', ']'] ∧ isControl value = false := by
  have position := plain.position
  constructor
  · intro markMem
    simp only [List.mem_cons, List.not_mem_nil, or_false] at markMem
    rcases markMem with rfl | rfl | rfl | rfl | rfl
    all_goals
      revert position
      decide
  · simp only [isControl, Bool.or_eq_false_iff, decide_eq_false_iff_not, beq_eq_false_iff_ne]
    omega

/-- A written port consists of digits and a minus sign. -/
theorem isPlain_of_mem_port {value : Char} (valueMem : value ∈ address.written.port) :
    Number.Written.IsPlain value := by
  cases isPort : address.port with
  | none =>
      simp only [written, isPort] at valueMem
      cases valueMem
  | some number =>
      simp only [written, isPort] at valueMem
      exact Number.Written.isPlain_of_mem_toString valueMem

theorem toList_toString_ne_nil (number : Int) : (toString number).toList ≠ [] := by
  cases number with
  | ofNat magnitude =>
      rw [Number.Written.toList_toString_ofNat]
      exact Nat.toDigits_ne_nil
  | negSucc magnitude =>
      rw [Number.Written.toList_toString_negSucc]
      exact List.cons_ne_nil _ _

theorem authority_written (address : Address) : address.written.authority = address.authority := by
  have port_eq : Written.shownPort address.written.port =
      marked ':' (address.port.map fun number => (toString number).toList) := by
    cases isPort : address.port with
    | none => simp [written, isPort, Written.shownPort, marked]
    | some number =>
        have nonempty := toList_toString_ne_nil number
        simp only [written, isPort, Option.map_some, Option.getD_some, Written.shownPort,
          List.isEmpty_iff, nonempty, if_false, marked]
  rw [Written.authority, port_eq, authority, List.append_assoc]
  rfl

namespace IsNormal

variable (normal : address.IsNormal)
include normal

theorem scheme_eq : address.scheme = "http".toList ∨ address.scheme = "https".toList := by
  have web := normal.web
  simp only [isWeb, Bool.or_eq_true, beq_iff_eq] at web
  exact web

/-- What holds of all letters of the longer scheme holds of those of a scheme. -/
theorem of_mem_scheme (allowed : Char → Bool) (all : "https".toList.all allowed = true)
    {value : Char} (valueMem : value ∈ address.scheme) : allowed value = true := by
  apply List.all_eq_true.mp all
  rcases normal.scheme_eq with isHttp | isHttps
  · rw [isHttp] at valueMem
    exact (List.prefix_append "http".toList ['s']).subset valueMem
  · rwa [isHttps] at valueMem

theorem scheme_isEmpty : address.scheme.isEmpty = false := by
  rcases normal.scheme_eq with isHttp | isHttps
  · rw [isHttp]
    rfl
  · rw [isHttps]
    rfl

theorem authority_ne_nil : address.authority ≠ [] := by
  intro empty
  rw [authority, List.append_eq_nil_iff, List.append_eq_nil_iff] at empty
  exact normal.host.shownHost_ne_nil empty.1.2

/-- The text of an address is that of its components. -/
theorem chars_written : address.chars = address.written.chars := by
  have schemed := normal.scheme_isEmpty
  have authorized : address.authority.isEmpty = false := by
    simpa using normal.authority_ne_nil
  rw [chars, Written.chars, authority_written]
  simp only [schemed, authorized, Bool.false_eq_true, if_false]
  simp [written]

/-- No character of an authority can be taken for its end, and none is a control. -/
theorem isClean_of_mem_authority {value : Char} (valueMem : value ∈ address.authority) :
    value ∉ ['/', '?', '#'] ∧ isControl value = false := by
  rw [← authority_written, Written.authority, List.mem_append, List.mem_append] at valueMem
  rcases valueMem with userinfoMem | hostMem | portMem
  · rcases Written.mem_shownUserinfo userinfoMem with rfl | innerMem
    · decide
    · have safe := normal.userinfo value innerMem
      exact ⟨Quote.not_mem_of_safe (by decide) safe,
        Host.isControl_of_isVisible (Quote.isVisible_of_isQuerySafe
          (Quote.isQuerySafe_of_isPathSafe (Quote.isPathSafe_of_isUserinfoSafe safe)))⟩
  · have clean := normal.host.isClean_of_mem_shownHost hostMem
    constructor
    · intro cutMem
      have cutMore : value ∈ ['/', '?', '#', '@'] :=
        List.mem_append_left ['@'] cutMem
      exact clean.1 cutMore
    · exact clean.2
  · rcases Written.mem_shownPort portMem with rfl | digitMem
    · decide
    · have clean := isClean_of_isPlain (isPlain_of_mem_port digitMem)
      exact ⟨fun cutMem => clean.1 (List.mem_append_left ['@', ']'] cutMem), clean.2⟩

theorem isTidy_written : address.written.IsTidy := by
  constructor
  · rcases normal.scheme_eq with isHttp | isHttps
    · simp only [written, isHttp]
      decide
    · simp only [written, isHttps]
      decide
  · intro value valueMem
    exact normal.of_mem_scheme isSchemeChar (by decide) valueMem
  · intro value valueMem
    rw [authority_written] at valueMem
    exact (normal.isClean_of_mem_authority valueMem).1
  · rcases normal.host.shownHost_cases with bracketed | bare
    · exact .inl ⟨address.host, bracketed⟩
    · exact .inr bare
  · intro atMem
    exact (normal.host.isClean_of_mem_shownHost atMem).1 (by simp)
  · intro value valueMem markMem
    exact (isClean_of_isPlain (isPlain_of_mem_port valueMem)).1
      (List.mem_append_right ['/', '?', '#'] markMem)
  · intro first firstMem
    rcases normal.path.rooted with empty | slash
    · simp only [written, empty] at firstMem
      cases firstMem
    · simp only [written, slash] at firstMem
      cases firstMem
      exact List.mem_singleton_self _
  · intro value valueMem
    exact Quote.not_mem_of_safe (by decide) (normal.path_safe value valueMem)
  · intro query isQuery hashMem
    cases normal.query query isQuery '#' hashMem

/-- No character of the text of an address is a control. -/
theorem any_isControl_chars : address.chars.any isControl = false := by
  rw [List.any_eq_false]
  intro value valueMem
  rw [Bool.not_eq_true]
  rw [normal.chars_written, Written.chars, authority_written] at valueMem
  simp only [List.mem_append, List.mem_cons] at valueMem
  rcases valueMem with schemeMem | rfl | rfl | rfl | authorityMem | pathMem | queryMem | fragmentMem
  · have uncontrolled := normal.of_mem_scheme (!isControl ·) (by decide) schemeMem
    simpa using uncontrolled
  · decide
  · decide
  · decide
  · exact (normal.isClean_of_mem_authority authorityMem).2
  · exact Host.isControl_of_isVisible (Quote.isVisible_of_isQuerySafe
      (Quote.isQuerySafe_of_isPathSafe (normal.path_safe value pathMem)))
  · rcases mem_marked queryMem with rfl | ⟨query, isQuery, valueMem⟩
    · decide
    · exact Host.isControl_of_isVisible
        (Quote.isVisible_of_isQuerySafe (normal.query query isQuery value valueMem))
  · rcases mem_marked fragmentMem with rfl | ⟨fragment, isFragment, valueMem⟩
    · decide
    · exact Host.isControl_of_isVisible
        (Quote.isVisible_of_isFragmentSafe (normal.fragment fragment isFragment value valueMem))

end IsNormal

/-- What an address comes to when its text is read. -/
def again (address : Address) : Address :=
  { address with
    host := Host.again address.host
    port := if address.port = defaultPort? address.scheme then none else address.port }

theorem IsNormal.normalizePort?_written (normal : address.IsNormal) :
    normalizePort? address.scheme address.written.port = some address.again.port := by
  cases isPort : address.port with
  | none =>
      simp [normalizePort?, written, again, isPort]
  | some number =>
      have nonempty := toList_toString_ne_nil number
      have read := Number.Written.integer?_toString (normal.port number isPort)
      have port_eq : address.written.port = (toString number).toList := by
        simp only [written, isPort, Option.map_some, Option.getD_some]
      simp only [normalizePort?, port_eq, List.isEmpty_iff, nonempty, if_false,
        String.ofList_toList, read, Option.map_some, again, isPort]
      by_cases isDefault : defaultPort? address.scheme = some number
      · rw [if_pos isDefault, if_pos isDefault.symm]
      · rw [if_neg isDefault, if_neg (Ne.symm isDefault)]

/-- Components that may be missing and are quoted stay as they are. -/
theorem map_quote_eq_self {safe : Char → Bool} {component : Option (List Char)}
    (allSafe : ∀ content ∈ component, ∀ value ∈ content, safe value) :
    component.map (Quote.quote safe) = component := by
  cases component with
  | none => rfl
  | some content => rw [Option.map_some, Quote.quote_eq_self (allSafe content rfl)]

theorem IsNormal.normalize?_written (normal : address.IsNormal) :
    address.written.normalize? = some address.again := by
  have lower : address.scheme.map Char.toLower = address.scheme := by
    rcases normal.scheme_eq with isHttp | isHttps
    · rw [isHttp]
      decide
    · rw [isHttps]
      decide
  have schemed : address.scheme.isEmpty = false := normal.scheme_isEmpty
  have fits : fitsPath (!(address.written.scheme.map Char.toLower).isEmpty)
      (hasAuthority (Quote.quote Quote.isUserinfoSafe address.written.userinfo)
        (Host.again address.host) address.again.port) address.written.path := by
    simp only [written, lower, schemed, fitsPath]
    rcases normal.path.rooted with empty | slash
    · simp [empty]
    · simp [slash]
  have isRooted : address.written.isRooted (Host.again address.host) address.again.port := by
    simp only [Written.isRooted, written, lower, schemed, Bool.not_false, Bool.true_or]
  have path_eq : Quote.quote Quote.isPathSafe (address.written.cleanPath (Host.again address.host)
      address.again.port) = address.path := by
    rw [Written.cleanPath, if_pos isRooted]
    simp only [written, normal.path.normalize_eq, Quote.quote_eq_self normal.path_safe]
  apply Written.normalize?_eq_some_iff.mpr
  refine ⟨Host.again address.host, address.again.port, normal.host.normalize?_shownHost,
    normal.normalizePort?_written, fits, ?_⟩
  simp only [path_eq]
  simp only [written, lower, Quote.quote_eq_self normal.userinfo, map_quote_eq_self normal.query,
    map_quote_eq_self normal.fragment]
  rfl

/-- The text of an address in normal form is read again, unless it is too long. -/
theorem IsNormal.ofChars?_chars (normal : address.IsNormal) :
    ofChars? address.chars =
      if maxLength < address.chars.length then none else some address.again := by
  rw [ofChars?, normal.any_isControl_chars, normal.chars_written, normal.isTidy_written.ofChars_chars,
    normal.normalize?_written]
  simp

end FederatedLogin.Address
