import FederatedLogin.Proofs.Address.Host

/-!
# Components and their text

A text with a scheme and an authority is cut where its components meet, if none of them holds a
character at which it would be cut elsewhere.  Components that were cut out of a text are of that
kind.
-/

namespace FederatedLogin.Address

open FederatedLogin.Text

/-! ## Cuts -/

variable {ends source before after : List Char}

/-- Whether a text is empty or starts with one of some characters. -/
def StartsWithin (ends : List Char) (source : List Char) : Prop :=
  ∀ first ∈ source.head?, first ∈ ends

theorem StartsWithin.append (first : StartsWithin ends before) (second : StartsWithin ends after) :
    StartsWithin ends (before ++ after) := by
  cases before with
  | nil => exact second
  | cons value rest => exact first

theorem StartsWithin.mono {more : List Char} (starts : StartsWithin ends source)
    (within : ends ⊆ more) : StartsWithin more source := by
  intro first firstMem
  exact within (starts first firstMem)

theorem startsWithin_marked (mark : Char) (component : Option (List Char)) :
    StartsWithin [mark] (marked mark component) := by
  intro first firstMem
  cases component with
  | none => cases firstMem
  | some content =>
      cases firstMem
      exact List.mem_singleton_self _

theorem mem_marked {mark value : Char} {component : Option (List Char)}
    (valueMem : value ∈ marked mark component) :
    value = mark ∨ ∃ content ∈ component, value ∈ content := by
  cases component with
  | none => cases valueMem
  | some content =>
      rcases List.mem_cons.mp valueMem with isMark | contentMem
      · exact .inl isMark
      · exact .inr ⟨content, rfl, contentMem⟩

theorem splitBefore_append (others : ∀ value ∈ before, value ∉ ends)
    (starts : StartsWithin ends after) : splitBefore ends (before ++ after) = (before, after) := by
  have passed : ∀ value ∈ before, (!ends.contains value) = true := by
    intro value valueMem
    simpa using others value valueMem
  have stops : after.takeWhile (!ends.contains ·) = [] ∧
      after.dropWhile (!ends.contains ·) = after := by
    cases after with
    | nil => exact ⟨rfl, rfl⟩
    | cons first rest =>
        have isEnd : first ∈ ends := starts first rfl
        simp [isEnd]
  rw [splitBefore, List.takeWhile_append_of_pos passed, List.dropWhile_append_of_pos passed,
    stops.1, stops.2, List.append_nil]

theorem mem_fst_splitBefore {value : Char} (valueMem : value ∈ (splitBefore ends source).1) :
    value ∈ source ∧ value ∉ ends := by
  constructor
  · exact (source.takeWhile_prefix _).subset valueMem
  · have passed := List.mem_takeWhile_imp valueMem
    simpa using passed

/-! ## Components -/

namespace Written

/-- The user information with its at-sign, unless it is empty. -/
def shownUserinfo (userinfo : List Char) : List Char :=
  if userinfo.isEmpty then [] else userinfo ++ ['@']

/-- The port with its colon, unless it is empty. -/
def shownPort (port : List Char) : List Char :=
  if port.isEmpty then [] else ':' :: port

/-- The authority that components make up. -/
def authority (written : Written) : List Char :=
  shownUserinfo written.userinfo ++ (written.host ++ shownPort written.port)

/-- The text that components with an authority make up. -/
def chars (written : Written) : List Char :=
  written.scheme ++ ':' :: '/' :: '/' :: (written.authority ++ (written.path ++
    (marked '?' written.query ++ marked '#' written.fragment)))

variable {written : Written}

theorem splitScheme_append {scheme : List Char} (alpha : scheme.head?.any Char.isAlpha)
    (allScheme : ∀ value ∈ scheme, isSchemeChar value) (rest : List Char) :
    splitScheme (scheme ++ ':' :: rest) = (scheme, rest) := by
  have sameHead : (scheme ++ ':' :: rest).head?.any Char.isAlpha := by
    cases scheme with
    | nil => cases alpha
    | cons first others => exact alpha
  have taken : (scheme ++ ':' :: rest).takeWhile isSchemeChar = scheme := by
    have stops : ¬ isSchemeChar ':' = true := by decide
    rw [List.takeWhile_append_of_pos allScheme, List.takeWhile_cons_of_neg stops, List.append_nil]
  simp only [splitScheme, sameHead, if_true, taken, List.drop_left]

theorem splitMarked_marked {mark : Char} {component : Option (List Char)}
    (others : ∀ content ∈ component, ∀ value ∈ content, value ∉ ends)
    (starts : StartsWithin ends after) (unlike : after.head? ≠ some mark) :
    splitMarked mark ends (marked mark component ++ after) = (component, after) := by
  cases component with
  | none =>
      cases after with
      | nil => rfl
      | cons first rest =>
          have other : first ≠ mark := fun same => unlike (by rw [same]; rfl)
          simp only [marked, List.nil_append, splitMarked, if_neg other]
  | some content =>
      have cutBefore := splitBefore_append (others content rfl) starts
      simp only [marked, List.cons_append, splitMarked, if_true, cutBefore]

/-- What follows an authority, cut into a path, a query and a fragment. -/
def splitEnd (source : List Char) : List Char × Option (List Char) × Option (List Char) :=
  let (path, source) := splitBefore ['?', '#'] source
  let (query, source) := splitMarked '?' ['#'] source
  (path, query, (splitMarked '#' [] source).1)

theorem ofChars_eq (source : List Char) : ofChars source =
    let rest := (splitScheme source).2
    let host := splitHost (splitUserinfo (splitAuthority rest).1).2
    let (path, query, fragment) := splitEnd (splitAuthority rest).2
    { scheme := (splitScheme source).1
      userinfo := (splitUserinfo (splitAuthority rest).1).1
      host := host.1, port := portAfter host.2, path, query, fragment } :=
  rfl

theorem splitEnd_append {path : List Char} {query : Option (List Char)}
    (path_chars : ∀ value ∈ path, value ∉ ['?', '#'])
    (query_chars : ∀ content ∈ query, '#' ∉ content)
    (fragment : Option (List Char)) :
    splitEnd (path ++ (marked '?' query ++ marked '#' fragment)) = (path, query, fragment) := by
  have fragmentStarts := startsWithin_marked '#' fragment
  have queryStarts : StartsWithin ['?', '#'] (marked '?' query ++ marked '#' fragment) :=
    ((startsWithin_marked '?' query).mono (by simp)).append (fragmentStarts.mono (by simp))
  have noQuery : (marked '#' fragment).head? ≠ some '?' := by
    intro questionMark
    have isHash := fragmentStarts '?' questionMark
    simp at isHash
  have pathCut := splitBefore_append path_chars queryStarts
  have queryCut : splitMarked '?' ['#'] (marked '?' query ++ marked '#' fragment) =
      (query, marked '#' fragment) := by
    apply splitMarked_marked _ fragmentStarts noQuery
    intro content contentMem value valueMem hashMem
    rw [List.mem_singleton] at hashMem
    exact query_chars content contentMem (hashMem ▸ valueMem)
  have fragmentCut : splitMarked '#' [] (marked '#' fragment) = (fragment, []) := by
    have whole : splitMarked '#' [] (marked '#' fragment ++ []) = (fragment, []) :=
      splitMarked_marked (fun _ _ _ _ => List.not_mem_nil) nofun nofun
    rwa [List.append_nil] at whole
  simp only [splitEnd, pathCut, queryCut, fragmentCut]

theorem splitUserinfo_append {rest : List Char} (absent : '@' ∉ rest) (userinfo : List Char) :
    splitUserinfo (shownUserinfo userinfo ++ rest) = (userinfo, rest) := by
  cases userinfo with
  | nil =>
      have unsplit := splitLast?_of_not_mem absent
      simp only [splitUserinfo, shownUserinfo, List.isEmpty_nil, if_true, List.nil_append, unsplit,
        Option.getD_none]
  | cons first others =>
      have cutAt := splitLast?_append absent (first :: others)
      simp only [splitUserinfo, shownUserinfo, List.isEmpty_cons, Bool.false_eq_true, if_false,
        List.append_assoc, List.singleton_append, cutAt, Option.getD_some]

theorem splitHost_of_head?_ne {source : List Char} (unlike : source.head? ≠ some '[') :
    splitHost source = splitBefore [':', '@'] source := by
  rw [splitHost.eq_def]
  split
  · exact absurd rfl unlike
  · rfl

/-- Whether a host is in brackets, or cannot be taken for one that is and has no colon. -/
def IsHostForm (host : List Char) : Prop :=
  (∃ literal, host = '[' :: literal ++ [']']) ∨ host.head? ≠ some '[' ∧ ':' ∉ host

theorem splitHost_append {host behind : List Char} (form : IsHostForm host) (whole : '@' ∉ host)
    (unbracketed : ']' ∉ behind) (starts : StartsWithin [':'] behind) :
    splitHost (host ++ behind) = (host, behind) := by
  rcases form with ⟨literal, rfl⟩ | ⟨unlike, noColon⟩
  · have cutAt := splitLast?_append unbracketed ('[' :: literal)
    have regroup : '[' :: literal ++ [']'] ++ behind = '[' :: literal ++ ']' :: behind := by simp
    rw [regroup]
    rw [List.cons_append] at cutAt ⊢
    rw [splitHost, cutAt]
  · have others : ∀ value ∈ host, value ∉ [':', '@'] := by
      intro value valueMem cutMem
      rcases List.mem_cons.mp cutMem with rfl | isAt
      · exact noColon valueMem
      · rw [List.mem_singleton] at isAt
        exact whole (isAt ▸ valueMem)
    have startsWithin : StartsWithin [':', '@'] behind := by
      intro first firstMem
      exact List.mem_cons.mpr (.inl (List.mem_singleton.mp (starts first firstMem)))
    rw [splitHost_of_head?_ne, splitBefore_append others startsWithin]
    cases host with
    | nil =>
        intro bracket
        cases starts '[' bracket with
        | tail _ absurdMem => cases absurdMem
    | cons first rest => exact unlike

theorem startsWithin_shownPort (port : List Char) : StartsWithin [':'] (shownPort port) := by
  intro first firstMem
  cases port with
  | nil => cases firstMem
  | cons digit rest =>
      cases firstMem
      exact List.mem_singleton_self _

theorem mem_shownUserinfo {userinfo : List Char} {value : Char}
    (valueMem : value ∈ shownUserinfo userinfo) : value = '@' ∨ value ∈ userinfo := by
  rw [shownUserinfo] at valueMem
  split at valueMem
  · cases valueMem
  · rcases List.mem_append.mp valueMem with innerMem | atMem
    · exact .inr innerMem
    · exact .inl (List.mem_singleton.mp atMem)

theorem mem_shownPort {port : List Char} {value : Char} (valueMem : value ∈ shownPort port) :
    value = ':' ∨ value ∈ port := by
  cases port with
  | nil => cases valueMem
  | cons digit rest => exact List.mem_cons.mp valueMem

theorem portAfter_shownPort (port : List Char) : portAfter (shownPort port) = port := by
  cases port <;> rfl

/-! ## Tidy components -/

/-- Components that hold no character at which their text would be cut elsewhere. -/
structure IsTidy (written : Written) : Prop where
  scheme_alpha : written.scheme.head?.any Char.isAlpha
  scheme_chars : ∀ value ∈ written.scheme, isSchemeChar value
  authority_chars : ∀ value ∈ written.authority, value ∉ ['/', '?', '#']
  host_form : IsHostForm written.host
  host_chars : '@' ∉ written.host
  port_chars : ∀ value ∈ written.port, value ∉ ['@', ']']
  path_starts : StartsWithin ['/'] written.path
  path_chars : ∀ value ∈ written.path, value ∉ ['?', '#']
  query_chars : ∀ query ∈ written.query, '#' ∉ query

/-- Tidy components are cut where they meet. -/
theorem IsTidy.ofChars_chars (tidy : written.IsTidy) : ofChars written.chars = written := by
  have pathStarts : StartsWithin ['/', '?', '#']
      (written.path ++ (marked '?' written.query ++ marked '#' written.fragment)) :=
    (tidy.path_starts.mono (by simp)).append
      (((startsWithin_marked '?' written.query).mono (by simp)).append
        ((startsWithin_marked '#' written.fragment).mono (by simp)))
  have atFree : '@' ∉ written.host ++ shownPort written.port := by
    intro atMem
    rcases List.mem_append.mp atMem with hostMem | portMem
    · exact tidy.host_chars hostMem
    · rcases mem_shownPort portMem with isColon | portMem
      · cases isColon
      · exact tidy.port_chars '@' portMem (by simp)
  have unbracketed : ']' ∉ shownPort written.port := by
    intro bracketMem
    rcases mem_shownPort bracketMem with isColon | portMem
    · cases isColon
    · exact tidy.port_chars ']' portMem (by simp)
  have schemeCut := splitScheme_append tidy.scheme_alpha tidy.scheme_chars
    ('/' :: '/' :: (written.authority ++ (written.path ++
      (marked '?' written.query ++ marked '#' written.fragment))))
  have authorityCut := splitBefore_append tidy.authority_chars pathStarts
  have endCut := splitEnd_append tidy.path_chars tidy.query_chars written.fragment
  have userinfoCut : splitUserinfo written.authority =
      (written.userinfo, written.host ++ shownPort written.port) :=
    splitUserinfo_append atFree written.userinfo
  have hostCut := splitHost_append tidy.host_form tidy.host_chars unbracketed
    (startsWithin_shownPort written.port)
  simp only [ofChars_eq, chars, schemeCut, splitAuthority, authorityCut, endCut, userinfoCut,
    hostCut, portAfter_shownPort]

/-! ## Components of a text -/

theorem mem_snd_splitScheme {value : Char} (valueMem : value ∈ (splitScheme source).2) :
    value ∈ source := by
  simp only [splitScheme] at valueMem
  split at valueMem
  · next behind =>
      exact List.mem_of_mem_drop (behind ▸ List.mem_cons_of_mem _ valueMem)
  · exact valueMem

theorem mem_fst_splitAuthority {value : Char} (valueMem : value ∈ (splitAuthority source).1) :
    value ∈ source ∧ value ∉ ['/', '?', '#'] := by
  rw [splitAuthority.eq_def] at valueMem
  split at valueMem
  · have inAuthority := mem_fst_splitBefore valueMem
    exact ⟨List.mem_cons_of_mem _ (List.mem_cons_of_mem _ inAuthority.1), inAuthority.2⟩
  · cases valueMem

theorem mem_snd_splitUserinfo {value : Char} (valueMem : value ∈ (splitUserinfo source).2) :
    value ∈ source ∧ value ≠ '@' := by
  rw [splitUserinfo] at valueMem
  rcases splitLast?_cases '@' source with ⟨absent, unsplit⟩ | ⟨before, after, rfl, absent, cutAt⟩
  · rw [unsplit] at valueMem
    constructor
    · exact valueMem
    · rintro rfl
      exact absent valueMem
  · rw [cutAt] at valueMem
    constructor
    · exact List.mem_append_right _ (List.mem_cons_of_mem _ valueMem)
    · rintro rfl
      exact absent valueMem

theorem mem_fst_splitHost {value : Char} (valueMem : value ∈ (splitHost source).1) :
    value ∈ source := by
  rw [splitHost.eq_def] at valueMem
  split at valueMem
  · next rest =>
      rcases splitLast?_cases ']' ('[' :: rest) with
        ⟨_, unsplit⟩ | ⟨before, after, source_eq, _, cutAt⟩
      · rw [unsplit] at valueMem
        exact (mem_fst_splitBefore valueMem).1
      · rw [cutAt] at valueMem
        rw [source_eq]
        rcases List.mem_append.mp valueMem with beforeMem | bracketMem
        · exact List.mem_append_left _ beforeMem
        · rw [List.mem_singleton.mp bracketMem]
          exact List.mem_append_right _ (List.mem_cons_self ..)
  · exact (mem_fst_splitBefore valueMem).1

/-- The host of a text without controls has no character that could be taken for a cut. -/
theorem isClean_of_mem_host (uncontrolled : source.any isControl = false) {value : Char}
    (valueMem : value ∈ (ofChars source).host) : Host.IsClean value := by
  have inRest := mem_snd_splitUserinfo (mem_fst_splitHost valueMem)
  have inAuthority := mem_fst_splitAuthority inRest.1
  constructor
  · intro cutMem
    have cuts : value ∈ ['/', '?', '#'] ∨ value = '@' := by
      simpa [or_assoc] using cutMem
    rcases cuts with cutMem | isAt
    · exact inAuthority.2 cutMem
    · exact inRest.2 isAt
  · rw [List.any_eq_false] at uncontrolled
    simpa using uncontrolled value (mem_snd_splitScheme inAuthority.1)

end Written

end FederatedLogin.Address
