import FederatedLogin.Proofs.Json.Members
import FederatedLogin.Verification.Result
import Mathlib.Data.List.Forall2

/-!
# The wire schema

What a payload that asserts an identity looks like, and what one looks like that declines, said of
the values that its objects hold and lack.  Reading a payload succeeds exactly where the schema is
kept to, part by part, and gives exactly what the schema says.
-/

namespace FederatedLogin.Verification

open FederatedLogin.Json FederatedLogin.Text

/-! ## What payloads look like -/

/-- A string that an object may offer under a name: it may as well offer null, or nothing. -/
inductive Offers (object : Value) (name : String) : Option CodeString → Prop where
  | lacking (lacks : object.Lacks name) : Offers object name none
  | null (holds : object.Holds name .null) : Offers object name none
  | string (points : CodeString) (holds : object.Holds name (.string points)) :
      Offers object name (some points)

/-- An array of strings with these texts. -/
def IsTexts (value : Value) (texts : List CodeString) : Prop :=
  value = .array (texts.map .string)

/-- An object of arrays of strings; of several members with one name the last counts. -/
def IsNamedTexts (value : Value) (extra : List (CodeString × List CodeString)) : Prop :=
  ∃ members, value = .object members ∧ List.Forall₂
    (fun member named => named.1 = member.1 ∧ IsTexts member.2 named.2)
    (Value.entries members) extra

/-- What an object gives under a name: no items if that is missing or counts as nothing, whatever
its type, and else the items it is read as. -/
inductive Gives {Item : Type} (object : Value) (name : String)
    (IsRead : Value → List Item → Prop) : List Item → Prop where
  | lacking (lacks : object.Lacks name) : Gives object name IsRead []
  | void (value : Value) (holds : object.Holds name value) (isVoid : value.isVoid) :
      Gives object name IsRead []
  | items (value : Value) (items : List Item) (holds : object.Holds name value)
      (isRead : IsRead value items) : Gives object name IsRead items

/-- A user object with this identity. -/
structure GivesIdentity (user : Value) (identity : Identity) : Prop where
  isObject : ∃ members, user = .object members
  uid : user.Holds "uid" (.string identity.uid) ∧ identity.uid ≠ []
  username : (user.Lacks "username" ∧ identity.username = []) ∨
    user.Holds "username" (.string identity.username)
  groups : Gives user "groups" IsTexts identity.groups
  extra : Gives user "extra" IsNamedTexts identity.extra

/-- A payload that keeps to the schema apart from the user, with its status and the error there. -/
structure Conforms (payload status : Value) (error : Option CodeString) : Prop where
  holdsStatus : payload.Holds "status" status
  isObject : ∃ members, status = .object members
  offersError : Offers status "error" error
  offersVersion : ∃ version, Offers payload "apiVersion" version
  offersKind : ∃ kind, Offers payload "kind" kind

/-- A payload that asserts an identity. -/
def Asserts (payload : Value) (identity : Identity) : Prop :=
  ∃ status error, Conforms payload status error ∧
    status.Holds "authenticated" (.bool true) ∧
    ∃ user, status.Holds "user" user ∧ GivesIdentity user identity

/-- A payload that declines; an empty reason is none.  Whatever user there is plays no role. -/
def Declines (payload : Value) (reason : Option CodeString) : Prop :=
  ∃ status error, Conforms payload status error ∧
    (status.Lacks "authenticated" ∨ status.Holds "authenticated" (.bool false)) ∧
    reason = error.filter fun points => !points.isEmpty

/-! ## Reading the parts -/

variable {object payload status user value : Value} {name : String}

theorem memberOrNull_of_lacks (lacks : object.Lacks name) : memberOrNull name object = .null := by
  rw [memberOrNull, Value.member?_eq_none_iff.mpr lacks, Option.getD_none]

theorem memberOrNull_of_holds (holds : object.Holds name value) :
    memberOrNull name object = value := by
  rw [memberOrNull, Value.member?_eq_some_iff.mpr holds, Option.getD_some]

/-- Every object holds something under a name, or lacks it. -/
theorem lacks_or_holds (object : Value) (name : String) :
    object.Lacks name ∨ ∃ value, object.Holds name value := by
  rw [← not_forall_not]
  exact Classical.em _

/-- Offering a string or nothing is holding it, where what is lacking counts as null. -/
theorem offers_iff {offered : Option CodeString} :
    Offers object name offered ↔ memberOrNull name object = offered.elim .null .string := by
  constructor
  · rintro (lacks | holds | ⟨points, holds⟩)
    · exact memberOrNull_of_lacks lacks
    · exact memberOrNull_of_holds holds
    · exact memberOrNull_of_holds holds
  · intro found
    rcases lacks_or_holds object name with lacks | ⟨value, holds⟩
    · rw [memberOrNull_of_lacks lacks] at found
      cases offered with
      | none => exact .lacking lacks
      | some points => cases found
    · rw [memberOrNull_of_holds holds] at found
      subst found
      cases offered with
      | none => exact .null holds
      | some points => exact .string points holds

theorem optionalMember_eq_ok_iff {text : CodeString} :
    optionalMember name payload = .ok text ↔
      ∃ offered, Offers payload name offered ∧ text = offered.getD [] := by
  simp only [offers_iff, optionalMember]
  cases memberOrNull name payload <;> simp [Option.exists, eq_comm]

theorem errorOf_eq_ok_iff {error : Option CodeString} :
    errorOf status = .ok error ↔ ∃ offered, Offers status "error" offered ∧
      error = offered.filter fun points => !points.isEmpty := by
  simp only [offers_iff, errorOf]
  cases memberOrNull "error" status with
  | string points =>
      simp only [Except.ok.injEq, Option.exists, Option.elim, reduceCtorEq, false_and, false_or,
        Value.string.injEq, exists_eq_left', Option.filter_some]
      by_cases isEmpty : points.isEmpty
      · simp [isEmpty, eq_comm]
      · simp [isEmpty, eq_comm]
  | _ => simp [Option.exists, eq_comm]

/-- What is made of a list member by member is made if it is made of every member. -/
theorem mapM_eq_some_iff {Source Target : Type} {make? : Source → Option Target}
    {sources : List Source} {targets : List Target} :
    sources.mapM make? = some targets ↔
      List.Forall₂ (fun source target => make? source = some target) sources targets := by
  induction sources generalizing targets with
  | nil => simp [eq_comm]
  | cons source rest ih =>
      simp only [List.mapM_cons, Option.bind_eq_bind, Option.bind_eq_some_iff, Option.pure_def,
        Option.some.injEq, List.forall₂_cons_left_iff, ih]
      constructor
      · rintro ⟨target, made, others, restMade, rfl⟩
        exact ⟨target, others, made, restMade, rfl⟩
      · rintro ⟨target, others, made, restMade, rfl⟩
        exact ⟨target, made, others, restMade, rfl⟩

theorem points?_eq_some_iff {points : CodeString} :
    value.points? = some points ↔ value = .string points := by
  cases value <;> simp [Value.points?]

theorem texts?_eq_some_iff {texts : List CodeString} :
    texts? value = some texts ↔ IsTexts value texts := by
  cases value with
  | array items =>
      simp only [texts?, IsTexts, Value.array.injEq, mapM_eq_some_iff, points?_eq_some_iff]
      constructor
      · intro made
        induction made with
        | nil => rfl
        | cons first _ ih => rw [first, ih, List.map_cons]
      · rintro rfl
        rw [List.forall₂_map_left_iff, List.forall₂_same]
        exact fun _ _ => rfl
  | _ => simp [texts?, IsTexts]

theorem namedTexts?_eq_some_iff {member : Member} {named : CodeString × List CodeString} :
    namedTexts? member = some named ↔ named.1 = member.1 ∧ IsTexts member.2 named.2 := by
  rw [namedTexts?, Option.map_eq_some_iff]
  simp only [texts?_eq_some_iff]
  constructor
  · rintro ⟨texts, isTexts, rfl⟩
    exact ⟨rfl, isTexts⟩
  · rintro ⟨name, isTexts⟩
    exact ⟨named.2, isTexts, Prod.ext name.symm rfl⟩

/-! ## Reading the user -/

theorem uidOf_eq_ok_iff {uid : CodeString} :
    uidOf user = .ok uid ↔ user.Holds "uid" (.string uid) ∧ uid ≠ [] := by
  simp only [← Value.member?_eq_some_iff, uidOf]
  cases user.member? "uid" with
  | none => simp
  | some value =>
      cases value with
      | string points =>
          simp only [List.isEmpty_iff, Option.some.injEq, Value.string.injEq]
          by_cases isEmpty : points = []
          · rw [if_pos isEmpty]
            simp only [reduceCtorEq, false_iff, not_and, not_not]
            rintro rfl
            exact isEmpty
          · rw [if_neg isEmpty, Except.ok.injEq, iff_self_and]
            rintro rfl
            exact isEmpty
      | _ => simp

theorem usernameOf_eq_ok_iff {username : CodeString} :
    usernameOf user = .ok username ↔ (user.Lacks "username" ∧ username = []) ∨
      user.Holds "username" (.string username) := by
  simp only [← Value.member?_eq_some_iff, ← Value.member?_eq_none_iff, usernameOf]
  cases user.member? "username" with
  | none => simp [eq_comm]
  | some value => cases value <;> simp [eq_comm]

/-- The items of an object are what it gives, if nothing that counts as nothing is read as more. -/
theorem itemsOf_eq_ok_iff {Item : Type} {IsRead : Value → List Item → Prop}
    {read? : Value → Option (List Item)} {fault : ProtocolFault} {items : List Item}
    (read_iff : ∀ value items, read? value = some items ↔ IsRead value items)
    (void_read : ∀ value items, value.isVoid → IsRead value items → items = []) :
    itemsOf name read? fault object = .ok items ↔ Gives object name IsRead items := by
  -- What is lacking is read as null, which counts as nothing like other values that are held.
  rcases lacks_or_holds object name with lacks | ⟨value, holds⟩
  · simp only [itemsOf, memberOrNull_of_lacks lacks, Value.isVoid, if_true]
    constructor
    · intro made
      cases made
      exact .lacking lacks
    · rintro (_ | ⟨_, holds, _⟩ | ⟨_, _, holds, _⟩)
      · rfl
      · exact absurd holds (lacks _)
      · exact absurd holds (lacks _)
  · simp only [itemsOf, memberOrNull_of_holds holds]
    by_cases isVoid : value.isVoid
    · rw [if_pos isVoid]
      constructor
      · intro made
        cases made
        exact .void value holds isVoid
      · rintro (_ | _ | ⟨_, _, otherHolds, isRead⟩)
        · rfl
        · rfl
        · rw [void_read value items isVoid (holds.unique otherHolds ▸ isRead)]
    · rw [if_neg isVoid]
      constructor
      · intro made
        cases read : read? value with
        | none =>
            rw [read] at made
            cases made
        | some found =>
            rw [read] at made
            cases made
            exact .items value _ holds ((read_iff value _).mp read)
      · rintro (lacks | ⟨_, otherHolds, otherVoid⟩ | ⟨_, _, otherHolds, isRead⟩)
        · exact absurd holds (lacks _)
        · exact absurd (holds.unique otherHolds ▸ otherVoid) isVoid
        · rw [(read_iff value items).mpr (holds.unique otherHolds ▸ isRead)]

theorem groupsOf_eq_ok_iff {groups : List CodeString} :
    groupsOf user = .ok groups ↔ Gives user "groups" IsTexts groups := by
  apply itemsOf_eq_ok_iff
  · intro value texts
    exact texts?_eq_some_iff
  · rintro _ texts isVoid rfl
    simpa [Value.isVoid] using isVoid

theorem extraOf_eq_ok_iff {extra : List (CodeString × List CodeString)} :
    extraOf user = .ok extra ↔ Gives user "extra" IsNamedTexts extra := by
  apply itemsOf_eq_ok_iff
  · intro value named
    cases value with
    | object members =>
        simp [extraTexts?, members?, IsNamedTexts, mapM_eq_some_iff, namedTexts?_eq_some_iff]
    | _ => simp [extraTexts?, members?, IsNamedTexts]
  · rintro _ _ isVoid ⟨members, rfl, each⟩
    have none : members = [] := by simpa [Value.isVoid] using isVoid
    rw [none] at each
    cases each
    rfl

/-- A computation of two parts succeeds if both parts do. -/
theorem bind_eq_ok_iff {Found Result Fault : Type} {first : Except Fault Found}
    {next : Found → Except Fault Result} {result : Result} :
    (first >>= next) = .ok result ↔ ∃ found, first = .ok found ∧ next found = .ok result := by
  cases first with
  | error fault => simp [bind, Except.bind]
  | ok found => simp [bind, Except.bind]

theorem identityOf_eq_ok_iff {identity : Identity} :
    identityOf user = .ok identity ↔ GivesIdentity user identity := by
  cases user with
  | object members =>
      simp only [identityOf, bind_eq_ok_iff, uidOf_eq_ok_iff, usernameOf_eq_ok_iff,
        groupsOf_eq_ok_iff, extraOf_eq_ok_iff]
      constructor
      · rintro ⟨uid, holdsUid, username, givesUsername, groups, givesGroups, extra, givesExtra,
          made⟩
        cases made
        exact ⟨⟨members, rfl⟩, holdsUid, givesUsername, givesGroups, givesExtra⟩
      · rintro ⟨_, holdsUid, givesUsername, givesGroups, givesExtra⟩
        exact ⟨_, holdsUid, _, givesUsername, _, givesGroups, _, givesExtra, rfl⟩
  | _ =>
      constructor
      · intro made
        cases made
      · rintro ⟨⟨members, isObject⟩⟩
        cases isObject

/-! ## Reading the payload -/

theorem statusOf_eq_ok_iff :
    statusOf payload = .ok status ↔
      payload.Holds "status" status ∧ ∃ members, status = .object members := by
  cases payload with
  | object members =>
      simp only [← Value.member?_eq_some_iff, statusOf]
      cases Value.member? "status" (.object members) with
      | none => simp
      | some value =>
          cases value with
          | object found =>
              constructor
              · intro made
                cases made
                exact ⟨rfl, found, rfl⟩
              · rintro ⟨same, _⟩
                cases same
                rfl
          | _ =>
              simp only [Option.some.injEq, reduceCtorEq, false_iff, not_and, not_exists]
              rintro rfl _ isObject
              cases isObject
  | _ => simp [statusOf, Value.Holds]

theorem authenticatedOf_eq_true_iff :
    authenticatedOf status = .ok true ↔ status.Holds "authenticated" (.bool true) := by
  rw [← Value.member?_eq_some_iff, authenticatedOf]
  cases status.member? "authenticated" with
  | none => simp
  | some value => cases value <;> simp

theorem authenticatedOf_eq_false_iff :
    authenticatedOf status = .ok false ↔
      status.Lacks "authenticated" ∨ status.Holds "authenticated" (.bool false) := by
  rw [← Value.member?_eq_some_iff, ← Value.member?_eq_none_iff, authenticatedOf]
  cases status.member? "authenticated" with
  | none => simp
  | some value => cases value <;> simp

/-- The user of a status is one that it holds; without one there is no identity. -/
theorem identityOf_memberOrNull_eq_ok_iff {identity : Identity} :
    identityOf (memberOrNull "user" status) = .ok identity ↔
      ∃ user, status.Holds "user" user ∧ GivesIdentity user identity := by
  rw [identityOf_eq_ok_iff]
  rcases lacks_or_holds status "user" with lacks | ⟨user, holds⟩
  · rw [memberOrNull_of_lacks lacks]
    constructor
    · rintro ⟨⟨members, isObject⟩⟩
      cases isObject
    · rintro ⟨user, holds, _⟩
      exact absurd holds (lacks user)
  · rw [memberOrNull_of_holds holds]
    constructor
    · intro gives
      exact ⟨user, holds, gives⟩
    · rintro ⟨other, otherHolds, gives⟩
      exact holds.unique otherHolds ▸ gives

/-- What is read from a payload keeps to the schema: either the status says that the token is
authentic and there is a user, or it does not say so and no user is looked for. -/
theorem ofPayload_cases {result : Result} (read : Result.ofPayload payload = .ok result) :
    (∃ identity, result.authenticated = true ∧ result.user = some identity ∧
      Asserts payload identity) ∨
    result.authenticated = false ∧ Declines payload result.error := by
  simp only [Result.ofPayload, bind_eq_ok_iff, statusOf_eq_ok_iff, errorOf_eq_ok_iff] at read
  obtain ⟨status, ⟨holdsStatus, isObject⟩, authenticated, stated, reason,
    ⟨error, offersError, reason_eq⟩, rest⟩ := read
  cases authenticated with
  | false =>
      simp only [Bool.false_eq_true, if_false, bind_eq_ok_iff, optionalMember_eq_ok_iff] at rest
      obtain ⟨user, _, _, ⟨version, offersVersion, _⟩, _, ⟨kind, offersKind, _⟩, made⟩ := rest
      cases made
      exact .inr ⟨rfl, status, error,
        ⟨holdsStatus, isObject, offersError, ⟨version, offersVersion⟩, ⟨kind, offersKind⟩⟩,
        authenticatedOf_eq_false_iff.mp stated, reason_eq⟩
  | true =>
      simp only [if_true, bind_eq_ok_iff, optionalMember_eq_ok_iff] at rest
      obtain ⟨user, gives, _, ⟨version, offersVersion, _⟩, _, ⟨kind, offersKind, _⟩, made⟩ := rest
      cases given : identityOf (memberOrNull "user" status) with
      | error fault =>
          rw [given] at gives
          cases gives
      | ok identity =>
          rw [given] at gives
          cases gives
          cases made
          exact .inl ⟨identity, rfl, rfl, status, error,
            ⟨holdsStatus, isObject, offersError, ⟨version, offersVersion⟩, ⟨kind, offersKind⟩⟩,
            authenticatedOf_eq_true_iff.mp stated, identityOf_memberOrNull_eq_ok_iff.mp given⟩

theorem ofPayload_of_asserts {identity : Identity} (asserts : Asserts payload identity) :
    ∃ result, Result.ofPayload payload = .ok result ∧ result.authenticated = true ∧
      result.user = some identity := by
  obtain ⟨status, error, conforms, stated, givesUser⟩ := asserts
  obtain ⟨version, offersVersion⟩ := conforms.offersVersion
  obtain ⟨kind, offersKind⟩ := conforms.offersKind
  have readStatus := statusOf_eq_ok_iff.mpr ⟨conforms.holdsStatus, conforms.isObject⟩
  have readError := errorOf_eq_ok_iff.mpr ⟨error, conforms.offersError, rfl⟩
  have readVersion := optionalMember_eq_ok_iff.mpr ⟨version, offersVersion, rfl⟩
  have readKind := optionalMember_eq_ok_iff.mpr ⟨kind, offersKind, rfl⟩
  have readUser := identityOf_memberOrNull_eq_ok_iff.mpr givesUser
  have readAuthenticated := authenticatedOf_eq_true_iff.mpr stated
  simp only [Result.ofPayload, readStatus, readAuthenticated, readError, readUser, readVersion,
    readKind, bind, Except.bind, Except.map, pure, Except.pure, if_true]
  exact ⟨_, rfl, rfl, rfl⟩

theorem ofPayload_of_declines {reason : Option CodeString} (declines : Declines payload reason) :
    ∃ result, Result.ofPayload payload = .ok result ∧ result.authenticated = false ∧
      result.error = reason := by
  obtain ⟨status, error, conforms, stated, rfl⟩ := declines
  obtain ⟨version, offersVersion⟩ := conforms.offersVersion
  obtain ⟨kind, offersKind⟩ := conforms.offersKind
  have readStatus := statusOf_eq_ok_iff.mpr ⟨conforms.holdsStatus, conforms.isObject⟩
  have readError := errorOf_eq_ok_iff.mpr ⟨error, conforms.offersError, rfl⟩
  have readVersion := optionalMember_eq_ok_iff.mpr ⟨version, offersVersion, rfl⟩
  have readKind := optionalMember_eq_ok_iff.mpr ⟨kind, offersKind, rfl⟩
  have readAuthenticated := authenticatedOf_eq_false_iff.mpr stated
  simp only [Result.ofPayload, readStatus, readAuthenticated, readError, readVersion, readKind,
    bind, Except.bind, pure, Except.pure, Bool.false_eq_true, if_false]
  exact ⟨_, rfl, rfl, rfl⟩

end FederatedLogin.Verification
