import FederatedLogin.Proofs.Verification.Schema

/-!
# Groups and further attributes that are overlooked

A list of groups and an object of further attributes are read as they stand.  What counts as nothing
is read as empty, whatever its type, so a value of a wrong type is overlooked exactly if it counts
as nothing: false, a zero, an empty string, or an empty container of the other kind.
-/

namespace FederatedLogin.Verification

open FederatedLogin.Json FederatedLogin.Text

variable {value : Value}

/-! ## Values that count as nothing -/

/-- A value that is no container and not null, and still counts as nothing. -/
inductive IsHollow : Value → Prop where
  | false : IsHollow (.bool false)
  | integer : IsHollow (.integer 0)
  | real {number : Float} (isZero : (number == 0) = true) : IsHollow (.real number)
  | string : IsHollow (.string [])

/-- A value that is overlooked in the place of a list of groups. -/
def IsOverlookedAsGroups (value : Value) : Prop :=
  IsHollow value ∨ value = .object []

/-- A value that is overlooked in the place of an object of further attributes. -/
def IsOverlookedAsExtra (value : Value) : Prop :=
  IsHollow value ∨ value = .array []

/-- What counts as nothing is null, hollow, or an empty container. -/
theorem isVoid_cases (isVoid : value.isVoid = true) :
    value = .null ∨ IsHollow value ∨ value = .array [] ∨ value = .object [] := by
  cases value with
  | null => exact .inl rfl
  | bool value =>
      cases value
      · exact .inr (.inl .false)
      · cases isVoid
  | integer number =>
      rw [eq_of_beq isVoid]
      exact .inr (.inl .integer)
  | real number => exact .inr (.inl (.real isVoid))
  | string points =>
      rw [List.isEmpty_iff.mp isVoid]
      exact .inr (.inl .string)
  | array items =>
      rw [List.isEmpty_iff.mp isVoid]
      exact .inr (.inr (.inl rfl))
  | object members =>
      rw [List.isEmpty_iff.mp isVoid]
      exact .inr (.inr (.inr rfl))

/-! ## What is read of them -/

/-- Values of a type that are read as items, and values of other types that are overlooked: whatever
counts as nothing is null, or overlooked, or an empty value of the type. -/
structure Overlooks {Item : Type} (IsRead : Value → List Item → Prop)
    (IsOverlooked : Value → Prop) : Prop where
  notNull : ¬IsOverlooked .null
  notRead : ∀ {value items}, IsOverlooked value → ¬IsRead value items
  isVoid_cases : ∀ {value : Value}, value.isVoid = true →
    value = .null ∨ IsOverlooked value ∨ IsRead value []

theorem groups_overlooks : Overlooks IsTexts IsOverlookedAsGroups where
  notNull := by
    rintro (hollow | same)
    · cases hollow
    · cases same
  notRead := by
    rintro value texts overlooked rfl
    rcases overlooked with hollow | same
    · cases hollow
    · cases same
  isVoid_cases := by
    intro value isVoid
    rcases Verification.isVoid_cases isVoid with isNull | hollow | isArray | isObject
    · exact .inl isNull
    · exact .inr (.inl (.inl hollow))
    · exact .inr (.inr isArray)
    · exact .inr (.inl (.inr isObject))

theorem extra_overlooks : Overlooks IsNamedTexts IsOverlookedAsExtra where
  notNull := by
    rintro (hollow | same)
    · cases hollow
    · cases same
  notRead := by
    rintro value texts overlooked ⟨members, rfl, _⟩
    rcases overlooked with hollow | same
    · cases hollow
    · cases same
  isVoid_cases := by
    intro value isVoid
    rcases Verification.isVoid_cases isVoid with isNull | hollow | isArray | isObject
    · exact .inl isNull
    · exact .inr (.inl (.inl hollow))
    · exact .inr (.inl (.inr isArray))
    · exact .inr (.inr ⟨[], isObject, .nil⟩)

section

variable {Item : Type} {object : Value} {name : String} {IsRead : Value → List Item → Prop}
  {IsOverlooked : Value → Prop} {items : List Item}

/-- What an object holds under a name is read unless it is overlooked. -/
theorem Gives.isRead_iff (gives : Gives object name IsRead items)
    (overlooks : Overlooks IsRead IsOverlooked) :
    (∀ value, object.Holds name value → value ≠ .null → IsRead value items) ↔
      ∀ value, object.Holds name value → ¬IsOverlooked value := by
  constructor
  · intro kept value holds overlooked
    have notNull : value ≠ .null := by
      rintro rfl
      exact overlooks.notNull overlooked
    exact overlooks.notRead overlooked (kept value holds notNull)
  · intro noneOverlooked value holds notNull
    cases gives with
    | lacking lacks => exact absurd holds (lacks value)
    | void other otherHolds isVoid =>
        have same := holds.unique otherHolds
        subst same
        rcases overlooks.isVoid_cases isVoid with isNull | overlooked | isRead
        · exact absurd isNull notNull
        · exact absurd overlooked (noneOverlooked value holds)
        · exact isRead
    | items other items otherHolds isRead => exact holds.unique otherHolds ▸ isRead

/-- What is overlooked is read as empty. -/
theorem Gives.eq_nil_of_isOverlooked (gives : Gives object name IsRead items)
    (overlooks : Overlooks IsRead IsOverlooked) {value : Value} (holds : object.Holds name value)
    (overlooked : IsOverlooked value) : items = [] := by
  cases gives with
  | lacking => rfl
  | void => rfl
  | items other items otherHolds isRead =>
      exact absurd isRead (overlooks.notRead (holds.unique otherHolds ▸ overlooked))

end

/-! ## Results -/

variable {payload : Value} {result : Result}

/-- In a result that authenticates, the groups are those that the user object holds, and so are the
further attributes, exactly if what it holds there is not overlooked; what is overlooked is read as
empty. -/
theorem groups_and_extra_kept_iff (read : Result.ofPayload payload = .ok result)
    (authenticated : result.authenticated = true) :
    ∃ status user identity, payload.Holds "status" status ∧ status.Holds "user" user ∧
      result.user = some identity ∧
      ((∀ value, user.Holds "groups" value → value ≠ .null → IsTexts value identity.groups) ↔
        ∀ value, user.Holds "groups" value → ¬IsOverlookedAsGroups value) ∧
      (∀ value, user.Holds "groups" value → IsOverlookedAsGroups value → identity.groups = []) ∧
      ((∀ value, user.Holds "extra" value → value ≠ .null → IsNamedTexts value identity.extra) ↔
        ∀ value, user.Holds "extra" value → ¬IsOverlookedAsExtra value) ∧
      ∀ value, user.Holds "extra" value → IsOverlookedAsExtra value → identity.extra = [] := by
  rcases ofPayload_cases read with ⟨identity, _, isUser, asserts⟩ | ⟨declined, _⟩
  · obtain ⟨status, error, conforms, _, user, holdsUser, gives⟩ := asserts
    exact ⟨status, user, identity, conforms.holdsStatus, holdsUser, isUser,
      gives.groups.isRead_iff groups_overlooks,
      fun _ => gives.groups.eq_nil_of_isOverlooked groups_overlooks,
      gives.extra.isRead_iff extra_overlooks,
      fun _ => gives.extra.eq_nil_of_isOverlooked extra_overlooks⟩
  · rw [declined] at authenticated
    cases authenticated

/-- Groups in a list, and a further attribute that stands twice, the first time with a number. -/
theorem groups_and_extra_kept_of_lists :
    let user := Value.record
      [("uid", .text "u1"), ("groups", .array [.text "staff", .text ""]),
       ("extra", .record [("level", .integer 0), ("level", .array [.text "5"])])]
    let payload := Value.record
      [("status", .record [("authenticated", .bool true), ("user", user)])]
    ∃ result, Result.ofPayload payload = .ok result ∧ result.authenticated = true ∧
      ∃ identity, result.user = some identity ∧
        (∀ value, user.Holds "groups" value → value ≠ .null → IsTexts value identity.groups) ∧
        ∀ value, user.Holds "extra" value → value ≠ .null → IsNamedTexts value identity.extra := by
  intro user payload
  have read : Result.ofPayload payload =
      .ok ⟨true, "", "", none, some ⟨"u1", "", ["staff", ""], [("level", ["5"])]⟩⟩ := by
    decide +kernel
  obtain ⟨status, held, identity, holdsStatus, holdsUser, isUser, groups, _, extra, _⟩ :=
    groups_and_extra_kept_iff read rfl
  have isStatus := holdsStatus.unique (Value.holds_record [] (List.forall_mem_nil _))
  subst isStatus
  have isHeld := holdsUser.unique
    (Value.holds_record [("authenticated", .bool true)] (List.forall_mem_nil _))
  subst isHeld
  have holdsGroups : user.Holds "groups" (.array [.text "staff", .text ""]) :=
    Value.holds_record [("uid", .text "u1")] (by simp)
  have holdsExtra : user.Holds "extra"
      (.record [("level", .integer 0), ("level", .array [.text "5"])]) :=
    Value.holds_record [("uid", .text "u1"), ("groups", .array [.text "staff", .text ""])]
      (List.forall_mem_nil _)
  refine ⟨_, read, rfl, identity, isUser, groups.mpr ?_, extra.mpr ?_⟩
  · intro value holds overlooked
    rw [holds.unique holdsGroups] at overlooked
    rcases overlooked with hollow | same
    · cases hollow
    · cases same
  · intro value holds overlooked
    rw [holds.unique holdsExtra] at overlooked
    rcases overlooked with hollow | same
    · cases hollow
    · cases same

/-- A number in the place of the groups is read as no groups. -/
theorem number_overlooked_as_groups :
    let user := Value.record [("uid", .text "u1"), ("groups", .integer 0)]
    let payload := Value.record
      [("status", .record [("authenticated", .bool true), ("user", user)])]
    Result.ofPayload payload = .ok ⟨true, "", "", none, some ⟨"u1", "", [], []⟩⟩ ∧
      user.Holds "groups" (.integer 0) ∧ ¬IsTexts (.integer 0) [] := by
  refine ⟨by decide +kernel, Value.holds_record [("uid", .text "u1")] (List.forall_mem_nil _), ?_⟩
  intro isArray
  cases isArray

end FederatedLogin.Verification
