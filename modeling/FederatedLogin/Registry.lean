import FederatedLogin.Event

/-!
# The registry of authenticators

An authenticator is registered under a name, at most once.  A later registration under the same
name is ignored, and the log says so.
-/

namespace FederatedLogin

/-- Authenticators under their names, in the order of registration. -/
structure Registry (Authenticator : Type) where
  entries : List (String × Authenticator) := []

namespace Registry

variable {Authenticator : Type}

/-- The name under which a host registers its authenticator unless it chooses another. -/
def defaultName : String :=
  "token_federation_auth"

/-- The registry without entries. -/
def empty : Registry Authenticator :=
  {}

/-- The authenticator under a name. -/
def get? (registry : Registry Authenticator) (name : String) : Option Authenticator :=
  (registry.entries.find? (·.1 == name)).map (·.2)

/-- Registers an authenticator, unless the name is taken. -/
def register (registry : Registry Authenticator) (name : String) (authenticator : Authenticator) :
    Registry Authenticator × Event :=
  if registry.entries.any (·.1 == name) then (registry, .authenticatorKnown name)
  else ({ entries := registry.entries ++ [(name, authenticator)] }, .authenticatorRegistered name)

@[simp]
theorem get?_empty (name : String) : (empty : Registry Authenticator).get? name = none :=
  rfl

/-- The first registration under a name stays. -/
theorem get?_register_of_some {registry : Registry Authenticator} {name : String}
    {known : Authenticator} (taken : registry.get? name = some known)
    (authenticator : Authenticator) :
    ((registry.register name authenticator).1).get? name = some known := by
  have present : registry.entries.any (·.1 == name) = true := by
    simp only [get?, Option.map_eq_some_iff] at taken
    obtain ⟨entry, found, _⟩ := taken
    have member := List.mem_of_find?_eq_some found
    have holds := List.find?_some found
    exact List.any_eq_true.mpr ⟨entry, member, holds⟩
  simp [register, present, taken]

end Registry

end FederatedLogin
