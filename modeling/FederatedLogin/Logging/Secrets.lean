/-!
# Secrets in log records

Some names of fields hold secrets by their meaning.  Whatever stands under such a name, at the top
of a record, is replaced before the record goes anywhere.
-/

namespace FederatedLogin.Logging

/-- The names whose values are secret. -/
def secretNames : List String :=
  ["token", "password", "secret"]

/-- What stands in place of a secret. -/
def mask : String :=
  "[REDACTED]"

/-- A record with its secrets masked. -/
def maskSecrets {Value : Type} (masked : Value) (record : List (String × Value)) :
    List (String × Value) :=
  record.map fun (name, value) => (name, if secretNames.contains name then masked else value)

/-- What stands under a secret name is the mask. -/
theorem eq_mask_of_mem_maskSecrets {Value : Type} {masked value : Value} {name : String}
    {record : List (String × Value)} (isSecret : name ∈ secretNames)
    (found : (name, value) ∈ maskSecrets masked record) : value = masked := by
  simp only [maskSecrets, List.mem_map] at found
  obtain ⟨⟨otherName, otherValue⟩, _, same⟩ := found
  simp only [Prod.mk.injEq] at same
  obtain ⟨rfl, rfl⟩ := same
  simp [isSecret]

end FederatedLogin.Logging
