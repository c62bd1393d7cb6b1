import FederatedLogin.Identity
import FederatedLogin.Store.Backend

/-!
# Reconciliation

An identity is mapped onto exactly one local user, the one with its uid as federation key.  The user
is created at the first login, its name follows the identity afterwards, and its e-mail follows the
name as long as it is a placeholder.
-/

namespace FederatedLogin

open FederatedLogin.Text

/-- What a login makes of a failure of the store, and what it logs.  A failure of the store's own
making comes out unchanged; other failures of the family pass in silence; trouble outside the
family becomes a storage failure with its wording. -/
def reportStoreFailure (principal : Principal) (uid : CodeString) (failure : Failure) :
    Failure × List Event :=
  match failure with
  | .storage _ | .duplicateKey _ _ => (failure, [.storeFailed principal uid failure])
  | .outside trouble => (.storage (.stated trouble.message), [.storeFailed principal uid failure])
  | _ => (failure, [])

/-- An outcome that ends in a failure of the store. -/
def Outcome.failed {α : Type} (principal : Principal) (uid : CodeString) (failure : Failure)
    (events : List Event) (backend : Backend) : Outcome α :=
  let (reported, logged) := reportStoreFailure principal uid failure
  ⟨.error reported, events ++ logged, backend⟩

/-- The user that a first login creates, and the randomness that is left. -/
def newUser (identity : Identity) (random : RandomSource) : User × RandomSource :=
  let (password, random) := random.text passwordBytes
  let draft : User := { federationKey := identity.uid, username := identity.username, password }
  let (email, random) := draft.chooseEmail random
  ({ draft with email }, random)

/-- A stored user under the name of the identity, and the randomness that is left. -/
def renamedUser (existing : User) (username : CodeString) (random : RandomSource) :
    User × RandomSource :=
  let email := if isPlaceholderEmail existing.email then [] else existing.email
  let draft := { existing with username, email }
  let (email, random) := draft.chooseEmail random
  ({ draft with email }, random)

/-- Creates the user of an identity that is not known yet. -/
def enroll (identity : Identity) (principal : Principal) (backend : Backend) : Outcome User :=
  let (draft, random) := newUser identity backend.random
  let stored := { backend with random }.create draft
  match stored.result with
  | .ok id =>
      let user := { draft with id := some (id : Int) }
      ⟨.ok user,
        stored.events ++ [.userCreated principal identity.uid user.id user.username],
        stored.backend⟩
  | .error failure => .failed principal identity.uid failure stored.events stored.backend

/-- Gives a known user the name of its identity. -/
def rename (existing : User) (identity : Identity) (principal : Principal) (backend : Backend) :
    Outcome User :=
  let (user, random) := renamedUser existing identity.username backend.random
  let stored := { backend with random }.update user
  match stored.result with
  | .ok () =>
      ⟨.ok user,
        stored.events ++
          [.userRenamed principal identity.uid user.id existing.username user.username],
        stored.backend⟩
  | .error failure => .failed principal identity.uid failure stored.events stored.backend

/-- The local user of an identity. -/
def reconcile (identity : Identity) (principal : Principal) (backend : Backend) : Outcome User :=
  let found := backend.find identity.uid
  match found.result with
  | .error failure => .failed principal identity.uid failure found.events found.backend
  | .ok none => enroll identity principal found.backend
  | .ok (some existing) =>
      if existing.username = identity.username then
        ⟨.ok existing, [.userResolved principal identity.uid existing.id], found.backend⟩
      else
        rename existing identity principal found.backend

end FederatedLogin
