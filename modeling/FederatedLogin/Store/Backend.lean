import FederatedLogin.Store.Basic

/-!
# The backend of a resolver

A resolver works on a store and a source of randomness.  The store may be out of order: a fault
that lies in wait for an operation answers its next calls in place of the store, and a database may
be opened in a way that hinders some operations.
-/

namespace FederatedLogin

open FederatedLogin.Store

/-- What answers in place of the store. -/
inductive Fault where
  /-- A lookup that finds nothing. -/
  | absent
  /-- A failure. -/
  | failing (failure : Failure)
  deriving DecidableEq, Repr

/-- A fault that lies in wait, and for how many calls. -/
structure Ambush where
  fault : Fault
  times : Nat
  deriving DecidableEq, Repr

namespace Ambush

/-- What answers the next call, if not the store. -/
def strike? (ambush : Ambush) : Option Fault :=
  if ambush.times = 0 then none else some ambush.fault

/-- What lies in wait after a call. -/
def spent (ambush : Ambush) : Ambush :=
  { ambush with times := ambush.times - 1 }

/-- Nothing lies in wait. -/
def nothing : Ambush :=
  ⟨.absent, 0⟩

end Ambush

/-- A store, how far it can be used, a source of randomness, and what lies in wait for the
operations of the store. -/
structure Backend where
  store : Store
  random : RandomSource
  access : Access := {}
  onFind : Ambush := Ambush.nothing
  onCreate : Ambush := Ambush.nothing
  onUpdate : Ambush := Ambush.nothing

/-- What came of an operation on a backend. -/
structure Outcome (α : Type) where
  result : Except Failure α
  events : List Event
  backend : Backend

namespace Backend

/-- The operations that something can lie in wait for. -/
inductive Operation where
  | find
  | create
  | update
  deriving DecidableEq, Repr

/-- Lets a fault lie in wait for an operation, in place of what lay there. -/
def ambush (backend : Backend) (operation : Operation) (ambush : Ambush) : Backend :=
  match operation with
  | .find => { backend with onFind := ambush }
  | .create => { backend with onCreate := ambush }
  | .update => { backend with onUpdate := ambush }

/-- Looks a user up. -/
def find (backend : Backend) (key : Text.CodeString) : Outcome (Option User) :=
  let after := { backend with onFind := backend.onFind.spent }
  match backend.onFind.strike? with
  | some .absent => ⟨.ok none, [], after⟩
  | some (.failing failure) => ⟨.error failure, [], after⟩
  | none => ⟨backend.store.find backend.access key, [], after⟩

/-- Stores a new user. -/
def create (backend : Backend) (user : User) : Outcome Nat :=
  let after := { backend with onCreate := backend.onCreate.spent }
  match backend.onCreate.strike? with
  | some (.failing failure) => ⟨.error failure, [], after⟩
  | _ =>
      match backend.store.create backend.access user with
      | .ok id store => ⟨.ok id, [.userStored id], { after with store }⟩
      | .error failure store => ⟨.error failure, [], { after with store }⟩

/-- Changes a stored user. -/
def update (backend : Backend) (user : User) : Outcome Unit :=
  let after := { backend with onUpdate := backend.onUpdate.spent }
  match backend.onUpdate.strike? with
  | some (.failing failure) => ⟨.error failure, [], after⟩
  | _ =>
      match backend.store.update backend.access user with
      | .ok () store => ⟨.ok (), [.userUpdated user.id], { after with store }⟩
      | .error failure store => ⟨.error failure, [], { after with store }⟩

end Backend

end FederatedLogin
