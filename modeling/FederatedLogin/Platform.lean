import FederatedLogin.Failure

/-!
# The platform

Some questions that come up in a login are answered by what the program runs on: the interpreter,
the library for certificates, the library for databases.  A `Platform` is one set of answers.  What
depends on them takes the platform as an instance, so it is defined and proved for each of them;
`Platform.standard` is one to run with.
-/

namespace FederatedLogin

/-- What the program runs on. -/
class Platform where
  /-- How deep arrays and objects may be nested in a document that is read. -/
  nestingLimit : Nat
  /-- An object may hold another, as in a verification request. -/
  two_le_nestingLimit : 2 ≤ nestingLimit
  /-- Whether a text is loaded as a bundle of trusted certificates. -/
  loadsBundle : String → Bool
  /-- What leaves the search for a driver of a database by its name, where that is neither a
  failure of the library for databases nor a module that is missing. -/
  driverTrouble? : List Char → Option Trouble

export Platform (nestingLimit two_le_nestingLimit)

end FederatedLogin
