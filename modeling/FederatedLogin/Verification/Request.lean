import FederatedLogin.Json.Printer

/-!
# Verification requests

A token is sent to the verification service inside a JSON object of a fixed shape.  The body is
written compactly, so it holds the token and nothing else that varies.
-/

namespace FederatedLogin.Verification

open FederatedLogin.Json

/-- The version of the wire schema. -/
def apiVersion : String :=
  "authentication.k8s.io/v1"

/-- The kind of object that a request is. -/
def requestKind : String :=
  "TokenReview"

/-- The object that asks for the verification of a token. -/
def requestFor (token : String) : Value :=
  .record
    [("apiVersion", .text apiVersion), ("kind", .text requestKind),
     ("spec", .record [("token", .text token)])]

/-- The body that asks for the verification of a token. -/
def requestBody (token : String) : String :=
  (requestFor token).print .compact

/-- A request as the service receives it. -/
structure Request where
  method : String
  url : String
  contentType : String
  body : String
  deriving DecidableEq, Repr

/-- The request that asks at an address for the verification of a token. -/
def requestTo (url token : String) : Request where
  method := "POST"
  url := url
  contentType := "application/json"
  body := requestBody token

example : requestBody "t\"" =
    "\x7b\"apiVersion\":\"authentication.k8s.io/v1\",\"kind\":\"TokenReview\"," ++
      "\"spec\":\x7b\"token\":\"t\\\"\"\x7d\x7d" := by
  decide +kernel

end FederatedLogin.Verification
