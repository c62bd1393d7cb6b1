import FederatedLogin.Platform.Standard
import FederatedLogin.Proofs.Settings.Client

/-!
# Whom a client trusts

Whether a client uses TLS goes by the scheme of its base address as it is written, although the
setup looks at the scheme of the resolved text.  For https it trusts the certificates of the system
and those of its bundle, and a bundle that cannot be loaded is a configuration failure, never a
client without it.  For http the bundle plays no role.
-/

namespace FederatedLogin

open FederatedLogin.Text

namespace Address

end Address

namespace Client

section

variable [Platform]

variable {files : Files} {bundlePath : Option String} {written url : String}

/-! ## Trust -/

end

section

open scoped Platform

end

end Client

end FederatedLogin
