import FederatedLogin.Address.Service
import FederatedLogin.Event
import FederatedLogin.Files
import FederatedLogin.Platform

/-!
# The client of the verification service

A client is set up once.  For an https address it trusts the certificates of the system and those
of a bundle, if there is one; a bundle that is missing or empty is passed over with a warning, and
one that cannot be loaded is a configuration failure.  A path that is too long to be looked up is
trouble outside the family of failures; one with a zero byte leads nowhere.  For http no bundle is
looked at.
-/

namespace FederatedLogin

/-- How a client is set up. -/
structure Client where
  url : String
  timeout : Float
  usesTls : Bool

/-- The outcome of a setup, with what was logged on the way. -/
structure Setup (α : Type) where
  result : Except Failure α
  events : List Event

namespace Client

variable [Platform]

/-- Looks at the bundle of trusted certificates. -/
def trust (files : Files) (bundlePath : Option String) : Setup Unit :=
  match bundlePath with
  | none | some "" => ⟨.ok (), [.systemCertificates]⟩
  | some path =>
      if path.toList.contains '\x00' then ⟨.ok (), [.bundleMissing path]⟩
      else if files.isTooLong path then ⟨.error (.outside .nameTooLong), []⟩
      else
        match files.find? path with
        | some (.text source) =>
            if source = "" then ⟨.ok (), [.bundleMissing path]⟩
            else if Platform.loadsBundle source then ⟨.ok (), [.bundleAppended path]⟩
            else ⟨.error (.configuration (.bundleUnusable path)), []⟩
        | some (.database _) => ⟨.error (.configuration (.bundleUnusable path)), []⟩
        | some .directory | none => ⟨.ok (), [.bundleMissing path]⟩

/-- Sets up a client for a base address. -/
def build (files : Files) (base : String) (bundlePath : Option String) (timeout : Float) :
    Setup Client :=
  match Address.serviceUrl base with
  | .error failure => ⟨.error failure, []⟩
  | .ok url =>
      match Address.ofText? url with
      | none => ⟨.error (.outside .invalidAddress), []⟩
      | some address =>
          if address.scheme = "https".toList then
            let trusted := trust files bundlePath
            match trusted.result with
            | .ok () =>
                ⟨.ok { url, timeout, usesTls := true }, trusted.events ++ [.serviceSelected url]⟩
            | .error failure => ⟨.error failure, trusted.events⟩
          else
            ⟨.ok { url, timeout, usesTls := false }, [.serviceSelected url]⟩

end Client

end FederatedLogin
