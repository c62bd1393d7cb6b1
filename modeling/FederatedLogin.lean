import FederatedLogin.Display
import FederatedLogin.Failure.Account
import FederatedLogin.Logging.Event
import FederatedLogin.Main
import FederatedLogin.Registry
import FederatedLogin.Proofs.Address.EndSlashes
import FederatedLogin.Proofs.Address.Resolved
import FederatedLogin.Proofs.Operator.Output
import FederatedLogin.Proofs.Operator.Token
import FederatedLogin.Proofs.Random
import FederatedLogin.Proofs.Session.Agreement
import FederatedLogin.Proofs.Session.Carried
import FederatedLogin.Proofs.Session.Commuting
import FederatedLogin.Proofs.Session.MissingEmail
import FederatedLogin.Proofs.Session.OwnEmail
import FederatedLogin.Proofs.Session.Race
import FederatedLogin.Proofs.Session.Randomness
import FederatedLogin.Proofs.Session.Refinement
import FederatedLogin.Proofs.Session.Repetition
import FederatedLogin.Proofs.Session.Secrecy
import FederatedLogin.Proofs.Session.Separation
import FederatedLogin.Proofs.Settings.Padding
import FederatedLogin.Proofs.Settings.Trust
import FederatedLogin.Proofs.Store.Calls
import FederatedLogin.Proofs.Verification.Attributes
import FederatedLogin.Proofs.Verification.Rejection
import FederatedLogin.Proofs.Verification.Sending
import FederatedLogin.Proofs.Verification.Unavailable
import FederatedLogin.Proofs.Verification.Verdict
import FederatedLogin.Certificate.Armor
import FederatedLogin.Certificate.Bundle
import FederatedLogin.Platform.Standard
