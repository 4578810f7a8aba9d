import AccountManager.Accounts.Environment
import AccountManager.Rehearsal.Stage
import AccountManager.Storage.FileBlobs
import AccountManager.Proofs.Session.Verification
import AccountManager.Proofs.Accounts.Staleness
import AccountManager.Proofs.Accounts.SignOut
import AccountManager.Proofs.Accounts.Binding
import AccountManager.Proofs.Accounts.Overtaking
import AccountManager.Proofs.Accounts.Waiting
import AccountManager.Proofs.Accounts.Lifetimes
import AccountManager.Proofs.Accounts.Certificates
import AccountManager.Proofs.Accounts.Sharing
import AccountManager.Proofs.Accounts.Renewal
import AccountManager.Proofs.Session.KeyFetch
import AccountManager.Proofs.Accounts.Failures
import AccountManager.Proofs.Accounts.Eviction
import AccountManager.Proofs.Accounts.Forecast
import AccountManager.Proofs.Accounts.Diagram
import AccountManager.Proofs.Storage.Register
import AccountManager.Proofs.Storage.Mirror
import AccountManager.Proofs.Storage.Files
import AccountManager.Proofs.Assertion.Language
import AccountManager.Proofs.Session.Marks
import AccountManager.Proofs.Accounts.Secrecy
import AccountManager.Proofs.Session.Keys
import AccountManager.Proofs.Storage.Atomicity
import AccountManager.Proofs.Rehearsal.Polling
import AccountManager.Proofs.PublicKey
import AccountManager.Proofs.Service.Endpoints
import AccountManager.Proofs.Service.Delivery
import AccountManager.Proofs.Json.Grammar
import AccountManager.Proofs.Json.Complete
import AccountManager.Proofs.Json.Sound
import AccountManager.Proofs.Json.Language
import AccountManager.Proofs.Storage.Versions
import AccountManager.Proofs.Json.Objects
import AccountManager.Proofs.Config
import AccountManager.Proofs.Accounts.Numbering
