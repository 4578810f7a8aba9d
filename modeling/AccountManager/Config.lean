import AccountManager.Error
import AccountManager.Json.Shape
import AccountManager.Text.Elapsed

/-!
# Configuration

Where the identity service is and how long keys, certificates and assertions last. A document names
the settings that differ from the default; the result is used only if a key outlives its
certificate.
-/

namespace AccountManager

inductive Environment
  | staging
  | production
  deriving Repr, DecidableEq

namespace Environment

def ofName? : String → Option Environment
  | "staging" => some .staging
  | "production" => some .production
  | _ => none

def unknownName : String := "Matching variant not found"

def description : Environment → String
  | .staging => "Staging"
  | .production => "Production"

end Environment

/-- The settings; lifetimes and intervals are in milliseconds. -/
structure Config where
  remoteUrl : String := "https://accounts.firefox.com/"
  authServerUrl : String := "https://api.accounts.firefox.com/v1"
  keyLifetime : UInt64 := 43200000
  certificateLifetime : UInt64 := 21600000
  assertionLifetime : UInt64 := 120000
  pollInterval : UInt64 := 3000
  maxPolls : UInt64 := 100
  deriving Repr, DecidableEq

namespace Config

def ofEnvironment : Environment → Config
  | .staging =>
    { remoteUrl := "https://accounts.stage.mozaws.net/"
      authServerUrl := "https://api-accounts.stage.mozaws.net/v1" }
  | .production => {}

/-- The fields of a written configuration, all of which may be missing. -/
def shape : Json.Shape Config where
  name := "AccountsConfig"
  fields := [
    ⟨"remote_url", .text, false, fun value config => { config with remoteUrl := value }⟩,
    ⟨"auth_server_url", .text, false, fun value config => { config with authServerUrl := value }⟩,
    ⟨"key_lifetime_ms", .word "u64", false,
      fun value config => { config with keyLifetime := value }⟩,
    ⟨"cert_lifetime_ms", .word "u64", false,
      fun value config => { config with certificateLifetime := value }⟩,
    ⟨"assertion_lifetime_ms", .word "u64", false,
      fun value config => { config with assertionLifetime := value }⟩,
    ⟨"verification_poll_interval_ms", .word "u64", false,
      fun value config => { config with pollInterval := value }⟩,
    ⟨"verification_max_polls", .word "usize", false,
      fun value config => { config with maxPolls := value }⟩]
  blank := {}

def write (config : Config) : String :=
  String.ofList (Json.writtenObject [
    ("remote_url", Json.writtenText config.remoteUrl),
    ("auth_server_url", Json.writtenText config.authServerUrl),
    ("key_lifetime_ms", Json.writtenWord config.keyLifetime),
    ("cert_lifetime_ms", Json.writtenWord config.certificateLifetime),
    ("assertion_lifetime_ms", Json.writtenWord config.assertionLifetime),
    ("verification_poll_interval_ms", Json.writtenWord config.pollInterval),
    ("verification_max_polls", Json.writtenWord config.maxPolls)])

def validate (config : Config) : Except ConfigError Unit :=
  if config.certificateLifetime = 0 ∨ config.assertionLifetime = 0 then .error .lifetimeNotPositive
  else if config.keyLifetime ≤ config.certificateLifetime then
    .error (.keyOutlived config.keyLifetime config.certificateLifetime)
  else .ok ()

def read (text : String) : Except ConfigError Config :=
  match shape.readText text with
  | .error error => .error (.malformed error)
  | .ok config => do
    config.validate
    .ok config

/-- How long to wait between two checks of the address. -/
def pollSpan (config : Config) : Elapsed := .ofMilliseconds config.pollInterval.toNat

/-- How many checks are made before giving up: at least one. -/
def polls (config : Config) : Nat := max 1 config.maxPolls.toNat

end Config

end AccountManager
