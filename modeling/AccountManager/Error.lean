import AccountManager.Storage.Error
import AccountManager.Text.Base64Url
import AccountManager.Text.Described
import AccountManager.Text.Hex
import AccountManager.Url.Error

/-!
# Why an operation of the account manager fails

Each failure is a cause; its wording is in one function beside it.
-/

namespace AccountManager

inductive RemoteError
  | network (url : String) (status : Option Nat) (reason : String)
  | invalidResponse (reason : String)
  deriving Repr, DecidableEq

def RemoteError.message : RemoteError → String
  | .network url status reason =>
    let shown := Text.describedOption (status.map toString)
    "network_error: " ++ url ++ " (status " ++ shown ++ "): " ++ reason
  | .invalidResponse reason => "invalid_response: " ++ reason

inductive ConfigError
  | malformed (error : Json.Error)
  | lifetimeNotPositive
  | keyOutlived (keyLifetime certificateLifetime : UInt64)
  | badUrl (url : String) (error : Url.ParseError)
  deriving Repr, DecidableEq

def ConfigError.message : ConfigError → String
  | .malformed error => error.message
  | .lifetimeNotPositive => "lifetimes must be positive"
  | .keyOutlived key certificate =>
    "key lifetime (" ++ toString key.toNat ++ "ms) must exceed certificate lifetime (" ++
      toString certificate.toNat ++ "ms)"
  | .badUrl url error => url ++ ": " ++ error.message

/-- A field of the record that an operation cannot do without. -/
inductive Token
  | session
  | keyFetch
  | unwrapKey
  deriving Repr, DecidableEq

def Token.name : Token → String
  | .session => "sessionToken"
  | .keyFetch => "keyFetchToken"
  | .unwrapKey => "unwrapBKey"

inductive KeyError
  | unsupportedAlgorithm (name : String)
  | undecodable (error : Base64Url.DecodeError)
  | wrongLength
  | noPoint
  | badUnwrapKey (error : Hex.DecodeError)
  | lengthMismatch (left right : Nat)
  deriving Repr, DecidableEq

def KeyError.message : KeyError → String
  | .unsupportedAlgorithm name => "unsupported algorithm " ++ name
  | .undecodable error => error.message
  | .wrongLength => "public key must be 32 bytes"
  | .noPoint => "signature error: Cannot decompress Edwards point"
  | .badUnwrapKey error => Token.unwrapKey.name ++ ": " ++ error.message
  | .lengthMismatch left right =>
    "length mismatch: " ++ toString left ++ " vs " ++ toString right ++ " bytes"

/-- Why a text is no assertion or no key. -/
inductive SerializationError
  | malformedAssertion
  | undecodable (error : Base64Url.DecodeError)
  | malformed (error : Json.Error)
  deriving Repr, DecidableEq

def SerializationError.message : SerializationError → String
  | .malformedAssertion => "malformed assertion"
  | .undecodable error => error.message
  | .malformed error => error.message

inductive AccountError
  | storage (error : Storage.StorageError)
  | insecureEndpoint (url : String)
  | invalidConfig (error : ConfigError)
  | notSignedIn
  | notVerified
  | missingToken (token : Token)
  | remoteCall (error : RemoteError)
  | invalidKey (error : KeyError)
  | verificationTimedOut (attempts : Nat)
  | serialization (error : SerializationError)
  deriving Repr, DecidableEq

def AccountError.message : AccountError → String
  | .storage error => error.message
  | .insecureEndpoint url => "insecure_endpoint: " ++ url ++ " must use https"
  | .invalidConfig error => "invalid_config: " ++ error.message
  | .notSignedIn => "not_signed_in"
  | .notVerified => "not_verified"
  | .missingToken token => "missing_token: " ++ token.name
  | .remoteCall error => error.message
  | .invalidKey error => "invalid_key_material: " ++ error.message
  | .verificationTimedOut attempts =>
    "verification_timed_out after " ++ toString attempts ++ " polls"
  | .serialization error => "serialization_error: " ++ error.message

end AccountManager
