import AccountManager.Json.Shape
import AccountManager.Text.Described

/-!
# The record of a signed-in user

What is known of a user: names, tokens, keys and whether the address was verified. A record is
written as an object without its missing fields, and what is shown of it never holds a token or a
key.
-/

namespace AccountManager

/-- The credentials of a user. Keys are texts of hexadecimal digits. -/
structure CredentialRecord where
  email : Option String := none
  uid : Option String := none
  sessionToken : Option String := none
  keyFetchToken : Option String := none
  unwrapBKey : Option String := none
  kA : Option String := none
  kB : Option String := none
  isVerified : Bool := false
  assertion : Option String := none
  deriving Repr, DecidableEq

namespace CredentialRecord

def hasKeys (record : CredentialRecord) : Bool := record.kA.isSome && record.kB.isSome

/-- The fields of a written record, all of which may be missing. -/
def shape : Json.Shape CredentialRecord where
  name := "CredentialRecord"
  fields := [
    ⟨"email", .optionalText, false, fun value record => { record with email := value }⟩,
    ⟨"uid", .optionalText, false, fun value record => { record with uid := value }⟩,
    ⟨"sessionToken", .optionalText, false,
      fun value record => { record with sessionToken := value }⟩,
    ⟨"keyFetchToken", .optionalText, false,
      fun value record => { record with keyFetchToken := value }⟩,
    ⟨"unwrapBKey", .optionalText, false, fun value record => { record with unwrapBKey := value }⟩,
    ⟨"kA", .optionalText, false, fun value record => { record with kA := value }⟩,
    ⟨"kB", .optionalText, false, fun value record => { record with kB := value }⟩,
    ⟨"isVerified", .flag, false, fun value record => { record with isVerified := value }⟩,
    ⟨"assertion", .optionalText, false, fun value record => { record with assertion := value }⟩]
  blank := {}

/-- A field that is written only if it is there. -/
def writtenOption (name : String) : Option String → List (String × List Char)
  | none => []
  | some value => [(name, Json.writtenText value)]

def written (record : CredentialRecord) : List Char :=
  Json.writtenObject (
    writtenOption "email" record.email ++
    writtenOption "uid" record.uid ++
    writtenOption "sessionToken" record.sessionToken ++
    writtenOption "keyFetchToken" record.keyFetchToken ++
    writtenOption "unwrapBKey" record.unwrapBKey ++
    writtenOption "kA" record.kA ++
    writtenOption "kB" record.kB ++
    [("isVerified", Json.writtenFlag record.isVerified)] ++
    writtenOption "assertion" record.assertion)

def write (record : CredentialRecord) : String := String.ofList record.written

def redacted : Option String → String
  | none => Text.quoted "<none>"
  | some _ => Text.quoted "<redacted>"

/-- The record as it may be shown to people. -/
def description (record : CredentialRecord) : String :=
  Text.describedPartly "CredentialRecord" [
    ("email", Text.describedOption (record.email.map Text.quoted)),
    ("uid", Text.describedOption (record.uid.map Text.quoted)),
    ("session_token", redacted record.sessionToken),
    ("key_fetch_token", redacted record.keyFetchToken),
    ("unwrap_b_key", redacted record.unwrapBKey),
    ("k_a", redacted record.kA),
    ("k_b", redacted record.kB),
    ("is_verified", toString record.isVerified)]

end CredentialRecord

end AccountManager
