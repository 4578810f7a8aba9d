import AccountManager.CredentialRecord
import AccountManager.Storage.Error

/-!
# The stored document

A record is stored inside an envelope that carries the version of its layout. The version is judged
before anything else, so that a later layout is reported as such and not as a malformed record.
-/

namespace AccountManager.Storage.Envelope

/-- The only layout that is understood. -/
def version : Nat := 1

/-- The greatest version that is told apart; higher ones are reported as this one. -/
def greatestVersion : Nat := 4294967295

def write (record : CredentialRecord) : Bytes :=
  Utf8.encode (String.ofList (Json.writtenObject [
    ("version", (toString version).toList),
    ("accountData", record.written)]))

/-- The record inside an envelope of the right version. -/
def account (document : Json.Value) : Except StorageError CredentialRecord :=
  match document.member? "accountData" with
  | none => .error (.malformed ⟨.missingField "accountData", none⟩)
  | some data =>
    match CredentialRecord.shape.ofValue data with
    | .ok record => .ok record
    | .error cause => .error (.malformed ⟨cause, none⟩)

def read (bytes : Bytes) : Except StorageError CredentialRecord :=
  match Json.Value.read bytes with
  | .error error => .error (.malformed error)
  | .ok document =>
    match (document.member? "version").bind Json.Value.unsigned? with
    | none => .error .noVersion
    | some held =>
      let held := min held.toNat greatestVersion
      if held = version then account document else .error (.unsupportedVersion held)

end AccountManager.Storage.Envelope
