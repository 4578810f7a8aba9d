import AccountManager.Storage.Blobs
import AccountManager.Storage.Envelope
import AccountManager.Storage.Paths

/-!
# The stored user

A credential store holds at most one record. The one over a blob store keeps it in an envelope under
a name; another one refuses operations on request before they reach the store behind it.
-/

namespace AccountManager.Storage

class CredentialStore (σ : Type) where
  get : σ → Except StorageError (Option CredentialRecord)
  put : σ → CredentialRecord → Except StorageError Unit × σ
  clear : σ → Except StorageError Unit × σ

/-! ### Over a blob store -/

/-- A blob store and the name of the blob that holds the envelope. -/
structure BlobCredentials (β : Type) where
  blobs : β
  name : String := Paths.userName
  deriving Repr, DecidableEq

namespace BlobCredentials

variable {β : Type} [BlobStore β]

def get (store : BlobCredentials β) : Except StorageError (Option CredentialRecord) :=
  match BlobStore.read store.blobs store.name with
  | .error error => .error (.blob error)
  | .ok none => .ok none
  | .ok (some bytes) => (Envelope.read bytes).map some

def put (store : BlobCredentials β) (record : CredentialRecord) :
    Except StorageError Unit × BlobCredentials β :=
  let (result, blobs) := BlobStore.write store.blobs store.name (Envelope.write record)
  (result.mapError .blob, { store with blobs })

def clear (store : BlobCredentials β) : Except StorageError Unit × BlobCredentials β :=
  let (result, blobs) := BlobStore.delete store.blobs store.name
  (result.mapError .blob, { store with blobs })

instance : CredentialStore (BlobCredentials β) := ⟨get, put, clear⟩

omit [BlobStore β] in
/-- The store as it may be shown to people. -/
def description (store : BlobCredentials β) : String :=
  Text.describedPartly "JsonCredentialStore" [("name", Text.quoted store.name)]

end BlobCredentials

/-! ### With refusals -/

/-- A store with, for each operation, the reason for which it is refused at present. -/
structure RefusingCredentials (σ : Type) where
  store : σ
  getRefusal : Option String := none
  putRefusal : Option String := none
  clearRefusal : Option String := none
  deriving Repr, DecidableEq

namespace RefusingCredentials

variable {σ : Type} [CredentialStore σ]

def get (refusing : RefusingCredentials σ) : Except StorageError (Option CredentialRecord) :=
  match refusing.getRefusal with
  | some reason => .error (.blob (.other reason))
  | none => CredentialStore.get refusing.store

def put (refusing : RefusingCredentials σ) (record : CredentialRecord) :
    Except StorageError Unit × RefusingCredentials σ :=
  match refusing.putRefusal with
  | some reason => (.error (.blob (.other reason)), refusing)
  | none =>
    let (result, store) := CredentialStore.put refusing.store record
    (result, { refusing with store })

def clear (refusing : RefusingCredentials σ) : Except StorageError Unit × RefusingCredentials σ :=
  match refusing.clearRefusal with
  | some reason => (.error (.blob (.other reason)), refusing)
  | none =>
    let (result, store) := CredentialStore.clear refusing.store
    (result, { refusing with store })

instance : CredentialStore (RefusingCredentials σ) := ⟨get, put, clear⟩

end RefusingCredentials

end AccountManager.Storage
