import AccountManager.Storage.Error

/-!
# Blob stores

A blob store keeps bytes under names. A write replaces the whole content or leaves it as it was, and
removing what is not there succeeds.
-/

namespace AccountManager.Storage

class BlobStore (σ : Type) where
  read : σ → String → Except BlobError (Option Bytes)
  write : σ → String → Bytes → Except BlobError Unit × σ
  delete : σ → String → Except BlobError Unit × σ

/-! ### In memory -/

/-- A store that lasts as long as the program: names with their contents, no name twice. -/
structure MemoryBlobs where
  blobs : List (String × Bytes) := []
  deriving Repr, DecidableEq

namespace MemoryBlobs

def get? (store : MemoryBlobs) (name : String) : Option Bytes :=
  (store.blobs.find? fun blob => blob.1 = name).map Prod.snd

def erase (store : MemoryBlobs) (name : String) : MemoryBlobs :=
  ⟨store.blobs.filter fun blob => blob.1 ≠ name⟩

def insert (store : MemoryBlobs) (name : String) (bytes : Bytes) : MemoryBlobs :=
  ⟨(name, bytes) :: (store.erase name).blobs⟩

instance : BlobStore MemoryBlobs where
  read store name := .ok (store.get? name)
  write store name bytes := (.ok (), store.insert name bytes)
  delete store name := (.ok (), store.erase name)

end MemoryBlobs

end AccountManager.Storage
