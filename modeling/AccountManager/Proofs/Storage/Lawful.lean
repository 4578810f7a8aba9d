import AccountManager.Proofs.Storage.Envelope
import AccountManager.Storage.Credentials

/-!
# Lawful credential stores

What the account manager relies on in a store: there is something that it holds, a successful read
tells it, a successful write or erase replaces it, and a refused one leaves it as it was.
-/

namespace AccountManager.Storage

/-- What a write or an erase leaves behind, by its result. -/
def replacedIf {ε α : Type} (result : Except ε Unit) (new old : α) : α :=
  match result with
  | .ok () => new
  | .error _ => old

theorem replacedIf_mapError {ε ε' α : Type} (result : Except ε Unit) (wrap : ε → ε')
    (new old : α) : replacedIf (result.mapError wrap) new old = replacedIf result new old := by
  cases result <;> rfl

theorem map_replacedIf {ε α β : Type} (f : α → β) (result : Except ε Unit) (new old : Option α) :
    (replacedIf result new old).map f = replacedIf result (new.map f) (old.map f) := by
  cases result <;> rfl

/-- A store that holds at most one record, or a document that cannot be read as one. That a write or
an erase that is refused keeps what the store holds is part of what a store promises: a sign-in that
cannot be stored leaves the user before signed in. -/
class LawfulStore (σ : Type) [CredentialStore σ] where
  contents : σ → Option (Except StorageError CredentialRecord)
  of_get_eq_ok (store : σ) {found : Option CredentialRecord} :
    CredentialStore.get store = .ok found → contents store = found.map .ok
  contents_put (store : σ) (record : CredentialRecord) :
    contents (CredentialStore.put store record).2 =
      replacedIf (CredentialStore.put store record).1 (some (.ok record)) (contents store)
  contents_clear (store : σ) :
    contents (CredentialStore.clear store).2 =
      replacedIf (CredentialStore.clear store).1 none (contents store)

export LawfulStore (contents)

variable {σ : Type} [CredentialStore σ]

section Laws

variable [LawfulStore σ] {store after : σ} {record : CredentialRecord} {error : StorageError}

theorem contents_of_put_eq_ok (hput : CredentialStore.put store record = (.ok (), after)) :
    contents after = some (.ok record) := by
  have hcontents := LawfulStore.contents_put store record
  rwa [hput] at hcontents

theorem contents_of_put_eq_error (hput : CredentialStore.put store record = (.error error, after)) :
    contents after = contents store := by
  have hcontents := LawfulStore.contents_put store record
  rwa [hput] at hcontents

theorem contents_of_clear_eq_ok (hclear : CredentialStore.clear store = (.ok (), after)) :
    contents after = none := by
  have hcontents := LawfulStore.contents_clear store
  rwa [hclear] at hcontents

/-- Whether a read succeeds if there is nothing to read. -/
def ReadsNothing (store : σ) : Prop :=
  contents store = none → CredentialStore.get store = .ok none

/-- Whether a read succeeds if there is a record to read. -/
def Tells (store : σ) : Prop :=
  ∀ record, contents store = some (.ok record) →
    CredentialStore.get store = .ok (some record)

end Laws

/-! ### Over a blob store -/

/-- A blob store that holds what was written last; a write or a removal that is refused keeps it. -/
class LawfulBlobs (β : Type) [BlobStore β] where
  blob : β → String → Option Bytes
  of_read_eq_ok (blobs : β) (name : String) {found : Option Bytes} :
    BlobStore.read blobs name = .ok found → blob blobs name = found
  blob_write (blobs : β) (name : String) (bytes : Bytes) :
    blob (BlobStore.write blobs name bytes).2 name =
      replacedIf (BlobStore.write blobs name bytes).1 (some bytes) (blob blobs name)
  blob_delete (blobs : β) (name : String) :
    blob (BlobStore.delete blobs name).2 name =
      replacedIf (BlobStore.delete blobs name).1 none (blob blobs name)

namespace MemoryBlobs

theorem get?_erase (store : MemoryBlobs) (name : String) : (store.erase name).get? name = none := by
  rw [get?, erase, Option.map_eq_none_iff, List.find?_eq_none]
  intro blob hblob
  have hname := (List.mem_filter.1 hblob).2
  simpa using hname

theorem get?_insert (store : MemoryBlobs) (name : String) (bytes : Bytes) :
    (store.insert name bytes).get? name = some bytes := by
  simp [get?, insert]

theorem get?_erase_of_ne {name other : String} (hother : other ≠ name) (store : MemoryBlobs) :
    (store.erase name).get? other = store.get? other := by
  rw [get?, get?, erase, List.find?_filter]
  congr 2
  funext blob
  by_cases hblob : blob.1 = other
  · simp [hblob, hother]
  · simp [hblob]

theorem get?_insert_of_ne {name other : String} (hother : other ≠ name) (store : MemoryBlobs)
    (bytes : Bytes) : (store.insert name bytes).get? other = store.get? other := by
  rw [← get?_erase_of_ne hother store, get?, get?, insert, List.find?_cons_of_neg]
  simpa using hother.symm

instance : LawfulBlobs MemoryBlobs where
  blob := get?
  of_read_eq_ok _ _ _ hread := by
    cases hread
    rfl
  blob_write := get?_insert
  blob_delete := get?_erase

end MemoryBlobs

namespace BlobCredentials

variable {β : Type} [BlobStore β]

section

variable {store : BlobCredentials β} {blob after : Option Bytes}

theorem map_of_get_eq_ok {found : Option CredentialRecord}
    (hblob : ∀ read, BlobStore.read store.blobs store.name = .ok read → blob = read)
    (hget : store.get = .ok found) : blob.map Envelope.read = found.map .ok := by
  unfold get at hget
  split at hget
  · cases hget
  · rename_i hread
    cases hget
    rw [hblob _ hread]
    rfl
  · rename_i bytes hread
    rw [hblob _ hread]
    cases henvelope : Envelope.read bytes with
    | error error =>
      rw [henvelope] at hget
      cases hget
    | ok record =>
      rw [henvelope] at hget
      cases hget
      rw [Option.map_some, henvelope]
      rfl

theorem map_of_put {record : CredentialRecord}
    (hwrite : after = replacedIf
      (BlobStore.write store.blobs store.name (Envelope.write record)).1
      (some (Envelope.write record)) blob) :
    after.map Envelope.read =
      replacedIf (store.put record).1 (some (.ok record)) (blob.map Envelope.read) := by
  rw [hwrite, map_replacedIf, Option.map_some, Envelope.read_write]
  exact (replacedIf_mapError _ _ _ _).symm

theorem map_of_clear
    (hdelete : after = replacedIf (BlobStore.delete store.blobs store.name).1 none blob) :
    after.map Envelope.read = replacedIf store.clear.1 none (blob.map Envelope.read) := by
  rw [hdelete, map_replacedIf, Option.map_none]
  exact (replacedIf_mapError _ _ _ _).symm

end

variable [LawfulBlobs β]

instance : LawfulStore (BlobCredentials β) where
  contents store := (LawfulBlobs.blob store.blobs store.name).map Envelope.read
  of_get_eq_ok _ _ hget := map_of_get_eq_ok (fun _ => LawfulBlobs.of_read_eq_ok _ _) hget
  contents_put store _ := map_of_put (LawfulBlobs.blob_write store.blobs store.name _)
  contents_clear store := map_of_clear (LawfulBlobs.blob_delete store.blobs store.name)

/-- Whether the blob of a store can be read, if there is one. -/
def ReadsBlob (store : BlobCredentials β) : Prop :=
  ∃ found, BlobStore.read store.blobs store.name = .ok found

/-- A store whose blob can be read tells the record in it. -/
theorem ReadsBlob.tells {store : BlobCredentials β} (h : store.ReadsBlob) : Tells store := by
  intro record hcontents
  obtain ⟨found, hread⟩ := h
  obtain ⟨bytes, hblob, henvelope⟩ := Option.map_eq_some_iff.1 hcontents
  have hfound : found = some bytes := (LawfulBlobs.of_read_eq_ok _ _ hread).symm.trans hblob
  change store.get = .ok (some record)
  unfold get
  simp only [hread, hfound, henvelope]
  rfl

theorem readsNothing (store : BlobCredentials MemoryBlobs) : ReadsNothing store := by
  intro hcontents
  have hblob : store.blobs.get? store.name = none := Option.map_eq_none_iff.1 hcontents
  have hread : BlobStore.read store.blobs store.name = .ok none := congrArg Except.ok hblob
  change store.get = .ok none
  unfold get
  simp only [hread]

end BlobCredentials

def memory : BlobCredentials MemoryBlobs := { blobs := {} }

/-! ### With refusals -/

namespace RefusingCredentials

instance [LawfulStore σ] : LawfulStore (RefusingCredentials σ) where
  contents refusing := contents refusing.store
  of_get_eq_ok refusing found hget := by
    change refusing.get = _ at hget
    unfold get at hget
    split at hget
    · cases hget
    · exact LawfulStore.of_get_eq_ok refusing.store hget
  contents_put refusing record := by
    change contents (refusing.put record).2.store = replacedIf (refusing.put record).1 _ _
    unfold put
    split
    · rfl
    · exact LawfulStore.contents_put refusing.store record
  contents_clear refusing := by
    change contents refusing.clear.2.store = replacedIf refusing.clear.1 _ _
    unfold clear
    split
    · rfl
    · exact LawfulStore.contents_clear refusing.store

theorem readsNothing [LawfulStore σ] {refusing : RefusingCredentials σ}
    (hallowed : refusing.getRefusal = none) (hreads : ReadsNothing refusing.store) :
    ReadsNothing refusing := by
  intro hcontents
  change refusing.get = .ok none
  rw [get, hallowed]
  exact hreads hcontents

end RefusingCredentials

end AccountManager.Storage
