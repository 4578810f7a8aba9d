import AccountManager.Proofs.Run
import AccountManager.Proofs.Storage.Lawful

/-!
# A credential store as a register

A credential store in memory shares its blobs with whoever else keeps blobs there. As long as the
others leave its blob alone, it tells the record that was put last, whatever is in that record, and
what it does never shows in a blob of theirs.
-/

namespace AccountManager.Storage

/-- What is done with a credential store and with the blobs around it. -/
inductive Use
  | get
  | put (record : CredentialRecord)
  | clear
  | readBlob (name : String)
  | writeBlob (name : String) (bytes : Bytes)
  | deleteBlob (name : String)
  deriving Repr, DecidableEq

inductive Outcome
  | found (result : Except StorageError (Option CredentialRecord))
  | stored (result : Except StorageError Unit)
  | read (result : Except BlobError (Option Bytes))
  | changed (result : Except BlobError Unit)

namespace Use

/-- Whether a use leaves the blob of a name to the credential store. -/
def Spares (name : String) : Use → Prop
  | .writeBlob other _ | .deleteBlob other => other ≠ name
  | _ => True

instance (name : String) : (use : Use) → Decidable (use.Spares name)
  | .writeBlob other _ | .deleteBlob other => inferInstanceAs (Decidable (other ≠ name))
  | .get | .put _ | .clear | .readBlob _ => inferInstanceAs (Decidable True)

/-- Whether a use is one of the credential store that writes. -/
def Stores : Use → Prop
  | .put _ | .clear => True
  | _ => False

/-- What a use makes of the record that was put last and not cleared since. -/
def lastPut (last : Option CredentialRecord) : Use → Option CredentialRecord
  | .put record => some record
  | .clear => none
  | _ => last

end Use

/-- The record that was put last and not cleared since. -/
def lastPut (uses : List Use) : Option CredentialRecord := uses.foldl Use.lastPut none

theorem lastPut_concat (uses : List Use) (last : Use) :
    lastPut (uses ++ [last]) = last.lastPut (lastPut uses) := by
  rw [lastPut, List.foldl_concat, lastPut]

namespace BlobCredentials

section

variable {β : Type} [BlobStore β]

def use (store : BlobCredentials β) : Use → Step (BlobCredentials β) Outcome
  | .get => ⟨.found store.get, store, []⟩
  | .put record => ⟨.stored (store.put record).1, (store.put record).2, []⟩
  | .clear => ⟨.stored store.clear.1, store.clear.2, []⟩
  | .readBlob name => ⟨.read (BlobStore.read store.blobs name), store, []⟩
  | .writeBlob name bytes =>
    ⟨.changed (BlobStore.write store.blobs name bytes).1,
      { store with blobs := (BlobStore.write store.blobs name bytes).2 }, []⟩
  | .deleteBlob name =>
    ⟨.changed (BlobStore.delete store.blobs name).1,
      { store with blobs := (BlobStore.delete store.blobs name).2 }, []⟩

def use? (store : BlobCredentials β) (use : Use) : Option (Step (BlobCredentials β) Outcome) :=
  some (store.use use)

end

variable {store start finish : BlobCredentials MemoryBlobs} {name : String}
  {last : Option CredentialRecord}
  {past history : List (Made (BlobCredentials MemoryBlobs) Use Outcome)}
  {made : Made (BlobCredentials MemoryBlobs) Use Outcome}

/-- Whether the blob of a name is the document of a record, if there is one. -/
def Keeps (store : BlobCredentials MemoryBlobs) (name : String) (last : Option CredentialRecord) :
    Prop :=
  store.name = name ∧ store.blobs.get? name = last.map Envelope.write

theorem Keeps.get (h : store.Keeps name last) : store.get = .ok last := by
  obtain ⟨rfl, hblob⟩ := h
  have hread : BlobStore.read store.blobs store.name = .ok (last.map Envelope.write) :=
    congrArg Except.ok hblob
  rw [BlobCredentials.get, hread]
  cases last with
  | none => rfl
  | some record => exact congrArg (Except.map some) (Envelope.read_write record)

theorem Keeps.use (h : store.Keeps name last) {use : Use} (hspares : use.Spares name) :
    (store.use use).state.Keeps name (use.lastPut last) := by
  obtain ⟨rfl, hblob⟩ := h
  cases use with
  | get | readBlob => exact ⟨rfl, hblob⟩
  | put record => exact ⟨rfl, MemoryBlobs.get?_insert _ _ _⟩
  | clear => exact ⟨rfl, MemoryBlobs.get?_erase _ _⟩
  | writeBlob other bytes =>
    exact ⟨rfl, (MemoryBlobs.get?_insert_of_ne hspares.symm _ bytes).trans hblob⟩
  | deleteBlob other =>
    exact ⟨rfl, (MemoryBlobs.get?_erase_of_ne hspares.symm _).trans hblob⟩

theorem use_of_stores (store : BlobCredentials MemoryBlobs) {use : Use} (hstores : use.Stores) :
    (store.use use).result = .stored (.ok ()) ∧
      ∀ other, other ≠ store.name →
        BlobStore.read (store.use use).state.blobs other = BlobStore.read store.blobs other := by
  cases use with
  | put record =>
    exact ⟨rfl, fun other hother =>
      congrArg Except.ok (MemoryBlobs.get?_insert_of_ne hother _ _)⟩
  | clear =>
    exact ⟨rfl, fun other hother => congrArg Except.ok (MemoryBlobs.get?_erase_of_ne hother _)⟩
  | get | readBlob | writeBlob | deleteBlob => exact hstores.elim

/-- The blob is the document of the record that was put last, whatever the others do. -/
theorem keeps_of_run (hblank : start.blobs.get? start.name = none)
    (run : Run use? start history finish)
    (hspares : ∀ made ∈ history, made.move.Spares start.name) :
    finish.Keeps start.name (lastPut (history.map Made.move)) := by
  induction history using List.reverseRecOn generalizing finish with
  | nil =>
    obtain rfl : start = finish := run
    exact ⟨rfl, hblank⟩
  | append_singleton past made ih =>
    obtain ⟨hpast, hstep, rfl⟩ := run_concat.1 run
    have hkeeps := ih hpast fun other hother => hspares other (List.mem_append_left _ hother)
    rw [List.map_append, List.map_singleton, lastPut_concat, Made.after, ← Option.some.inj hstep]
    exact hkeeps.use (hspares made (by simp))

/-- What the users of a store may rely on: a read tells the record that was put last and not
cleared since, writes succeed, and they leave the blobs of other names alone. -/
structure GivesBack (name : String) (past : List (Made (BlobCredentials MemoryBlobs) Use Outcome))
    (made : Made (BlobCredentials MemoryBlobs) Use Outcome) : Prop where
  found : made.move = .get → made.step.result = .found (.ok (lastPut (past.map Made.move)))
  stored : made.move.Stores → made.step.result = .stored (.ok ())
  spared : made.move.Stores → ∀ other, other ≠ name →
    BlobStore.read made.after.blobs other = BlobStore.read made.before.blobs other

/-- A store that begins without a record gives back what was put, as long as nobody else writes its
blob. -/
theorem store_gives_back (hblank : start.blobs.get? start.name = none)
    (run : Run use? start (past ++ [made]) finish)
    (hspares : ∀ other ∈ past, other.move.Spares start.name) : GivesBack start.name past made := by
  obtain ⟨hpast, hstep, -⟩ := run_concat.1 run
  have hused : made.before.use made.move = made.step := Option.some.inj hstep
  have hkeeps := keeps_of_run hblank hpast hspares
  refine ⟨fun hmove => ?_, fun hmove => ?_, fun hmove => ?_⟩
  · rw [← hused, hmove]
    exact congrArg Outcome.found hkeeps.get
  · rw [← hused]
    exact (made.before.use_of_stores hmove).1
  · rw [Made.after, ← hused, ← hkeeps.1]
    exact (made.before.use_of_stores hmove).2

/-- Awkward texts come back as they were put, while somebody else uses a blob of a similar name. -/
theorem awkward_texts_come_back :
    ∃ finish past,
      ∃ made : Made (BlobCredentials MemoryBlobs) Use Outcome,
        Run use? memory (past ++ [made]) finish ∧
          (∀ other ∈ past, other.move.Spares memory.name) ∧ made.move = .get ∧
          made.step.result = .found (.ok (some
            { email := some "", uid := some "\"\\\u0000\n", sessionToken := some "🔑é" })) := by
  obtain ⟨finish, run⟩ := run_played use? memory [
    .put { email := some "old" },
    .clear,
    .put { email := some "", uid := some "\"\\\u0000\n", sessionToken := some "🔑é" },
    .writeBlob "signedInUser.json.old" [1, 2, 3],
    .deleteBlob "signedInUser",
    .get]
  refine (fun hspares => ⟨finish, [_, _, _, _, _], _, run, hspares, rfl, ?_⟩) (by decide)
  exact (store_gives_back rfl run hspares).found rfl

end BlobCredentials

end AccountManager.Storage
