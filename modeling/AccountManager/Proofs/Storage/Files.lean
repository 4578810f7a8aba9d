import AccountManager.Proofs.Storage.Atomicity
import AccountManager.Proofs.Storage.Lawful

/-!
# Lawful stores in files

A write that fails may have created the directory of a store, and from then on a name that goes up
from there with two dots leads to what it did not lead to before. So a store of files is lawful once
its directory is there. In a file system that is a tree, the path of the signed-in user shows the
same before and after if it does not go up, so the store of that user is lawful from the beginning.
-/

namespace AccountManager.Storage

open FileSystem

/-! ### Trees -/

namespace FileSystem

variable {files after : FileSystem} {base : Location} {names : List String} {name : String}

/-- A file that comes into a directory or goes from it leaves a tree. -/
theorem Rooted.of_update {entry : Option Entry} (h : files.Rooted)
    (hbase : files.get? base = some .directory)
    (hplace : files.get? (base ++ [name]) ≠ some .directory) (hentry : entry ≠ some .directory)
    (hafter : after.get? = Function.update files.get? (base ++ [name]) entry) : after.Rooted := by
  intro place last hsome
  have hdirectory : files.get? place = some .directory := by
    by_cases hsame : place ++ [last] = base ++ [name]
    · rwa [(List.append_inj' hsame rfl).1]
    · rw [hafter, Function.update_of_ne hsame] at hsome
      exact h place last hsome
  exact (directory_iff_of_update hplace hentry hafter place).2 hdirectory

theorem Rooted.of_get?_eq (h : files.Rooted) (hsame : after.get? = files.get?) : after.Rooted := by
  intro place last hsome
  rw [hsame] at hsome ⊢
  exact h place last hsome

theorem Opens.rooted (h : files.Opens after [] names) (hrooted : files.Rooted) :
    after.Rooted := by
  intro place last hsome
  cases hbefore : files.get? (place ++ [last]) with
  | none =>
    obtain ⟨entry, hentry⟩ := Option.isSome_iff_exists.1 hsome
    obtain ⟨-, way, rest, -, hwalk⟩ := h.new _ entry hbefore hentry
    exact trodden_nil.walk hwalk place (List.prefix_append _ _) (by simp)
  | some entry => exact h.kept place _ (hrooted place last (by rw [hbefore]; rfl))

end FileSystem

namespace FileBlobs

/-! ### Writing over what was left behind -/

/-- Whether files are as they were, but for a file at a temporary name that may be gone. -/
inductive Clears (made : FileSystem) (temporary : String) : FileSystem → Prop
  | nothing : Clears made temporary made
  | removed {cleared : FileSystem} {base : Location} {name : String}
      (hpoints : made.Points temporary base name)
      (hfile : made.get? (base ++ [name]) ≠ some .directory)
      (h : cleared.get? = Function.update made.get? (base ++ [name]) none) :
      Clears made temporary cleared

section

variable {made cleared : FileSystem} {temporary path : String}

theorem Clears.directory_iff (h : Clears made temporary cleared) (other : Location) :
    cleared.get? other = some .directory ↔ made.get? other = some .directory := by
  cases h with
  | nothing => rfl
  | removed _ hfile h => exact directory_iff_of_update hfile (by simp) h other

theorem Clears.content?_eq (h : Clears made temporary cleared)
    (hlonger : ∀ last, endsInSlash path = false → (parts path).getLast? = some last →
      LongerLast temporary last) : cleared.content? path = made.content? path := by
  refine content?_congr h.directory_iff fun base last hslash hpoints => ?_
  cases h with
  | nothing => rfl
  | removed hother _ h =>
    rw [h, Function.update_of_ne]
    exact ne_of_longerLast hother (hlonger last hslash hpoints.last)

theorem Clears.rooted (h : Clears made temporary cleared) (hrooted : made.Rooted) :
    cleared.Rooted := by
  cases h with
  | nothing => exact hrooted
  | removed hpoints hfile h => exact hrooted.of_update hpoints.directory hfile (by simp) h

variable {refusals : Refusals} {bytes : Bytes} {states : List FileSystem} {files : FileSystem}

theorem abandon_clears (error : SystemError) :
    (abandon temporary error states files).result = .error error ∧
      Clears files temporary (abandon temporary error states files).final := by
  unfold abandon
  split
  · rename_i removed hremove
    obtain ⟨base, name, content, hpoints, hfile, hremoved⟩ := of_remove_eq_ok hremove
    exact ⟨rfl, .removed hpoints (by simp [hfile]) hremoved⟩
  · exact ⟨rfl, .nothing⟩

/-- What came of a write, without the states on the way. -/
def Written.end (written : Written) : Except SystemError Unit × FileSystem :=
  (written.result, written.final)

theorem abandon_end (error : SystemError) :
    (abandon temporary error states files).end = (abandon temporary error [] files).end := by
  unfold abandon
  cases files.remove temporary <;> rfl

theorem publish_end :
    (publish refusals temporary path states files).end =
      (publish refusals temporary path [] files).end := by
  unfold publish
  cases refusals .publish with
  | some refusal => exact abandon_end _
  | none =>
    cases files.rename temporary path with
    | error error => exact abandon_end _
    | ok published => rfl

theorem fill_end :
    (fill refusals temporary path bytes states files).end =
      (fill refusals temporary path bytes [] files).end := by
  unfold fill
  dsimp only
  split
  · exact abandon_end _
  · cases refusals .fill with
    | some refusal => exact (abandon_end _).trans (abandon_end _).symm
    | none =>
      cases refusals .sync with
      | some refusal => exact (abandon_end _).trans (abandon_end _).symm
      | none => exact publish_end.trans publish_end.symm

end

/-- A file that was left behind at the temporary name of a write might as well not have been
there. -/
theorem exists_leaves (refusals : Refusals) (store : FileBlobs) (name : String) (bytes : Bytes) :
    ∃ cleared written, Clears (store.prepare refusals).2 (store.temporaryPath name) cleared ∧
      Leaves cleared (store.temporaryPath name) (store.path name) bytes written ∧
      (store.writeRefusing refusals name bytes).result = written.result ∧
      (store.writeRefusing refusals name bytes).final = written.final := by
  have hfails (error : SystemError) (files : FileSystem) :
      Leaves files (store.temporaryPath name) (store.path name) bytes
        ⟨.error error, [files], files⟩ :=
    ⟨List.forall_mem_singleton.2 (.untouched rfl), rfl, fun _ _ => rfl, nofun⟩
  have habandons (made : FileSystem) (error : SystemError) :
      ∃ cleared written, Clears made (store.temporaryPath name) cleared ∧
        Leaves cleared (store.temporaryPath name) (store.path name) bytes written ∧
        (abandon (store.temporaryPath name) error [made] made).result = written.result ∧
        (abandon (store.temporaryPath name) error [made] made).final = written.final := by
    obtain ⟨hresult, hclears⟩ := @abandon_clears (store.temporaryPath name) [made] made error
    exact ⟨_, _, hclears, hfails error _, hresult, rfl⟩
  unfold writeRefusing
  split
  · rename_i error files hprepared
    rw [hprepared]
    exact ⟨_, _, .nothing, hfails error files, rfl, rfl⟩
  · rename_i made hprepared
    rw [hprepared]
    dsimp only
    split
    · exact habandons made _
    · split
      · exact habandons made _
      · rename_i created hcreate
        obtain ⟨hslash, base, last, hpoints, hfile, hcreated⟩ := of_create_eq_ok hcreate
        have hcleared : (made.erase (base ++ [last])).get? =
            Function.update made.get? (base ++ [last]) none := get?_erase (by simp)
        have hclears : Clears made (store.temporaryPath name) (made.erase (base ++ [last])) :=
          .removed hpoints hfile hcleared
        have hthere := hpoints.of_directories fun other => (hclears.directory_iff other).2
        refine ⟨_, _, hclears, fill_leaves hthere hslash ?_ refusals (List.forall_mem_nil _) ?_,
          congrArg Prod.fst fill_end, congrArg Prod.snd fill_end⟩
        · rw [hcleared, Function.update_self]
        · rw [hcleared, Function.update_idem, hcreated]

theorem Leaves.content?_eq {made : FileSystem} {temporary path : String} {bytes : Bytes}
    {written : Written} (h : Leaves made temporary path bytes written) :
    written.final.content? path =
      replacedIf written.result (some bytes) (made.content? path) := by
  cases hresult : written.result with
  | error error =>
    have hsame := h.failed error hresult
    exact content?_congr (fun other => by rw [hsame]) fun _ _ _ _ => by rw [hsame]
  | ok => exact content?_eq_some.2 (h.read_eq hresult)

theorem Leaves.rooted {made : FileSystem} {temporary path : String} {bytes : Bytes}
    {written : Written} (h : Leaves made temporary path bytes written) (hrooted : made.Rooted) :
    written.final.Rooted := by
  cases hresult : written.result with
  | error error => exact hrooted.of_get?_eq (h.failed error hresult)
  | ok =>
    obtain ⟨base, last, hpoints, -, hfinal⟩ := h.succeeded hresult
    refine hrooted.of_update hpoints.directory (fun hdirectory => ?_) (by simp) hfinal
    have hafter := (h.directory_iff _).2 hdirectory
    rw [hfinal, Function.update_self] at hafter
    cases hafter

/-! ### What the operations do to a blob -/

section

variable (store : FileBlobs) (name : String) (bytes : Bytes)

theorem content?_of_read_eq_ok {store : FileBlobs} {name : String} {found : Option Bytes}
    (hread : BlobStore.read store name = .ok found) :
    store.files.content? (store.path name) = found := by
  change (store.read name).mapError BlobError.system = .ok found at hread
  rw [mapError_eq_ok_iff] at hread
  unfold read at hread
  split at hread
  · rename_i content hcontent
    cases hread
    exact content?_eq_some.2 hcontent
  · rename_i hnone
    cases hread
    rw [content?, hnone]
    rfl
  · cases hread

/-- Whichever calls the system refuses, a write replaces what is shown under the name of a blob or
leaves it, if that is not changed by the directories that it creates. -/
theorem content?_writeRefusing (refusals : Refusals)
    (hprepared : (store.prepare refusals).2.content? (store.path name) =
      store.files.content? (store.path name)) :
    (store.writeRefusing refusals name bytes).final.content? (store.path name) =
      replacedIf (store.writeRefusing refusals name bytes).result (some bytes)
        (store.files.content? (store.path name)) := by
  obtain ⟨cleared, written, hclears, hleaves, hresult, hfinal⟩ :=
    exists_leaves refusals store name bytes
  have hcleared := hclears.content?_eq fun last hslash hlast =>
    longerLast_temporaryPath hslash hlast
  rw [hresult, hfinal, hleaves.content?_eq, hcleared, hprepared]

theorem directory_writeRefusing (refusals : Refusals) {place : Location}
    (hplace : store.files.get? place = some .directory) :
    (store.writeRefusing refusals name bytes).final.get? place = some .directory := by
  obtain ⟨cleared, written, hclears, hleaves, -, hfinal⟩ :=
    exists_leaves refusals store name bytes
  rw [hfinal, hleaves.directory_iff, hclears.directory_iff]
  exact (prepare_opens refusals store).kept place _ hplace

theorem rooted_writeRefusing (refusals : Refusals) (hrooted : store.files.Rooted) :
    (store.writeRefusing refusals name bytes).final.Rooted := by
  obtain ⟨cleared, written, hclears, hleaves, -, hfinal⟩ :=
    exists_leaves refusals store name bytes
  rw [hfinal]
  exact hleaves.rooted (hclears.rooted ((prepare_opens refusals store).rooted hrooted))

theorem content?_write (hprepared : (store.prepare fun _ => none).2.content? (store.path name) =
      store.files.content? (store.path name)) :
    (BlobStore.write store name bytes).2.files.content? (store.path name) =
      replacedIf (BlobStore.write store name bytes).1 (some bytes)
        (store.files.content? (store.path name)) := by
  change _ = replacedIf ((store.write name bytes).1.mapError BlobError.system) _ _
  rw [replacedIf_mapError]
  exact store.content?_writeRefusing name bytes (fun _ => none) hprepared

theorem delete_clears : Clears store.files (store.path name) (store.delete name).2.files := by
  unfold delete
  split
  · rename_i files hremove
    obtain ⟨base, last, content, hpoints, hfile, hremoved⟩ := of_remove_eq_ok hremove
    exact .removed hpoints (by simp [hfile]) hremoved
  · exact .nothing
  · exact .nothing

theorem directory_delete : (store.delete name).2.directory = store.directory := by
  unfold delete
  split <;> rfl

theorem content?_delete :
    (BlobStore.delete store name).2.files.content? ((BlobStore.delete store name).2.path name) =
      replacedIf (BlobStore.delete store name).1 none
        (store.files.content? (store.path name)) := by
  change (store.delete name).2.files.content? (Paths.join (store.delete name).2.directory name) =
    replacedIf ((store.delete name).1.mapError BlobError.system) _ _
  rw [replacedIf_mapError, directory_delete]
  change (store.delete name).2.files.content? (store.path name) = _
  unfold delete
  split
  · rename_i files hremove
    obtain ⟨base, last, content, hpoints, hfile, hremoved⟩ := of_remove_eq_ok hremove
    have hsame := directory_iff_of_update (by simp [hfile]) (by simp) hremoved
    refine Option.eq_none_iff_forall_ne_some.2 fun shown hshown => ?_
    obtain ⟨-, otherBase, other, hother, hthere⟩ := read_eq_ok_iff.1 (content?_eq_some.1 hshown)
    obtain ⟨rfl, rfl⟩ := hpoints.unique (hother.of_directories fun place => (hsame place).1)
    rw [hremoved, Function.update_self] at hthere
    cases hthere
  · rename_i hremove
    refine Option.eq_none_iff_forall_ne_some.2 fun shown hshown => ?_
    obtain ⟨hslash, base, last, hpoints, hthere⟩ :=
      read_eq_ok_iff.1 (content?_eq_some.1 hshown)
    cases hremove.symm.trans (hpoints.remove hslash hthere)
  · rfl

end

end FileBlobs

/-! ### A store whose directory is there -/

/-- A store of files whose directory is there. -/
structure HousedBlobs extends FileBlobs where
  housed : ∃ place, files.Leads directory place

namespace HousedBlobs

instance : BlobStore HousedBlobs where
  read store name := BlobStore.read store.toFileBlobs name
  write store name bytes :=
    ((BlobStore.write store.toFileBlobs name bytes).1,
      { toFileBlobs := (BlobStore.write store.toFileBlobs name bytes).2
        housed := by
          obtain ⟨place, hleads⟩ := store.housed
          exact ⟨place, hleads.of_directories fun other =>
            store.directory_writeRefusing name bytes fun _ => none⟩ })
  delete store name :=
    ((BlobStore.delete store.toFileBlobs name).1,
      { toFileBlobs := (BlobStore.delete store.toFileBlobs name).2
        housed := by
          obtain ⟨place, hleads⟩ := store.housed
          refine ⟨place, ?_⟩
          change (store.delete name).2.files.Leads (store.delete name).2.directory place
          rw [store.directory_delete]
          exact hleads.of_directories fun other =>
            ((store.delete_clears name).directory_iff other).2 })

/-- Whatever a name is, what a store shows under it is what was written last. -/
instance : LawfulBlobs HousedBlobs where
  blob store name := store.files.content? (store.path name)
  of_read_eq_ok _ _ _ hread := FileBlobs.content?_of_read_eq_ok hread
  blob_write store name bytes := by
    obtain ⟨place, hleads⟩ := store.housed
    have hprepared := FileBlobs.prepare_of_leads (fun _ => none) hleads
    exact store.content?_write name bytes (by rw [hprepared])
  blob_delete store name := store.content?_delete name

end HousedBlobs

/-! ### The store of the signed-in user -/

/-- A credential store over files, in a file system that is a tree and under a path that does not go
up. Its directory need not be there. -/
structure FileCredentials extends BlobCredentials FileBlobs where
  rooted : blobs.files.Rooted
  straight : ".." ∉ parts (blobs.path name)

namespace FileCredentials

/-- The store of a user below a root, before anything was written. -/
def ofPaths (paths : Paths) (files : FileSystem) (hrooted : files.Rooted)
    (hstraight : ".." ∉ parts paths.root) : FileCredentials where
  blobs := { files, directory := paths.directory }
  rooted := hrooted
  straight := by
    have hname : IsName longestName Paths.userName := by decide
    have hdirectory : IsName longestName "fxaccounts" := by decide
    change ".." ∉ parts (Paths.join (Paths.join paths.root "fxaccounts") Paths.userName)
    rw [parts_join _ hname, parts_join _ hdirectory]
    simp [hstraight, Paths.userName]

instance : CredentialStore FileCredentials where
  get store := store.toBlobCredentials.get
  put store record :=
    ((store.toBlobCredentials.put record).1,
      { toBlobCredentials := (store.toBlobCredentials.put record).2
        rooted := store.blobs.rooted_writeRefusing _ _ (fun _ => none) store.rooted
        straight := store.straight })
  clear store :=
    (store.toBlobCredentials.clear.1,
      { toBlobCredentials := store.toBlobCredentials.clear.2
        rooted := (store.blobs.delete_clears store.name).rooted store.rooted
        straight := by
          change ".." ∉ parts (Paths.join (store.blobs.delete store.name).2.directory store.name)
          rw [store.blobs.directory_delete]
          exact store.straight })

instance : LawfulStore FileCredentials where
  contents store := (store.blobs.files.content? (store.blobs.path store.name)).map Envelope.read
  of_get_eq_ok _ _ hget :=
    BlobCredentials.map_of_get_eq_ok (fun _ => FileBlobs.content?_of_read_eq_ok) hget
  contents_put store record := by
    have hopens := FileBlobs.prepare_opens (fun _ => none) store.blobs
    exact BlobCredentials.map_of_put (store.blobs.content?_write store.name
      (Envelope.write record) (hopens.content?_eq store.rooted store.straight))
  contents_clear store :=
    BlobCredentials.map_of_clear (store.blobs.content?_delete store.name)

/-- Below a root that is missing, nobody is signed in. -/
theorem get_ofPaths {paths : Paths} {files : FileSystem} (hrooted : files.Rooted)
    (hstraight : ".." ∉ parts paths.root) (hmissing : files.Missing paths.root)
    (hroom : HasRoom paths.directory) :
    CredentialStore.get (ofPaths paths files hrooted hstraight) = .ok none := by
  have hname : IsName longestName Paths.userName := by decide
  have hdirectory : IsName longestName "fxaccounts" := by decide
  have hread : FileBlobs.read { files, directory := paths.directory } Paths.userName = .ok none :=
    FileBlobs.read_of_absent _ hroom (hmissing.join hdirectory).walk hname
  have hblob : BlobStore.read (ofPaths paths files hrooted hstraight).blobs Paths.userName =
      .ok none := congrArg (Except.mapError BlobError.system) hread
  change BlobCredentials.get (ofPaths paths files hrooted hstraight).toBlobCredentials = _
  unfold BlobCredentials.get
  rw [show (ofPaths paths files hrooted hstraight).name = Paths.userName from rfl, hblob]

end FileCredentials

end AccountManager.Storage
