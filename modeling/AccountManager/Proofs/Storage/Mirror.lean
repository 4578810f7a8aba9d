import AccountManager.Proofs.Storage.FileSystem
import AccountManager.Proofs.Storage.Register
import AccountManager.Storage.FileBlobs
import Mathlib.Data.Nat.Digits.Defs
import Mathlib.Data.String.Basic

/-!
# Blobs in files and blobs in memory

A store that keeps blobs as files answers as one that keeps them in memory, and what lies in its
directory after each call are the blobs and nothing else. Neither the directory that the first write
creates nor the file that every write fills before it gives it the name of the blob can be noticed.
-/

namespace AccountManager.Storage

open FileSystem

/-! ### Temporary names -/

namespace FileBlobs

/-- The longest name of a blob, in bytes: the name of the file that a write fills first has
thirty-eight bytes more. -/
def longestBlobName : Nat := 217

/-- The name of the file that a write fills first. -/
def temporaryName (drawn : Nat) (name : String) : String :=
  "." ++ name ++ "." ++ ticket drawn ++ ".tmp"

variable {drawn : Nat} {name : String} {character : Char}

theorem temporaryPath_eq (store : FileBlobs) (name : String) :
    store.temporaryPath name = store.path (temporaryName store.writes name) := rfl

theorem exists_of_mem_toDigits {number : Nat} (h : character ∈ Nat.toDigits 16 number) :
    ∃ value < 16, character = Nat.digitChar value := by
  induction number using Nat.strongRecOn with
  | ind number ih =>
    rw [Nat.toDigits_eq_if (by decide)] at h
    split_ifs at h with hnumber
    · exact ⟨number, hnumber, List.mem_singleton.1 h⟩
    · rcases List.mem_append.1 h with h | h
      · exact ih (number / 16) (by omega) h
      · exact ⟨number % 16, Nat.mod_lt _ (by decide), List.mem_singleton.1 h⟩

theorem mem_ticket (h : character ∈ (ticket drawn).toList) :
    ∃ value < 16, character = Nat.digitChar value := by
  rw [ticket, String.toList_ofList, List.mem_append] at h
  rcases h with h | h
  · exact ⟨0, by decide, (List.mem_replicate.1 h).2⟩
  · exact exists_of_mem_toDigits h

theorem digitChar_spec :
    ∀ value < 16, (Nat.digitChar value).utf8Size = 1 ∧ Nat.digitChar value ≠ '/' ∧
      Nat.digitChar value ≠ '\x00' := by
  decide

theorem utf8Len_eq_length {characters : List Char} (h : ∀ c ∈ characters, c.utf8Size = 1) :
    String.utf8Len characters = characters.length := by
  induction characters with
  | nil => rfl
  | cons first rest ih =>
    rw [String.utf8Len_cons, h first List.mem_cons_self,
      ih fun c hc => h c (List.mem_cons_of_mem _ hc), List.length_cons]

theorem utf8ByteSize_ticket (hdrawn : drawn < 16 ^ 32) : (ticket drawn).utf8ByteSize = 32 := by
  have hdigits := Nat.toDigits_length 16 drawn 32 (by decide) hdrawn
  have hsizes : ∀ c ∈ (ticket drawn).toList, c.utf8Size = 1 := by
    intro c hc
    obtain ⟨value, hvalue, rfl⟩ := mem_ticket hc
    exact (digitChar_spec value hvalue).1
  have hlength : (ticket drawn).toList.length = 32 := by
    rw [ticket, String.toList_ofList, List.length_append, List.length_replicate]
    omega
  rw [← String.utf8Len_toList, utf8Len_eq_length hsizes, hlength]

theorem utf8ByteSize_temporaryName (hdrawn : drawn < 16 ^ 32) :
    (temporaryName drawn name).utf8ByteSize = name.utf8ByteSize + 38 := by
  have hdot : ".".utf8ByteSize = 1 := rfl
  have hending : ".tmp".utf8ByteSize = 4 := rfl
  simp only [temporaryName, String.utf8ByteSize_append, utf8ByteSize_ticket hdrawn]
  omega

theorem not_mem_temporaryName (hname : character ∉ name.toList) (hdot : character ∉ ".".toList)
    (hending : character ∉ ".tmp".toList)
    (hdigit : ∀ value < 16, Nat.digitChar value ≠ character) :
    character ∉ (temporaryName drawn name).toList := by
  have hticket : character ∉ (ticket drawn).toList := by
    intro h
    obtain ⟨value, hvalue, rfl⟩ := mem_ticket h
    exact hdigit value hvalue rfl
  simp only [temporaryName, String.toList_append, List.mem_append, not_or]
  exact ⟨⟨⟨⟨hdot, hname⟩, hdot⟩, hticket⟩, hending⟩

/-- A write fills a file whose name is no longer than names may be. -/
theorem isName_temporaryName (hname : IsName longestBlobName name) (hdrawn : drawn < 16 ^ 32) :
    IsName longestName (temporaryName drawn name) := by
  have hsize : (temporaryName drawn name).utf8ByteSize = name.utf8ByteSize + 38 :=
    utf8ByteSize_temporaryName hdrawn
  have hne : ∀ other : String, other.utf8ByteSize < 38 → temporaryName drawn name ≠ other := by
    rintro other hother rfl
    omega
  have hshort := hname.short
  exact {
    nonempty := hne "" (by decide)
    slash := not_mem_temporaryName hname.slash (by decide) (by decide)
      fun value hvalue => (digitChar_spec value hvalue).2.1
    nul := not_mem_temporaryName hname.nul (by decide) (by decide)
      fun value hvalue => (digitChar_spec value hvalue).2.2
    dot := hne "." (by decide)
    dots := hne ".." (by decide)
    short := by
      rw [hsize, longestName]
      exact Nat.add_le_add_right hshort 38 }

theorem temporaryName_ne (hdrawn : drawn < 16 ^ 32) : temporaryName drawn name ≠ name := by
  intro hsame
  have hsize : (temporaryName drawn name).utf8ByteSize = name.utf8ByteSize + 38 :=
    utf8ByteSize_temporaryName hdrawn
  rw [hsame] at hsize
  omega

end FileBlobs

/-! ### The directory of a store -/

namespace MemoryBlobs

variable {memory : MemoryBlobs} {name : String}

def Distinct (memory : MemoryBlobs) : Prop := (memory.blobs.map Prod.fst).Nodup

theorem Distinct.erase (h : memory.Distinct) (name : String) : (memory.erase name).Distinct :=
  h.sublist (List.filter_sublist.map _)

theorem Distinct.insert (h : memory.Distinct) (name : String) (bytes : Bytes) :
    (memory.insert name bytes).Distinct :=
  nodup_cons_filter h name bytes

theorem mem_names_iff : name ∈ memory.blobs.map Prod.fst ↔ (memory.get? name).isSome := by
  simp [get?]

/-- What lies below a directory that holds the blobs as its files. -/
def entryAt (memory : MemoryBlobs) : Location → Option Entry
  | [] => some .directory
  | [name] => (memory.get? name).map Entry.file
  | _ :: _ :: _ => none

/-- Where only one blob is another one, so is only its file. -/
theorem entryAt_eq_update {changed : MemoryBlobs}
    (h : ∀ other, other ≠ name → changed.get? other = memory.get? other) :
    changed.entryAt =
      Function.update memory.entryAt [name] ((changed.get? name).map Entry.file) := by
  funext below
  match below with
  | [] => rfl
  | [other] =>
    by_cases hother : other = name
    · rw [hother, Function.update_self, entryAt]
    · rw [Function.update_of_ne (by simpa using hother), entryAt, h other hother, entryAt]
  | _ :: _ :: _ => rw [Function.update_of_ne (by simp), entryAt, entryAt]

theorem entryAt_erase (memory : MemoryBlobs) (name : String) :
    (memory.erase name).entryAt = Function.update memory.entryAt [name] none := by
  rw [entryAt_eq_update fun other hother => get?_erase_of_ne hother memory, get?_erase]
  rfl

theorem entryAt_insert (memory : MemoryBlobs) (name : String) (bytes : Bytes) :
    (memory.insert name bytes).entryAt =
      Function.update memory.entryAt [name] (some (.file bytes)) := by
  rw [entryAt_eq_update fun other hother => get?_insert_of_ne hother memory bytes, get?_insert]
  rfl

end MemoryBlobs

/-- Whether a path leads to a directory that holds the blobs of a store in memory as its files, and
nothing else. -/
structure FileSystem.Holds (files : FileSystem) (path : String) (memory : MemoryBlobs)
    (place : Location) : Prop where
  walk : files.walk [] (parts path) = .ok place
  entries : ∀ below, files.get? (place ++ below) = memory.entryAt below

namespace FileSystem.Holds

variable {files after : FileSystem} {path name : String} {memory changed : MemoryBlobs}
  {place : Location} {entry : Option Entry}

theorem leads (h : files.Holds path memory place) : files.Leads path place := by
  have hdirectory := h.entries []
  rw [List.append_nil] at hdirectory
  exact ⟨h.walk, hdirectory⟩

theorem ne_directory (h : files.Holds path memory place) (name : String) :
    files.get? (place ++ [name]) ≠ some .directory := by
  rw [h.entries, MemoryBlobs.entryAt]
  cases memory.get? name <;> simp

theorem of_update (h : files.Holds path memory place)
    (hafter : after.get? = Function.update files.get? (place ++ [name]) entry)
    (hchanged : changed.entryAt = Function.update memory.entryAt [name] entry) :
    after.Holds path changed place := by
  refine ⟨(h.leads.of_update hafter (h.ne_directory name)).walk, fun below => ?_⟩
  rw [hafter, hchanged]
  by_cases hbelow : below = [name]
  · rw [hbelow, Function.update_self, Function.update_self]
  · rw [Function.update_of_ne (by simpa using hbelow), Function.update_of_ne hbelow, h.entries]

theorem listed (h : files.Holds path memory place) (hfiles : files.Distinct)
    (hmemory : memory.Distinct) :
    ∃ listed, files.list? path = some listed ∧ listed.Perm (memory.blobs.map Prod.fst) := by
  obtain ⟨listed, hlist, hdistinct, hmem⟩ := list?_of_leads h.leads hfiles
  refine ⟨listed, hlist, (List.perm_ext_iff_of_nodup hdistinct hmemory).2 fun name => ?_⟩
  rw [hmem, h.entries, MemoryBlobs.entryAt, Option.isSome_map, MemoryBlobs.mem_names_iff]

end FileSystem.Holds

namespace FileBlobs

section

variable (store : FileBlobs) {memory : MemoryBlobs} {place : Location} {name : String}
  {made : FileSystem} (hroom : HasRoom store.directory)

include hroom

theorem read_of_holds (h : store.files.Holds store.directory memory place)
    (hname : IsName longestName name) : store.read name = .ok (memory.get? name) := by
  unfold read path
  rw [read_join hroom h.leads hname, h.entries, MemoryBlobs.entryAt]
  cases memory.get? name <;> rfl

theorem delete_of_holds (h : store.files.Holds store.directory memory place)
    (hname : IsName longestName name) :
    ∃ files, store.delete name = (.ok (), { store with files }) ∧
      files.Holds store.directory (memory.erase name) place ∧
        (store.files.Distinct → files.Distinct) := by
  have hplace : place ++ [name] ≠ [] := by simp
  have hentry := h.entries [name]
  rw [MemoryBlobs.entryAt] at hentry
  unfold delete path
  rw [remove_join hroom h.leads hname, hentry]
  cases hblob : memory.get? name with
  | none =>
    rw [hblob] at hentry
    refine ⟨store.files, rfl, h.of_update ?_ (memory.entryAt_erase name), id⟩
    exact (Function.update_eq_self_iff.2 hentry.symm).symm
  | some content =>
    refine ⟨_, rfl, h.of_update (get?_erase hplace) (memory.entryAt_erase name), ?_⟩
    exact fun hdistinct => hdistinct.erase _

theorem write_of_holds
    (hmade : store.files.createDirectories store.directory = (.ok (), made))
    (h : made.Holds store.directory memory place) (hname : IsName longestBlobName name)
    (hdrawn : store.writes < 16 ^ 32)
    (hfree : memory.get? (temporaryName store.writes name) = none) (bytes : Bytes) :
    ∃ files, store.write name bytes =
        (.ok (), { store with files, writes := store.writes + 1 }) ∧
      files.Holds store.directory (memory.insert name bytes) place ∧
        (made.Distinct → files.Distinct) := by
  have htemporary := isName_temporaryName hname hdrawn
  have hshort : IsName longestName name := hname.mono (by decide)
  have hblank : made.get? (place ++ [temporaryName store.writes name]) = none := by
    rw [h.entries, MemoryBlobs.entryAt, hfree]
    rfl
  obtain ⟨created, filled, replaced, hcreate, happend, hrename, hreplaced, hdistinct⟩ :=
    replace_join hroom h.leads hshort htemporary (temporaryName_ne hdrawn).symm hblank
      (h.ne_directory name) bytes
  refine ⟨replaced, ?_, h.of_update hreplaced (memory.entryAt_insert name bytes), hdistinct⟩
  simp only [write, writeRefusing, prepare, hmade, fill, publish, temporaryPath_eq, path, hcreate,
    happend, hrename]

variable (hwalk : store.files.walk [] (parts store.directory) = .error .noSuchFile)
  (hname : IsName longestName name)

include hwalk hname

theorem read_of_absent : store.read name = .ok none := by
  unfold read path
  rw [FileSystem.read_of_absent hroom hwalk hname]

theorem delete_of_absent : store.delete name = (.ok (), store) := by
  unfold delete path
  rw [FileSystem.remove_of_absent hroom hwalk hname]

end

end FileBlobs

/-! ### Both stores used alike -/

inductive BlobUse
  | read (name : String)
  | write (name : String) (bytes : Bytes)
  | delete (name : String)
  deriving Repr, DecidableEq

namespace BlobUse

def name : BlobUse → String
  | read name | write name _ | delete name => name

def on {σ : Type} [BlobStore σ] (store : σ) : BlobUse → Outcome × σ
  | read name => (.read (BlobStore.read store name), store)
  | write name bytes =>
    (.changed (BlobStore.write store name bytes).1, (BlobStore.write store name bytes).2)
  | delete name => (.changed (BlobStore.delete store name).1, (BlobStore.delete store name).2)

end BlobUse

/-- A use of two stores, and the digits that a write draws for its temporary name. -/
structure SharedUse where
  use : BlobUse
  drawn : BitVec 128
  deriving Repr, DecidableEq

/-- Whether no blob has the temporary name that was drawn. -/
def SharedUse.DrawsFree (memory : MemoryBlobs) : SharedUse → Prop
  | ⟨.write name _, drawn⟩ => memory.get? (FileBlobs.temporaryName drawn.toNat name) = none
  | ⟨.read _, _⟩ | ⟨.delete _, _⟩ => True

instance (memory : MemoryBlobs) : (shared : SharedUse) → Decidable (shared.DrawsFree memory)
  | ⟨.write name _, drawn⟩ =>
    inferInstanceAs (Decidable (memory.get? (FileBlobs.temporaryName drawn.toNat name) = none))
  | ⟨.read _, _⟩ | ⟨.delete _, _⟩ => inferInstanceAs (Decidable True)

/-- A store in files and a store in memory that are used alike. -/
abbrev Pair := FileBlobs × MemoryBlobs

namespace Pair

/-- The same use of both stores. The number in the temporary name of a write is the one that was
drawn. -/
def use (pair : Pair) (shared : SharedUse) : Step Pair (Outcome × Outcome) :=
  let inFiles := shared.use.on { pair.1 with writes := shared.drawn.toNat }
  let inMemory := shared.use.on pair.2
  ⟨(inFiles.1, inMemory.1), (inFiles.2, inMemory.2), []⟩

def use? (pair : Pair) (shared : SharedUse) : Option (Step Pair (Outcome × Outcome)) :=
  some (use pair shared)

/-- Whether the directory of the store in files is not there, and there is no blob, or it holds the
blobs of the store in memory as its files, each once, and nothing else. -/
inductive Mirrors : Pair → Prop
  | absent {store : FileBlobs} {memory : MemoryBlobs}
      (hwalk : store.files.walk [] (parts store.directory) = .error .noSuchFile)
      (hmemory : ∀ name, memory.get? name = none) : Mirrors (store, memory)
  | present {store : FileBlobs} {memory : MemoryBlobs} {place : Location} {listed : List String}
      (hholds : store.files.Holds store.directory memory place)
      (hlisted : store.names? = some listed)
      (hperm : listed.Perm (memory.blobs.map Prod.fst)) : Mirrors (store, memory)

/-- What the stores have become since the directory of the one was missing. -/
inductive Follows (start : FileSystem) (directory : String) : Pair → Prop
  | unwritten (writes : Nat) : Follows start directory (⟨start, directory, writes⟩, {})
  | written {files : FileSystem} {memory : MemoryBlobs} {place : Location} (writes : Nat)
      (hholds : files.Holds directory memory place) (hfiles : files.Distinct)
      (hmemory : memory.Distinct) : Follows start directory (⟨files, directory, writes⟩, memory)

/-- What a store needs of the files around it before anything was written. -/
structure Vacant (files : FileSystem) (directory : String) : Prop where
  rooted : files.Rooted
  distinct : files.Distinct
  missing : files.Missing directory
  room : HasRoom directory
  granted : (files.createDirectories directory).1 = .ok ()

variable {start : FileSystem} {directory name : String} {store : FileBlobs}
  {memory : MemoryBlobs} {pair : Pair} {shared : SharedUse}

namespace Follows

theorem drawn (h : Follows start directory (store, memory)) (writes : Nat) :
    Follows start directory ({ store with writes }, memory) := by
  cases h with
  | unwritten => exact unwritten writes
  | written _ hholds hfiles hmemory => exact written writes hholds hfiles hmemory

theorem mirrors (h : Follows start directory pair) (hstart : Vacant start directory) :
    Mirrors pair := by
  cases h with
  | unwritten => exact .absent hstart.missing.walk fun _ => rfl
  | written _ hholds hfiles hmemory =>
    obtain ⟨listed, hlist, hperm⟩ := hholds.listed hfiles hmemory
    exact .present hholds hlist hperm

theorem prepared (h : Follows start directory (store, memory)) (hstart : Vacant start directory) :
    ∃ made place, store.files.createDirectories directory = (.ok (), made) ∧
      made.Holds directory memory place ∧ made.Distinct ∧ memory.Distinct := by
  cases h with
  | unwritten =>
    have hmade : start.createDirectories directory =
        (.ok (), (start.createDirectories directory).2) := Prod.ext hstart.granted rfl
    obtain ⟨place, hwalk, hblank⟩ := hstart.missing.blank hstart.rooted hmade
    refine ⟨_, place, hmade, ⟨hwalk, fun below => ?_⟩, hstart.distinct.createDirectories _,
      List.nodup_nil⟩
    match below with
    | [] => rw [List.append_nil, hblank.directory, MemoryBlobs.entryAt]
    | [name] => rw [hblank.empty _ (by simp)]; rfl
    | _ :: _ :: _ => rw [hblank.empty _ (by simp)]; rfl
  | written _ hholds hfiles hmemory =>
    exact ⟨_, _, createDirectories_of_leads hstart.room hholds.leads, hholds, hfiles, hmemory⟩

variable (h : Follows start directory (store, memory)) (hstart : Vacant start directory)

include h hstart

theorem read (hname : IsName longestName name) :
    store.read name = .ok (memory.get? name) := by
  cases h with
  | unwritten => exact FileBlobs.read_of_absent _ hstart.room hstart.missing.walk hname
  | written _ hholds => exact FileBlobs.read_of_holds _ hstart.room hholds hname

theorem delete (hname : IsName longestName name) :
    (store.delete name).1 = .ok () ∧
      Follows start directory ((store.delete name).2, memory.erase name) := by
  cases h with
  | unwritten writes =>
    rw [FileBlobs.delete_of_absent _ hstart.room hstart.missing.walk hname]
    exact ⟨rfl, unwritten writes⟩
  | written writes hholds hfiles hmemory =>
    obtain ⟨files, hdelete, hafter, hdistinct⟩ :=
      FileBlobs.delete_of_holds ⟨_, _, writes⟩ hstart.room hholds hname
    rw [hdelete]
    exact ⟨rfl, written writes hafter (hdistinct hfiles) (hmemory.erase name)⟩

theorem write (hname : IsName FileBlobs.longestBlobName name) (hdrawn : store.writes < 16 ^ 32)
    (hfree : memory.get? (FileBlobs.temporaryName store.writes name) = none) (bytes : Bytes) :
    (store.write name bytes).1 = .ok () ∧
      Follows start directory ((store.write name bytes).2, memory.insert name bytes) := by
  obtain ⟨made, place, hmade, hholds, hfiles, hmemory⟩ := h.prepared hstart
  have hdirectory : store.directory = directory := by
    cases h <;> rfl
  subst hdirectory
  obtain ⟨files, hwrite, hafter, hdistinct⟩ :=
    store.write_of_holds hstart.room hmade hholds hname hdrawn hfree bytes
  rw [hwrite]
  exact ⟨rfl, written _ hafter (hdistinct hfiles) (hmemory.insert name bytes)⟩

end Follows

/-- A use has the same outcome in both stores, and they go on together. -/
theorem Follows.use (h : Follows start directory pair) (hstart : Vacant start directory)
    (hname : IsName FileBlobs.longestBlobName shared.use.name) (hfree : shared.DrawsFree pair.2) :
    (pair.use shared).result.1 = (pair.use shared).result.2 ∧
      Follows start directory (pair.use shared).state := by
  obtain ⟨store, memory⟩ := pair
  obtain ⟨use, drawn⟩ := shared
  have hready := h.drawn drawn.toNat
  have hshort := hname.mono (show FileBlobs.longestBlobName ≤ longestName by decide)
  cases use with
  | read name =>
    refine ⟨congrArg Outcome.read ?_, hready⟩
    exact congrArg (Except.mapError BlobError.system) (hready.read hstart hshort)
  | write name bytes =>
    obtain ⟨hresult, hfollows⟩ := hready.write hstart hname drawn.isLt hfree bytes
    refine ⟨congrArg Outcome.changed ?_, hfollows⟩
    exact congrArg (Except.mapError BlobError.system) hresult
  | delete name =>
    obtain ⟨hresult, hfollows⟩ := hready.delete hstart hshort
    refine ⟨congrArg Outcome.changed ?_, hfollows⟩
    exact congrArg (Except.mapError BlobError.system) hresult

/-- A store that keeps its blobs as files, in the directory of an account whose root is missing,
cannot be told from a store in memory, as long as no temporary name that is drawn is the name of a
blob. After each use, its directory mirrors the store in memory. -/
theorem files_mirror_memory {paths : Paths} {files : FileSystem} {writes : Nat}
    {history : List (Made Pair SharedUse (Outcome × Outcome))} {finish : Pair}
    (hrooted : files.Rooted) (hdistinct : files.Distinct) (hmissing : files.Missing paths.root)
    (hroom : HasRoom paths.directory)
    (hgranted : (files.createDirectories paths.directory).1 = .ok ())
    (run : Run use? (⟨files, paths.directory, writes⟩, {}) history finish)
    (hnames : ∀ made ∈ history, IsName FileBlobs.longestBlobName made.move.use.name)
    (hfree : ∀ made ∈ history, made.move.DrawsFree made.before.2) :
    ∀ made ∈ history, made.step.result.1 = made.step.result.2 ∧ Mirrors made.after := by
  have hdirectory : IsName longestName "fxaccounts" := by
    constructor <;> decide
  have hstart : Vacant files paths.directory :=
    ⟨hrooted, hdistinct, hmissing.join hdirectory, hroom, hgranted⟩
  intro made hmade
  obtain ⟨past, rest, rfl⟩ := List.append_of_mem hmade
  obtain ⟨hpast, hstep, -⟩ := run.cut
  have hbefore : Follows files paths.directory made.before := by
    refine hpast.kept (.unwritten writes) fun other hother hmoved hfollows => ?_
    have hmem : other ∈ past ++ made :: rest := List.mem_append_left _ hother
    rw [Made.after, ← Option.some.inj hmoved]
    exact (hfollows.use hstart (hnames other hmem) (hfree other hmem)).2
  obtain ⟨hsame, hafter⟩ := hbefore.use hstart (hnames made hmade) (hfree made hmade)
  rw [Made.after, ← Option.some.inj hstep]
  exact ⟨hsame, hafter.mirrors hstart⟩

/-- A blob is written over while another of a similar name comes and goes, below a directory that
has a file in it. -/
theorem blobs_come_and_go :
    ∃ past made finish,
      Run use? (⟨⟨[(["srv"], .directory), (["srv", "notes"], .file [9])]⟩,
        Paths.directory ⟨"/srv/./profile"⟩, 0⟩, {}) (past ++ [made]) finish ∧
      (∀ other ∈ past ++ [made], IsName FileBlobs.longestBlobName other.move.use.name) ∧
      (∀ other ∈ past ++ [made], other.move.DrawsFree other.before.2) ∧
      made.step.result.1 = .read (.ok (some [2, 3])) ∧ Mirrors made.after := by
  obtain ⟨finish, run⟩ := run_played use? (⟨⟨[(["srv"], .directory),
    (["srv", "notes"], .file [9])]⟩, Paths.directory ⟨"/srv/./profile"⟩, 0⟩, {}) [
    ⟨.delete "user.json", 0⟩,
    ⟨.read "user.json", 0⟩,
    ⟨.write "user.json" [1], 7⟩,
    ⟨.write ".user.json" [], 7⟩,
    ⟨.write "user.json" [2, 3], 8⟩,
    ⟨.delete ".user.json", 0⟩,
    ⟨.read "user.json", 0⟩]
  refine (fun hnames hfree => ⟨[_, _, _, _, _, _], _, finish, run, hnames, hfree, ?_⟩)
    (by decide +kernel) (by decide +kernel)
  have hall := files_mirror_memory (by decide) (by decide)
    ⟨["srv", "."], ["profile"], ["srv"], by decide, by decide, by decide, by decide, by decide⟩
    ⟨by decide, by decide⟩ (by decide) run hnames hfree
  exact ⟨(hall _ (List.mem_of_getLast? rfl)).1.trans rfl, (hall _ (List.mem_of_getLast? rfl)).2⟩

end Pair

end AccountManager.Storage
