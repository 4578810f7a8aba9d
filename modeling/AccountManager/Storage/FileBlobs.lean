import AccountManager.Storage.Blobs
import AccountManager.Storage.FileSystem
import AccountManager.Storage.Paths

/-!
# Blobs as files

One file per blob inside one directory, which is created by the first write. A write fills a file of
another name and then gives it the name of the blob, so that whoever reads the blob meets the old
content or the new one.
-/

namespace AccountManager.Storage

/-- The calls that make up a write, in their order. -/
inductive Stage
  | prepare
  | create
  | fill
  | sync
  | publish
  deriving Repr, DecidableEq

/-- A call that the system refuses although nothing speaks against it, and how far it got: how many
names of the directory were gone through, or how many bytes reached the file. -/
structure Refusal where
  error : SystemError
  reached : Nat := 0
  deriving Repr, DecidableEq

abbrev Refusals := Stage → Option Refusal

/-- The directory of a store, and how many writes were begun in it. -/
structure FileBlobs where
  files : FileSystem := {}
  directory : String
  writes : Nat := 0
  deriving Repr, DecidableEq

namespace FileBlobs

def path (store : FileBlobs) (name : String) : String := Paths.join store.directory name

/-- Thirty-two digits that no other write of the store uses. -/
def ticket (writes : Nat) : String :=
  let digits := Nat.toDigits 16 writes
  String.ofList (List.replicate (32 - digits.length) '0' ++ digits)

/-- The path of the file that a write fills first. -/
def temporaryPath (store : FileBlobs) (name : String) : String :=
  store.path ("." ++ name ++ "." ++ ticket store.writes ++ ".tmp")

/-- What came of a write: its result, and the file system after every call it made. -/
structure Written where
  result : Except SystemError Unit
  states : List FileSystem
  final : FileSystem

def abandon (temporary : String) (error : SystemError) (states : List FileSystem)
    (files : FileSystem) : Written :=
  match files.remove temporary with
  | .ok removed => ⟨.error error, states ++ [removed], removed⟩
  | .error _ => ⟨.error error, states, files⟩

/-- Gives the finished file the name of the blob. -/
def publish (refusals : Refusals) (temporary path : String) (states : List FileSystem)
    (files : FileSystem) : Written :=
  match refusals .publish with
  | some refusal => abandon temporary refusal.error states files
  | none =>
    match files.rename temporary path with
    | .error error => abandon temporary error states files
    | .ok published => ⟨.ok (), states ++ [published], published⟩

/-- Fills the file and waits until it is safe. -/
def fill (refusals : Refusals) (temporary path : String) (bytes : Bytes)
    (states : List FileSystem) (files : FileSystem) : Written :=
  let reaching :=
    match refusals .fill with
    | some refusal => bytes.take refusal.reached
    | none => bytes
  match files.append temporary reaching with
  | .error error => abandon temporary error states files
  | .ok filled =>
    let states := states ++ [filled]
    match refusals .fill, refusals .sync with
    | some refusal, _ => abandon temporary refusal.error states filled
    | none, some refusal => abandon temporary refusal.error states filled
    | none, none => publish refusals temporary path states filled

/-- Creates the directory of the store, or a part of the way to it. -/
def prepare (refusals : Refusals) (store : FileBlobs) : Except SystemError Unit × FileSystem :=
  match refusals .prepare with
  | none => store.files.createDirectories store.directory
  | some refusal =>
    match FileSystem.checkPath store.directory with
    | .error error => (.error error, store.files)
    | .ok () =>
      let names := (FileSystem.parts store.directory).take refusal.reached
      let (created, files) := store.files.createAlong [] names
      (created.bind fun () => .error refusal.error, files)

/-- Writes a blob while the system refuses some of the calls. -/
def writeRefusing (refusals : Refusals) (store : FileBlobs) (name : String) (bytes : Bytes) :
    Written :=
  match store.prepare refusals with
  | (.error error, files) => ⟨.error error, [files], files⟩
  | (.ok (), files) =>
    let temporary := store.temporaryPath name
    match refusals .create with
    | some refusal => abandon temporary refusal.error [files] files
    | none =>
      match files.create temporary with
      | .error error => abandon temporary error [files] files
      | .ok created => fill refusals temporary (store.path name) bytes [files, created] created

def write (store : FileBlobs) (name : String) (bytes : Bytes) :
    Except SystemError Unit × FileBlobs :=
  let written := store.writeRefusing (fun _ => none) name bytes
  (written.result, { store with files := written.final, writes := store.writes + 1 })

/-- The content of a blob; a name that leads nowhere has none. -/
def read (store : FileBlobs) (name : String) : Except SystemError (Option Bytes) :=
  match store.files.read (store.path name) with
  | .ok content => .ok (some content)
  | .error .noSuchFile => .ok none
  | .error error => .error error

/-- Removes a blob; a name that leads nowhere needs no removing. -/
def delete (store : FileBlobs) (name : String) : Except SystemError Unit × FileBlobs :=
  match store.files.remove (store.path name) with
  | .ok files => (.ok (), { store with files })
  | .error .noSuchFile => (.ok (), store)
  | .error error => (.error error, store)

instance : BlobStore FileBlobs where
  read store name := (store.read name).mapError .system
  write store name bytes :=
    let (result, store) := store.write name bytes
    (result.mapError .system, store)
  delete store name :=
    let (result, store) := store.delete name
    (result.mapError .system, store)

/-- The names in the directory, if there is one. -/
def names? (store : FileBlobs) : Option (List String) := store.files.list? store.directory

end FileBlobs

end AccountManager.Storage
