import AccountManager.Storage.Error
import AccountManager.Text.Split

/-!
# A file system

Directories and files under a root, addressed by texts with slashes, and the calls that a store
makes on them. A call either changes one thing or is refused and changes nothing.
-/

namespace AccountManager.Storage

/-- The names from the root down to a file or directory. -/
abbrev Location := List String

inductive Entry
  | directory
  | file (content : Bytes)
  deriving Repr, DecidableEq

/-- Everything below the root, which itself is a directory; no location twice. -/
structure FileSystem where
  entries : List (Location × Entry) := []
  deriving Repr, DecidableEq

namespace FileSystem

def get? (files : FileSystem) : Location → Option Entry
  | [] => some .directory
  | place => (files.entries.find? fun entry => entry.1 = place).map Prod.snd

def erase (files : FileSystem) (place : Location) : FileSystem :=
  ⟨files.entries.filter fun entry => entry.1 ≠ place⟩

def insert (files : FileSystem) (place : Location) (entry : Entry) : FileSystem :=
  ⟨(place, entry) :: (files.erase place).entries⟩

/-! ### Finding the way -/

/-- The longest name, in bytes. -/
def longestName : Nat := 255

/-- The longest path, in bytes. -/
def longestPath : Nat := 4095

/-- The names in a path: what stands between its slashes. -/
def parts (path : String) : List String :=
  ((Text.split '/' path.toList).filter fun part => !part.isEmpty).map String.ofList

def endsInSlash (path : String) : Bool := path.toList.getLast? = some '/'

def checkPath (path : String) : Except SystemError Unit :=
  if path.toList.contains '\x00' then .error .badName
  else if longestPath < path.utf8ByteSize then .error .nameTooLong
  else .ok ()

/-- Goes down from a directory along some names; each step leaves a directory. -/
def walk (files : FileSystem) (place : Location) : List String → Except SystemError Location
  | [] => .ok place
  | name :: rest =>
    match files.get? place with
    | none => .error .noSuchFile
    | some (.file _) => .error .notDirectory
    | some .directory =>
      if name = "." then walk files place rest
      else if name = ".." then walk files place.dropLast rest
      else if longestName < name.utf8ByteSize then .error .nameTooLong
      else
        let next := place ++ [name]
        if (files.get? next).isSome then walk files next rest else .error .noSuchFile

/-- A path up to its last name: the directory the name lies in, the name unless it is a dot or two,
and whether a slash follows it. -/
structure Target where
  directory : Location
  name : Option String
  slash : Bool
  deriving Repr, DecidableEq

def Target.place? (target : Target) : Option Location :=
  target.name.map fun name => target.directory ++ [name]

def target (files : FileSystem) (path : String) : Except SystemError Target := do
  checkPath path
  let names := parts path
  let directory ← files.walk [] names.dropLast
  match files.get? directory with
  | none => .error .noSuchFile
  | some (.file _) => .error .notDirectory
  | some .directory =>
    let slash := endsInSlash path
    match names.getLast? with
    | none => .ok ⟨directory, none, slash⟩
    | some name =>
      if name = "." ∨ name = ".." then .ok ⟨directory, none, slash⟩
      else if longestName < name.utf8ByteSize then .error .nameTooLong
      else .ok ⟨directory, some name, slash⟩

/-! ### Calls -/

def read (files : FileSystem) (path : String) : Except SystemError Bytes := do
  checkPath path
  let place ← files.walk [] (parts path)
  match files.get? place with
  | none => .error .noSuchFile
  | some .directory => .error .isDirectory
  | some (.file content) => if endsInSlash path then .error .notDirectory else .ok content

/-- Opens a file for writing: it is empty afterwards. -/
def create (files : FileSystem) (path : String) : Except SystemError FileSystem := do
  let target ← files.target path
  match target.place? with
  | none => .error .isDirectory
  | some place =>
    if target.slash then .error .isDirectory
    else
      match files.get? place with
      | some .directory => .error .isDirectory
      | _ => .ok (files.insert place (.file []))

def append (files : FileSystem) (path : String) (bytes : Bytes) :
    Except SystemError FileSystem := do
  let target ← files.target path
  match target.place? with
  | none => .error .isDirectory
  | some place =>
    match files.get? place with
    | some (.file content) => .ok (files.insert place (.file (content ++ bytes)))
    | some .directory => .error .isDirectory
    | none => .error .noSuchFile

/-- Gives a file another name, in place of the file that had it. -/
def rename (files : FileSystem) (source destination : String) :
    Except SystemError FileSystem := do
  let old ← files.target source
  let new ← files.target destination
  match old.place?, new.place? with
  | some oldPlace, some newPlace =>
    match files.get? oldPlace with
    | none => .error .noSuchFile
    | some .directory => .error .isDirectory
    | some (.file content) =>
      if old.slash || new.slash then .error .notDirectory
      else
        match files.get? newPlace with
        | some .directory => .error .isDirectory
        | _ => .ok ((files.erase oldPlace).insert newPlace (.file content))
  | _, _ => .error .busy

def remove (files : FileSystem) (path : String) : Except SystemError FileSystem := do
  let target ← files.target path
  match target.place? with
  | none => .error .isDirectory
  | some place =>
    match files.get? place with
    | none => .error .noSuchFile
    | some .directory => .error .isDirectory
    | some (.file _) => if target.slash then .error .notDirectory else .ok (files.erase place)

/-- Creates the directories along some names that are not there yet. -/
def createAlong (files : FileSystem) (place : Location) :
    List String → Except SystemError Unit × FileSystem
  | [] => (.ok (), files)
  | name :: rest =>
    if name = "." then createAlong files place rest
    else if name = ".." then createAlong files place.dropLast rest
    else if longestName < name.utf8ByteSize then (.error .nameTooLong, files)
    else
      let next := place ++ [name]
      match files.get? next with
      | some .directory => createAlong files next rest
      | some (.file _) =>
        (.error (if rest.isEmpty then .fileExists else .notDirectory), files)
      | none => createAlong (files.insert next .directory) next rest

/-- Creates a directory and those it lies in, as far as they are not there yet. -/
def createDirectories (files : FileSystem) (path : String) :
    Except SystemError Unit × FileSystem :=
  match checkPath path with
  | .error error => (.error error, files)
  | .ok () => files.createAlong [] (parts path)

/-- The names in a directory in ascending order, if the path leads to one. -/
def list? (files : FileSystem) (path : String) : Option (List String) :=
  match files.walk [] (parts path) with
  | .error _ => none
  | .ok place =>
    match files.get? place with
    | some .directory =>
      let inside := files.entries.filterMap fun (other, _) =>
        if other.dropLast = place then other.getLast? else none
      some (inside.mergeSort (· ≤ ·))
    | _ => none

end FileSystem

end AccountManager.Storage
