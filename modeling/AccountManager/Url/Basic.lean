import AccountManager.Url.Host

/-!
# Addresses

An address in its parts, each as it is written: escaped, with the scheme in lower case and without
the port that its scheme uses anyway.
-/

namespace AccountManager

namespace Url

/-- Schemes differ in whether a host is required and whether a backslash separates segments. -/
inductive Kind
  | special
  | file
  | plain
  deriving Repr, DecidableEq

def Kind.of (scheme : List Char) : Kind :=
  if ["http".toList, "https".toList, "ws".toList, "wss".toList, "ftp".toList].contains scheme then
    .special
  else if scheme = "file".toList then .file
  else .plain

/-- The port that a scheme uses when none is given. -/
def defaultPort? (scheme : List Char) : Option Nat :=
  if scheme = "http".toList ∨ scheme = "ws".toList then some 80
  else if scheme = "https".toList ∨ scheme = "wss".toList then some 443
  else if scheme = "ftp".toList then some 21
  else none

abbrev Segment := List Char

/-- A path is a run of segments, or one text that is not taken apart. -/
inductive Path
  | flat (text : List Char)
  | segments (parts : List Segment)
  deriving Repr, DecidableEq

def Path.write : Path → List Char
  | .flat text => text
  | .segments parts => parts.flatMap ('/' :: ·)

/-- Who asks whom: name and password may be empty, and so may the host of some schemes. -/
structure Authority where
  username : List Char := []
  password : List Char := []
  host : Host
  port : Option Nat := none
  deriving Repr, DecidableEq

namespace Authority

/-- Name and password, with the sign that ends them. -/
def writeUserInfo (authority : Authority) : List Char :=
  if authority.username = [] ∧ authority.password = [] then []
  else if authority.password = [] then authority.username ++ ['@']
  else authority.username ++ ':' :: authority.password ++ ['@']

def writeHost (authority : Authority) : List Char :=
  match authority.port with
  | none => authority.host.write
  | some port => authority.host.write ++ ':' :: Nat.toDigits 10 port

def write (authority : Authority) : List Char := authority.writeUserInfo ++ authority.writeHost

end Authority

end Url

structure Url where
  scheme : List Char
  authority : Option Url.Authority
  path : Url.Path
  query : Option (List Char) := none
  fragment : Option (List Char) := none
  deriving Repr, DecidableEq

namespace Url

def kind (url : Url) : Kind := .of url.scheme

/-- A part that may be missing, after its mark. -/
def writeAfter (mark : Char) : Option (List Char) → List Char
  | none => []
  | some text => mark :: text

def writeTarget (url : Url) : List Char := url.path.write ++ writeAfter '?' url.query

/-- What keeps a path that begins with an empty segment from being read as an authority. -/
def pathGuard (url : Url) : List Char :=
  match url.authority, url.path with
  | none, .segments ([] :: _ :: _) => ['/', '.']
  | _, _ => []

def write (url : Url) : String :=
  let authority := (url.authority.map fun authority => '/' :: '/' :: authority.write).getD []
  String.ofList (url.scheme ++ ':' :: authority ++ url.pathGuard ++ url.writeTarget ++
    writeAfter '#' url.fragment)

end Url

end AccountManager
