import AccountManager.Url.Path

/-!
# Reading addresses

What surrounds an address and line ends inside it are left out. Then come the scheme, the authority,
the path, the query and the fragment, each up to the mark that begins the next.
-/

namespace AccountManager.Url

def dropBreaks (text : List Char) : List Char :=
  text.filter fun character => !(['\t', '\n', '\r'].contains character)

/-- A text without what surrounds it, and without tabs and line ends. -/
def prepare (text : List Char) : List Char :=
  let isBlank (character : Char) : Bool := character.toNat ≤ 0x20
  dropBreaks ((text.dropWhile isBlank).reverse.dropWhile isBlank).reverse

def isSchemeCharacter (character : Char) : Bool :=
  character.isAlphanum || ['+', '-', '.'].contains character

/-- The scheme, in lower case, and what follows its colon. -/
def splitScheme? (text : List Char) : Option (List Char × List Char) :=
  match Text.splitFirst? ':' text with
  | some (scheme, rest) =>
    if (scheme.head?.map Char.isAlpha).getD false && scheme.all isSchemeCharacter then
      some (Domain.lower scheme, rest)
    else none
  | none => none

/-! ### Authority -/

/-- Name and password, before the last sign that could end them. -/
def readUserInfo (text : List Char) : List Char × List Char :=
  match Text.splitFirst? ':' text with
  | none => (escape inUserInfo text, [])
  | some (username, password) => (escape inUserInfo username, escape inUserInfo password)

/-- A host, up to the first colon outside brackets, and what follows. -/
def splitHost (inBrackets : Bool) : List Char → List Char × List Char
  | [] => ([], [])
  | first :: rest =>
    if first = ':' && !inBrackets then ([], first :: rest)
    else
      let (host, after) := splitHost (first = '[' || (inBrackets && first ≠ ']')) rest
      (first :: host, after)

/-- The port that some digits give; none at all, or the usual ones, give none. -/
def readPort (scheme : List Char) (digits : List Char) : Except ParseError (Option Nat) :=
  match Ipv4.digitsValue? 10 digits with
  | none => .error .invalidPort
  | some port =>
    if 65535 < port then .error .invalidPort
    else .ok (if digits = [] ∨ some port = defaultPort? scheme then none else some port)

def endsAuthority (kind : Kind) (character : Char) : Bool :=
  isSeparator kind character || character = '?' || character = '#'

def readHost (kind : Kind) (text : List Char) : Except ParseError Host :=
  match kind with
  | .plain => Host.readPlain text
  | _ => if text = [] then .error .emptyHost else Host.readDomain text

/-- Host and port, after a name and a password. A plain address may go without a host, unless
something belongs to it; a backslash ends its port, and the rest is left over. -/
def readHostAndPort (scheme : List Char) (user : List Char × List Char) (text : List Char) :
    Except ParseError (Authority × List Char) := do
  let (hostText, after) := splitHost false text
  let host ← readHost (.of scheme) hostText
  let (username, password) := user
  match after with
  | [] =>
    if host = .name [] ∧ user ≠ ([], []) then .error .emptyHost
    else .ok ({ username, password, host }, [])
  | _ :: portText =>
    if host = .name [] then .error .emptyHost
    else
      let (digits, left) := portText.span (· ≠ '\\')
      let port ← readPort scheme digits
      .ok ({ username, password, host, port }, left)

/-- The authority that a text begins with, and what follows it. -/
def readAuthority (scheme : List Char) (text : List Char) :
    Except ParseError (Authority × List Char) := do
  let (whole, after) := text.span (!endsAuthority (.of scheme) ·)
  let (authority, left) ←
    match Text.splitLast? '@' whole with
    | none => readHostAndPort scheme ([], []) whole
    | some ([], address) =>
      if address = [] ∧ after ≠ [] then .error .emptyHost
      else readHostAndPort scheme ([], []) address
    | some (user, address) => readHostAndPort scheme (readUserInfo user) address
  .ok (authority, left ++ after)

/-- The host of a `file` address, and what follows it. A drive is no host but a part of the path,
and the own machine is not named. -/
def readFileHost (text : List Char) : Except ParseError (Host × List Char) :=
  let (whole, after) := text.span (!endsAuthority .file ·)
  match whole with
  | [] => .ok (.name [], after)
  | [drive, mark] =>
    if drive.isAlpha ∧ (mark = ':' ∨ mark = '|') then .ok (.name [], text)
    else (Host.readDomain whole).map (·, after)
  | _ => do
    let host ← Host.readDomain whole
    .ok (if host = .name "localhost".toList then .name [] else host, after)

/-! ### Path, query and fragment -/

/-- The path, up to the query or the fragment, and what follows it. -/
def splitPath (text : List Char) : List Char × List Char :=
  text.span fun character => !(character = '?' || character = '#')

/-- The query and the fragment that a text begins with. -/
def readTail (kind : Kind) (text : List Char) : Option (List Char) × Option (List Char) :=
  let inThisQuery := if kind = .plain then inQuery else inSpecialQuery
  let (before, fragment) :=
    match Text.splitFirst? '#' text with
    | none => (text, none)
    | some (before, fragment) => (before, some (escape inFragment fragment))
  match before with
  | '?' :: query => (some (escape inThisQuery query), fragment)
  | _ => (none, fragment)

/-- The address whose path is at the beginning of a text. -/
def ofPath (scheme : List Char) (authority : Option Authority) (text : List Char) : Url :=
  let (path, tail) := splitPath text
  let (query, fragment) := readTail (.of scheme) tail
  { scheme, authority, path := readPath (.of scheme) path, query, fragment }

/-! ### Addresses -/

def ofAuthority (scheme : List Char) (text : List Char) : Except ParseError Url := do
  let (authority, rest) ← readAuthority scheme text
  .ok (ofPath scheme (some authority) rest)

def readSpecial (scheme : List Char) (text : List Char) : Except ParseError Url :=
  ofAuthority scheme (text.dropWhile (isSeparator .special))

def readFile (scheme : List Char) (text : List Char) : Except ParseError Url :=
  match text with
  | first :: second :: rest =>
    if isSeparator .file first && isSeparator .file second then do
      let (host, after) ← readFileHost rest
      .ok (ofPath scheme (some { host }) after)
    else .ok (ofPath scheme (some { host := .name [] }) text)
  | _ => .ok (ofPath scheme (some { host := .name [] }) text)

/-- An address of another scheme: with an authority, with a path from the root, or with a text that
is not taken apart. -/
def readPlain (scheme : List Char) (text : List Char) : Except ParseError Url :=
  match text with
  | '/' :: '/' :: rest => ofAuthority scheme rest
  | '/' :: _ => .ok (ofPath scheme none text)
  | _ =>
    let (path, tail) := splitPath text
    let (query, fragment) := readTail .plain tail
    .ok { scheme, authority := none, path := .flat (escape isControl path), query, fragment }

/-- The address of a scheme and what follows it. -/
def ofScheme (scheme : List Char) (rest : List Char) : Except ParseError Url :=
  match Kind.of scheme with
  | .special => readSpecial scheme rest
  | .file => readFile scheme rest
  | .plain => readPlain scheme rest

def parse (text : String) : Except ParseError Url :=
  match splitScheme? (prepare text.toList) with
  | some (scheme, rest) => ofScheme scheme rest
  | none => .error .relativeWithoutBase

end AccountManager.Url
