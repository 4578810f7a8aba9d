import AccountManager.Url.Parse

/-!
# Addresses relative to others

A reference gives the end of an address: a fragment, a query, a path that goes on from the last
separator, a path from the root, or all but the scheme. What comes before is taken from a base.
-/

namespace AccountManager.Url

/-- The same address with another path; neither query nor fragment are read from the text. -/
def setPath (url : Url) (text : List Char) : Url :=
  match url.path with
  | .flat _ => { url with path := .flat (escape isControl (dropBreaks text)) }
  | .segments _ => { url with path := readPath url.kind (dropBreaks text) }

/-- The address that ends in a path, which is added to some segments, and what follows the path. -/
def extend (base : Url) (before : List Segment) (text : List Char) : Url :=
  let (path, tail) := splitPath text
  let (query, fragment) := readTail base.kind tail
  let segments := addSegments before (splitSegments base.kind path)
  { base with path := .segments segments, query, fragment }

/-- The address that a reference without a scheme gives, after the segments of the base. -/
def ofReference (base : Url) (segments : List Segment) (text : List Char) :
    Except ParseError Url :=
  match text with
  | [] => .ok { base with fragment := none }
  | '#' :: fragment => .ok { base with fragment := some (escape inFragment fragment) }
  | '?' :: _ =>
    let (query, fragment) := readTail base.kind text
    .ok { base with query, fragment }
  | first :: rest =>
    if isSeparator base.kind first then
      if (rest.head?.map (isSeparator base.kind)).getD false then
        let isSkipped := if base.kind = .plain then fun _ => false else isSeparator base.kind
        ofAuthority base.scheme ((rest.drop 1).dropWhile isSkipped)
      else .ok (base.extend [] rest)
    else .ok (base.extend segments.dropLast text)

/-- The address that a reference gives on a base. -/
def join (base : Url) (reference : String) : Except ParseError Url :=
  let text := prepare reference.toList
  match splitScheme? text, base.path with
  | some (scheme, rest), .segments segments =>
    let separators := rest.takeWhile (isSeparator .special)
    if Kind.of scheme = .special ∧ scheme = base.scheme ∧ separators.length < 2 then
      base.ofReference segments rest
    else ofScheme scheme rest
  | some (scheme, rest), .flat _ => ofScheme scheme rest
  | none, path =>
    match text, path with
    | '#' :: fragment, _ => .ok { base with fragment := some (escape inFragment fragment) }
    | _, .flat _ => .error .relativeToOpaquePath
    | _, .segments segments => base.ofReference segments text

end AccountManager.Url
