import AccountManager.Url.Domain
import AccountManager.Url.Escape
import AccountManager.Url.Ipv6

/-!
# Hosts

The host of an address is a name or a number. In addresses of the usual schemes a name is a domain;
in others it is any text that would not end the host.
-/

namespace AccountManager.Url

inductive Host
  | name (text : List Char)
  | ipv4 (address : Ipv4)
  | ipv6 (address : Ipv6)
  deriving Repr, DecidableEq

namespace Host

def write : Host → List Char
  | .name text => text
  | .ipv4 address => address.write
  | .ipv6 address => '[' :: address.write ++ [']']

/-- The text between brackets; a bracket that is not closed holds no address. -/
def readBracketed (text : List Char) : Except ParseError Host :=
  if text.getLast? = some ']' then (Ipv6.read text.dropLast).map .ipv6
  else .error .invalidIpv6Address

/-- The host of an address with one of the usual schemes. -/
def readDomain (text : List Char) : Except ParseError Host :=
  match text with
  | '[' :: rest => readBracketed rest
  | _ =>
    let decoded := Utf8.decode? (unescape (Utf8.encode (String.ofList text)))
    match decoded.bind (Domain.toAscii? ·.toList) with
    | none => .error .invalidDomainName
    | some [] => .error .emptyHost
    | some domain =>
      if Ipv4.isMeant domain then (Ipv4.read domain).map .ipv4 else .ok (.name domain)

def isForbidden (character : Char) : Bool :=
  "\x00\t\n\r #/:<>?@[\\]^|".toList.contains character

/-- The host of an address with another scheme. -/
def readPlain (text : List Char) : Except ParseError Host :=
  match text with
  | '[' :: rest => readBracketed rest
  | _ =>
    if text.any isForbidden then .error .invalidDomainCharacter
    else .ok (.name (escape isControl text))

end Host

end AccountManager.Url
