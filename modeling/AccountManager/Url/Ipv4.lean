import AccountManager.Text.Split
import AccountManager.Url.Error

/-!
# IPv4 addresses

An address is up to four numbers, of which the last fills all bytes that are left. Each may be
decimal, octal after `0` or hexadecimal after `0x`.
-/

namespace AccountManager.Url

structure Ipv4 where
  value : Nat
  deriving Repr, DecidableEq

namespace Ipv4

def write (address : Ipv4) : List Char :=
  let byte (place : Nat) : List Char := Nat.toDigits 10 (address.value / Nat.pow 256 place % 256)
  ['.'].intercalate [byte 3, byte 2, byte 1, byte 0]

/-! ### Reading -/

def digit? (base : Nat) (character : Char) : Option Nat :=
  let code := character.toNat
  let value :=
    if 48 ≤ code ∧ code ≤ 57 then code - 48
    else if 97 ≤ code ∧ code ≤ 102 then code - 87
    else if 65 ≤ code ∧ code ≤ 70 then code - 55
    else base
  if value < base then some value else none

/-- The value of some digits; none at all stand for zero. -/
def digitsValue? (base : Nat) (digits : List Char) : Option Nat :=
  digits.foldlM (fun value character => (digit? base character).map (value * base + ·)) 0

/-- The value of a number in any of the three bases. -/
def number? : List Char → Option Nat
  | [] => none
  | ['0'] => some 0
  | '0' :: 'x' :: digits => digitsValue? 16 digits
  | '0' :: 'X' :: digits => digitsValue? 16 digits
  | '0' :: digits => digitsValue? 8 digits
  | digits => digitsValue? 10 digits

/-- The parts between dots; one dot at the end does not count. -/
def parts (text : List Char) : List (List Char) :=
  let parts := Text.split '.' text
  if 1 < parts.length ∧ parts.getLast? = some [] then parts.dropLast else parts

/-- Whether a host is meant as an address: its last part is a number, if only of decimal digits. -/
def isMeant (text : List Char) : Bool :=
  match (parts text).getLast? with
  | none => false
  | some last => (!last.isEmpty && last.all Char.isDigit) || (number? last).isSome

/-- The address with these numbers, all but the last of which are bytes. -/
def ofNumbers? (numbers : List Nat) : Option Ipv4 :=
  match numbers.getLast? with
  | none => none
  | some last =>
    let bytes := numbers.dropLast
    let room := Nat.pow 256 (4 - bytes.length)
    if bytes.length < 4 ∧ bytes.all (· < 256) ∧ last < room then
      some ⟨bytes.foldl (fun value byte => value * 256 + byte) 0 * room + last⟩
    else none

def read (text : List Char) : Except ParseError Ipv4 :=
  match ((parts text).mapM number?).bind ofNumbers? with
  | some address => .ok address
  | none => .error .invalidIpv4Address

end Ipv4

end AccountManager.Url
