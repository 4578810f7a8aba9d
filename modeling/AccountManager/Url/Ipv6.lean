import AccountManager.Text.Split
import AccountManager.Url.Ipv4

/-!
# IPv6 addresses

An address is eight groups of hexadecimal digits between colons. Two colons stand for one or more
groups of zero, once, and the last two groups may be written as four bytes between dots. Written
out, the longest run of two or more zero groups is left out.
-/

namespace AccountManager.Url

structure Ipv6 where
  groups : List Nat
  deriving Repr, DecidableEq

namespace Ipv6

/-! ### Reading -/

/-- The value of a group: one to four hexadecimal digits. -/
def group? (text : List Char) : Option Nat :=
  if 1 ≤ text.length ∧ text.length ≤ 4 then Ipv4.digitsValue? 16 text else none

/-- The value of a byte: decimal, without a zero in front. -/
def byte? (text : List Char) : Option Nat :=
  if text = [] ∨ (text.head? = some '0' ∧ text ≠ ['0']) then none
  else (Ipv4.digitsValue? 10 text).filter (· < 256)

def byteGroups? (text : List Char) : Option (List Nat) :=
  match (Text.split '.' text).mapM byte? with
  | some [first, second, third, fourth] => some [first * 256 + second, third * 256 + fourth]
  | _ => none

/-- The groups of some parts; only the last part may be written as bytes. -/
def groupsOf? : List (List Char) → Option (List Nat)
  | [] => some []
  | [last] => if last.contains '.' then byteGroups? last else (group? last).map fun group => [group]
  | part :: parts => do some ((← group? part) :: (← groupsOf? parts))

/-- The groups written on one side of the gap. -/
def side? (text : List Char) : Option (List Nat) :=
  if text = [] then some [] else groupsOf? (Text.split ':' text)

/-- What stands before and after the first two colons in a row. -/
def splitGap? : List Char → Option (List Char × List Char)
  | [] => none
  | ':' :: ':' :: rest => some ([], rest)
  | first :: rest => (splitGap? rest).map fun (before, after) => (first :: before, after)

def read? (text : List Char) : Option Ipv6 := do
  match splitGap? text with
  | none =>
    let groups ← side? text
    if groups.length = 8 then some ⟨groups⟩ else none
  | some (before, after) =>
    if before.contains '.' then none
    else
      let high ← side? before
      let low ← side? after
      let known := high.length + low.length
      if known < 8 then some ⟨high ++ List.replicate (8 - known) 0 ++ low⟩ else none

def read (text : List Char) : Except ParseError Ipv6 :=
  match read? text with
  | some address => .ok address
  | none => .error .invalidIpv6Address

/-! ### Writing -/

def zeros (groups : List Nat) : Nat := (groups.takeWhile (· = 0)).length

/-- The longest run of zero groups, the first of several: how many groups come before it, and its
length. -/
def longestZeros : List Nat → Nat × Nat
  | [] => (0, 0)
  | group :: groups =>
    let here := zeros (group :: groups)
    let (before, length) := longestZeros groups
    if length ≤ here then (0, here) else (before + 1, length)

def writeGroups (groups : List Nat) : List Char := [':'].intercalate (groups.map (Nat.toDigits 16))

def write (address : Ipv6) : List Char :=
  let (before, length) := longestZeros address.groups
  if length < 2 then writeGroups address.groups
  else
    writeGroups (address.groups.take before) ++ [':', ':'] ++
      writeGroups (address.groups.drop (before + length))

end Ipv6

end AccountManager.Url
