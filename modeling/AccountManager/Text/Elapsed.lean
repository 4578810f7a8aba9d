/-!
# Spans of time

A span is a number of nanoseconds. It is shown in the largest unit that makes its whole part
positive, with as many decimals as it needs.
-/

namespace AccountManager

/-- A span of time in nanoseconds. -/
structure Elapsed where
  nanoseconds : Nat
  deriving Repr, DecidableEq

namespace Elapsed

def ofMilliseconds (milliseconds : Nat) : Elapsed := ⟨milliseconds * 1000000⟩

/-- The decimals of `part` out of `10 ^ digits`, without closing zeros. -/
def decimals (part : Nat) : Nat → String
  | 0 => ""
  | digits + 1 =>
    if part = 0 then ""
    else
      let unit := Nat.pow 10 digits
      toString (part / unit) ++ decimals (part % unit) digits

/-- A count of a unit of `10 ^ digits` nanoseconds. -/
def inUnit (nanoseconds digits : Nat) (unit : String) : String :=
  let part := nanoseconds % Nat.pow 10 digits
  let whole := toString (nanoseconds / Nat.pow 10 digits)
  if part = 0 then whole ++ unit else whole ++ "." ++ decimals part digits ++ unit

/-- The span as text, such as `1.5s` or `250ms`. -/
def text (span : Elapsed) : String :=
  let nanoseconds := span.nanoseconds
  if 1000000000 ≤ nanoseconds then inUnit nanoseconds 9 "s"
  else if 1000000 ≤ nanoseconds then inUnit nanoseconds 6 "ms"
  else if 1000 ≤ nanoseconds then inUnit nanoseconds 3 "µs"
  else inUnit nanoseconds 0 "ns"

end Elapsed

end AccountManager
