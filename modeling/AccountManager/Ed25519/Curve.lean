import AccountManager.Text.Utf8

/-!
# The twisted Edwards curve

Points of `y² - x² = 1 + d x² y²` over the integers modulo `2^255 - 19`, their addition, and their
form as thirty-two bytes: the second coordinate, and the lowest bit of the first.
-/

namespace AccountManager.Ed25519

/-! ### Numbers modulo a prime -/

/-- The bit of a coordinate that no coordinate needs: the 256th. -/
def signBit : Nat := Nat.pow 2 255

def prime : Nat := signBit - 19

def order : Nat := Nat.pow 2 252 + 27742317777372353535851937790883648493

def add (a b : Nat) : Nat := (a + b) % prime

def subtract (a b : Nat) : Nat := (a + prime - b % prime) % prime

def multiply (a b : Nat) : Nat := a * b % prime

/-- A power, by squaring; `bits` bounds the binary digits of the exponent. -/
def powerFrom : Nat → Nat → Nat → Nat
  | 0, _, _ => 1
  | bits + 1, base, exponent =>
    let half := powerFrom bits (multiply base base) (exponent / 2)
    if exponent % 2 = 1 then multiply base half else half

def power (base exponent : Nat) : Nat := powerFrom 256 base exponent

def inverse (a : Nat) : Nat := power a (prime - 2)

def rootOfMinusOne : Nat := power 2 ((prime - 1) / 4)

/-- A number whose square times `b` is `a`, if there is one. -/
def squareRootOfRatio? (a b : Nat) : Option Nat :=
  let b3 := multiply (multiply b b) b
  let b7 := multiply (multiply b3 b3) b
  let root := multiply (multiply a b3) (power (multiply a b7) ((prime - 5) / 8))
  let check := multiply b (multiply root root)
  if check = a % prime then some root
  else if check = subtract 0 a then some (multiply root rootOfMinusOne)
  else none

def coefficient : Nat := multiply (subtract 0 121665) (inverse 121666)

/-! ### Points -/

/-- A point as `x = X / Z`, `y = Y / Z` with `T = X Y / Z`. -/
structure Point where
  x : Nat
  y : Nat
  z : Nat
  t : Nat
  deriving Repr, DecidableEq

namespace Point

def ofAffine (x y : Nat) : Point := ⟨x, y, 1, multiply x y⟩

def zero : Point := ofAffine 0 1

/-- The sum of two points; the formula holds for all of them. -/
def sum (left right : Point) : Point :=
  let a := multiply (subtract left.y left.x) (subtract right.y right.x)
  let b := multiply (add left.y left.x) (add right.y right.x)
  let c := multiply (multiply 2 coefficient) (multiply left.t right.t)
  let d := multiply 2 (multiply left.z right.z)
  let e := subtract b a
  let f := subtract d c
  let g := add d c
  let h := add b a
  ⟨multiply e f, multiply g h, multiply f g, multiply e h⟩

def negate (point : Point) : Point :=
  ⟨subtract 0 point.x, point.y, point.z, subtract 0 point.t⟩

/-- A multiple, by doubling; `bits` bounds the binary digits of the factor. -/
def timesFrom : Nat → Nat → Point → Point
  | 0, _, _ => zero
  | bits + 1, factor, point =>
    let half := timesFrom bits (factor / 2) (point.sum point)
    if factor % 2 = 1 then half.sum point else half

def times (factor : Nat) (point : Point) : Point := timesFrom 256 factor point

end Point

/-! ### Bytes -/

def ofLittleEndian (bytes : Bytes) : Nat :=
  bytes.foldr (fun byte value => byte.toNat + 256 * value) 0

def littleEndian : Nat → Nat → Bytes
  | 0, _ => []
  | size + 1, value => UInt8.ofNat (value % 256) :: littleEndian size (value / 256)

def Point.encode (point : Point) : Bytes :=
  let scale := inverse point.z
  let x := multiply point.x scale
  let y := multiply point.y scale
  littleEndian 32 (y + x % 2 * signBit)

/-- The point with these bytes. The second coordinate need not be reduced, and a zero first
coordinate may carry either bit. -/
def Point.decode? (bytes : Bytes) : Option Point :=
  if bytes.length = 32 then
    let value := ofLittleEndian bytes
    let y := value % signBit % prime
    let squared := multiply y y
    match squareRootOfRatio? (subtract squared 1) (add (multiply coefficient squared) 1) with
    | none => none
    | some root =>
      let even := if root % 2 = 1 then subtract 0 root else root
      some (.ofAffine (if value / signBit = 1 then subtract 0 even else even) y)
  else none

/-- The point that keys are multiples of: its second coordinate is four fifths, its first one is
even. -/
def base : Point :=
  (Point.decode? (littleEndian 32 (multiply 4 (inverse 5)))).getD .zero

end AccountManager.Ed25519
