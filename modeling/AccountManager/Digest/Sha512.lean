import AccountManager.Text.Utf8

/-!
# The 512-bit digest

Bytes are padded to blocks of sixteen 64-bit words, and each block is mixed into eight words of
state in eighty rounds. The constants are the first bits of the fractional parts of roots of the
first primes.
-/

namespace AccountManager.Sha512

/-! ### Constants -/

/-- Whether a number above one has no divisor between two and itself. -/
def isPrime (candidate : Nat) : Bool :=
  (List.range candidate).all fun divisor => divisor < 2 || candidate % divisor ≠ 0

/-- The first primes, of which there are eighty below 410. -/
def primes : List Nat := (List.range 410).filter fun candidate => 1 < candidate && isPrime candidate

/-- The greatest number whose power `exponent` is at most `target`, given bits to try from the
top. -/
def rootFrom (exponent target : Nat) : Nat → Nat → Nat
  | 0, root => root
  | bit + 1, root =>
    let candidate := root + Nat.pow 2 bit
    rootFrom exponent target bit (if Nat.pow candidate exponent ≤ target then candidate else root)

/-- The first sixty-four bits of the fractional part of the root of a prime. -/
def rootBits (exponent prime : Nat) : UInt64 :=
  UInt64.ofNat (rootFrom exponent (prime * Nat.pow 2 (64 * exponent)) 72 0)

/-- The state before the first block: square roots of the first eight primes. -/
def initial : Array UInt64 := ((primes.take 8).map (rootBits 2)).toArray

/-- One word for each round: cube roots of the first eighty primes. -/
def roundWords : Array UInt64 := ((primes.take 80).map (rootBits 3)).toArray

/-! ### Blocks -/

def rotate (word : UInt64) (amount : UInt64) : UInt64 :=
  (word >>> amount) ||| (word <<< (64 - amount))

def bigEndian (size value : Nat) : Bytes :=
  (List.range size).map fun place => UInt8.ofNat (value / Nat.pow 256 (size - 1 - place))

def ofBigEndian (bytes : Bytes) : Nat := bytes.foldl (fun value byte => value * 256 + byte.toNat) 0

/-- A one bit, zeros, and the length in bits, up to whole blocks. -/
def pad (message : Bytes) : Bytes :=
  let zeros := (239 - message.length % 128) % 128
  message ++ 0x80 :: List.replicate zeros 0 ++ bigEndian 16 (message.length * 8)

/-- The groups of `size` items that a list begins with. -/
def groups {α : Type} (size : Nat) : Nat → List α → List (List α)
  | 0, _ => []
  | count + 1, items => items.take size :: groups size count (items.drop size)

/-- Extends the sixteen words of a block to one word for each round. -/
def schedule (block : Array UInt64) : Array UInt64 :=
  (List.range 64).foldl (fun words _ =>
    let size := words.size
    let near := words[size - 2]!
    let far := words[size - 15]!
    let small := rotate far 1 ^^^ rotate far 8 ^^^ (far >>> 7)
    let large := rotate near 19 ^^^ rotate near 61 ^^^ (near >>> 6)
    words.push (words[size - 16]! + small + words[size - 7]! + large)) block

structure State where
  a : UInt64
  b : UInt64
  c : UInt64
  d : UInt64
  e : UInt64
  f : UInt64
  g : UInt64
  h : UInt64

/-- One round with its word of the schedule and its constant. -/
def State.round (state : State) (word constant : UInt64) : State :=
  let large := rotate state.e 14 ^^^ rotate state.e 18 ^^^ rotate state.e 41
  let choice := (state.e &&& state.f) ^^^ ((~~~ state.e) &&& state.g)
  let first := state.h + large + choice + constant + word
  let small := rotate state.a 28 ^^^ rotate state.a 34 ^^^ rotate state.a 39
  let majority := (state.a &&& state.b) ^^^ (state.a &&& state.c) ^^^ (state.b &&& state.c)
  ⟨first + (small + majority), state.a, state.b, state.c,
    state.d + first, state.e, state.f, state.g⟩

def State.add (left right : State) : State :=
  ⟨left.a + right.a, left.b + right.b, left.c + right.c, left.d + right.d,
    left.e + right.e, left.f + right.f, left.g + right.g, left.h + right.h⟩

def State.start : State :=
  ⟨initial[0]!, initial[1]!, initial[2]!, initial[3]!, initial[4]!, initial[5]!, initial[6]!,
    initial[7]!⟩

def State.bytes (state : State) : Bytes :=
  [state.a, state.b, state.c, state.d, state.e, state.f, state.g, state.h].flatMap
    fun word => bigEndian 8 word.toNat

/-- Mixes a block of 128 bytes into the state. -/
def State.mix (state : State) (block : Bytes) : State :=
  let words := (groups 8 16 block).map fun bytes => UInt64.ofNat (ofBigEndian bytes)
  let mixed := ((schedule words.toArray).zip roundWords).foldl
    (fun state (word, constant) => state.round word constant) state
  state.add mixed

def digest (message : Bytes) : Bytes :=
  let padded := pad message
  ((groups 128 (padded.length / 128) padded).foldl State.mix State.start).bytes

end AccountManager.Sha512
