import AccountManager.Digest.Sha512
import AccountManager.Ed25519.Curve

/-!
# Signatures

A secret of thirty-two bytes gives a key, and the key a signature of sixty-four bytes for every
message. A signature is checked by computing its first half anew and comparing bytes; its second
half has to be below the order.
-/

namespace AccountManager.Ed25519

def topBit : Nat := Nat.pow 2 254

/-- The factor that the first half of a digest stands for: a multiple of eight with a fixed top
bit. -/
def clamp (bytes : Bytes) : Nat :=
  let value := ofLittleEndian bytes
  value % topBit / 8 * 8 + topBit

/-- The digest of some bytes as a number below the order. -/
def digestFactor (bytes : Bytes) : Nat := ofLittleEndian (Sha512.digest bytes) % order

def secretFactor (secret : Bytes) : Nat := clamp ((Sha512.digest secret).take 32)

def publicBytes (secret : Bytes) : Bytes := (base.times (secretFactor secret)).encode

def sign (secret message : Bytes) : Bytes :=
  let nonce := digestFactor ((Sha512.digest secret).drop 32 ++ message)
  let first := (base.times nonce).encode
  let challenge := digestFactor (first ++ publicBytes secret ++ message)
  first ++ littleEndian 32 ((nonce + challenge * secretFactor secret) % order)

/-- Whether a signature belongs to a message and a public key. -/
def verify (publicKey message signature : Bytes) : Bool :=
  match Point.decode? publicKey with
  | none => false
  | some point =>
    let first := signature.take 32
    let second := ofLittleEndian (signature.drop 32)
    let challenge := digestFactor (first ++ publicKey ++ message)
    signature.length = 64 && second < order &&
      ((point.negate.times challenge).sum (base.times second)).encode = first

end AccountManager.Ed25519
