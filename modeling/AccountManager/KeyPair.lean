import AccountManager.Ed25519.Signature
import AccountManager.Error
import AccountManager.Json.Shape
import AccountManager.Text.Described

/-!
# Signing keys

A key pair is made from thirty-two random bytes. Its public half is the bytes it is written with, so
two keys are equal exactly if they are written alike, whatever points the bytes stand for.
-/

namespace AccountManager

def algorithm : String := "EdDSA"

structure PublicKey where
  bytes : Bytes
  deriving Repr, DecidableEq

/-- A key pair, by the bytes it was made from. -/
structure KeyPair where
  seed : Bytes
  deriving Repr, DecidableEq

namespace PublicKey

def text (key : PublicKey) : String := Base64Url.encode key.bytes

/-- A public key as it is sent to the identity service. -/
def write (key : PublicKey) : String :=
  String.ofList (Json.writtenObject [
    ("algorithm", Json.writtenText algorithm),
    ("publicKey", Json.writtenText key.text)])

/-- A written key before it is looked into. -/
structure Sent where
  algorithm : String := ""
  publicKey : String := ""
  deriving Repr, DecidableEq

def Sent.shape : Json.Shape Sent where
  name := "SerializedPublicKey"
  fields := [
    ⟨"algorithm", .text, true, fun value sent => { sent with algorithm := value }⟩,
    ⟨"publicKey", .text, true, fun value sent => { sent with publicKey := value }⟩]
  blank := {}

/-- The key with these bytes, which have to be those of a point. -/
def ofBytes (bytes : Bytes) : Except KeyError PublicKey :=
  if bytes.length ≠ 32 then .error .wrongLength
  else if (Ed25519.Point.decode? bytes).isNone then .error .noPoint
  else .ok ⟨bytes⟩

def ofSent (sent : Sent) : Except KeyError PublicKey :=
  if sent.algorithm ≠ algorithm then .error (.unsupportedAlgorithm sent.algorithm)
  else
    match Base64Url.decode sent.publicKey with
    | .error error => .error (.undecodable error)
    | .ok bytes => ofBytes bytes

def read (text : String) : Except AccountError PublicKey :=
  match Sent.shape.readText text with
  | .error error => .error (.serialization (.malformed error))
  | .ok sent => (ofSent sent).mapError .invalidKey

/-- Whether a signature over a message was made with the other half of this key. -/
def verify (key : PublicKey) (message signature : Bytes) : Bool :=
  Ed25519.verify key.bytes message signature

def description (key : PublicKey) : String := "PublicKey(" ++ key.text ++ ")"

end PublicKey

namespace KeyPair

def publicKey (pair : KeyPair) : PublicKey := ⟨Ed25519.publicBytes pair.seed⟩

def sign (pair : KeyPair) (message : Bytes) : Bytes := Ed25519.sign pair.seed message

/-- The pair as it may be shown to people. -/
def description (pair : KeyPair) : String :=
  Text.describedPartly "KeyPair" [("public_key", pair.publicKey.description)]

end KeyPair

end AccountManager
