import AccountManager.KeyPair
import AccountManager.Text.Split

/-!
# Assertions

An assertion is `certificate~header.payload.signature`: the text of a certificate, then a statement
for an audience signed with the certified key. The three parts of the statement are unpadded
base64url, the first two of documents.
-/

namespace AccountManager

structure AssertionHeader where
  alg : String := ""
  deriving Repr, DecidableEq

/-- Who a statement is for and until when it holds, in milliseconds since 1970. -/
structure AssertionPayload where
  aud : String := ""
  exp : UInt64 := 0
  deriving Repr, DecidableEq

structure Assertion where
  certificate : String
  header : AssertionHeader
  payload : AssertionPayload
  signedText : String
  signature : Bytes
  deriving Repr, DecidableEq

namespace AssertionHeader

def shape : Json.Shape AssertionHeader where
  name := "AssertionHeader"
  fields := [⟨"alg", .text, true, fun value header => { header with alg := value }⟩]
  blank := {}

def write (header : AssertionHeader) : String :=
  String.ofList (Json.writtenObject [("alg", Json.writtenText header.alg)])

end AssertionHeader

namespace AssertionPayload

def shape : Json.Shape AssertionPayload where
  name := "AssertionPayload"
  fields := [
    ⟨"aud", .text, true, fun value payload => { payload with aud := value }⟩,
    ⟨"exp", .word "u64", true, fun value payload => { payload with exp := value }⟩]
  blank := {}

def write (payload : AssertionPayload) : String :=
  String.ofList (Json.writtenObject [
    ("aud", Json.writtenText payload.aud),
    ("exp", Json.writtenWord payload.exp)])

end AssertionPayload

namespace Assertion

def encodePart (document : String) : String := Base64Url.encode (Utf8.encode document)

def signedTextOf (audience : String) (expiry : UInt64) : String :=
  encodePart (AssertionHeader.write ⟨algorithm⟩) ++ "." ++
    encodePart (AssertionPayload.write ⟨audience, expiry⟩)

/-- Signs a statement for an audience and joins it to a certificate. -/
def build (certificate : String) (pair : KeyPair) (audience : String) (expiry : UInt64) : String :=
  let signed := signedTextOf audience expiry
  certificate ++ "~" ++ signed ++ "." ++ Base64Url.encode (pair.sign (Utf8.encode signed))

def decodePart {α : Type} (shape : Json.Shape α) (part : List Char) :
    Except SerializationError α :=
  match Base64Url.decode (String.ofList part) with
  | .error error => .error (.undecodable error)
  | .ok bytes => (shape.read bytes).mapError .malformed

/-- The four parts of an assertion: certificate, header, payload and signature. -/
def parts? (text : List Char) : Option (List Char × List Char × List Char × List Char) := do
  let (certificate, statement) ← Text.splitLast? '~' text
  let (signed, signature) ← Text.splitLast? '.' statement
  let (header, payload) ← Text.splitFirst? '.' signed
  some (certificate, header, payload, signature)

/-- Reads an assertion without checking its signature. -/
def parse (text : String) : Except SerializationError Assertion :=
  match parts? text.toList with
  | none => .error .malformedAssertion
  | some (certificate, headerPart, payloadPart, signaturePart) => do
    let header ← decodePart AssertionHeader.shape headerPart
    let payload ← decodePart AssertionPayload.shape payloadPart
    match Base64Url.decode (String.ofList signaturePart) with
    | .error error => .error (.undecodable error)
    | .ok signature =>
      .ok ⟨String.ofList certificate, header, payload,
        String.ofList (headerPart ++ '.' :: payloadPart), signature⟩

/-- Whether the statement was signed with the other half of a key. -/
def verify (assertion : Assertion) (key : PublicKey) : Bool :=
  assertion.header.alg = algorithm &&
    key.verify (Utf8.encode assertion.signedText) assertion.signature

end Assertion

end AccountManager
