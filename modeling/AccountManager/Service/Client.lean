import AccountManager.Effect
import AccountManager.Endpoint
import AccountManager.Service.Delivery

/-!
# The client of the identity service

The three calls: fetching keys, checking the address, and having a key certified. Each asks one
endpoint below the address of the service and reads a document from the reply.
-/

namespace AccountManager.Service

/-! ### Replies -/

/-- What the reply to a request for keys holds: digits. -/
structure KeysReply where
  kA : String := ""
  wrapKB : String := ""

def KeysReply.shape : Json.Shape KeysReply where
  name := "KeysResponse"
  fields := [
    ⟨"kA", .text, true, fun value reply => { reply with kA := value }⟩,
    ⟨"wrapKB", .text, true, fun value reply => { reply with wrapKB := value }⟩]
  blank := {}

def decodeKey (name digits : String) : Except RemoteError Bytes :=
  (Hex.decode digits).mapError fun error => .invalidResponse (name ++ ": " ++ error.message)

def KeysReply.decode (reply : KeysReply) : Except RemoteError KeyBundle := do
  let kA ← decodeKey "kA" reply.kA
  let wrapKB ← decodeKey "wrapKB" reply.wrapKB
  .ok { kA, wrapKB }

structure EmailStatus where
  verified : Bool := false
  deriving Repr, DecidableEq

def EmailStatus.shape : Json.Shape EmailStatus where
  name := "EmailStatus"
  fields := [⟨"verified", .flag, true, fun value _ => ⟨value⟩⟩]
  blank := {}

def EmailStatus.description (status : EmailStatus) : String :=
  Text.described "EmailStatus" [("verified", toString status.verified)]

/-- What the reply to a request for a certificate holds. -/
def certificateShape : Json.Shape String where
  name := "CertificateResponse"
  fields := [⟨"cert", .text, true, fun value _ => value⟩]
  blank := ""

def isSuccess (status : Nat) : Bool := 200 ≤ status && status < 300

/-- The complaint about a reply that is not the document it should be. -/
def unreadable (url : Url) : RemoteError :=
  .invalidResponse (url.write ++ ": error decoding response body")

/-- Reads a document from a reply. What comes with a failure is passed on as text. -/
def Reply.read {α : Type} (shape : Json.Shape α) (url : Url) (reply : Reply) :
    Except RemoteError α :=
  if isSuccess reply.status then
    if reply.isCut then .error (unreadable url)
    else (shape.read reply.body).mapError fun _ => unreadable url
  else
    let text := if reply.isCut then "" else Utf8.decodeForgiving reply.body
    .error (.network url.write (some reply.status) text)

/-! ### Calls -/

/-- Where the service is, and how long certificates are to last. -/
structure Client where
  base : Url
  certificateLifetime : UInt64

/-- An address whose path ends in a slash, so that names are added to it. -/
def withSlash (url : Url) : Url :=
  let path := url.path.write
  if path.getLast? = some '/' then url else url.setPath (path ++ ['/'])

namespace Client

def ofConfig (config : Config) : Except AccountError Client := do
  let url ← config.identityEndpoint
  .ok { base := withSlash url, certificateLifetime := config.certificateLifetime }

def description (client : Client) : String :=
  Text.describedPartly "HttpIdentityClient" [("base", Text.quoted client.base.write)]

def endpoint (client : Client) (name : String) : Except RemoteError Url :=
  (client.base.join name).mapError fun error =>
    .network (client.base.write ++ name) none error.message

def ask {α : Type} (client : Client) (wire : Wire) (method : Method) (name token : String)
    (body : Option String) (shape : Json.Shape α) : Delivery α :=
  match client.endpoint name with
  | .error error => { result := .error error, wire }
  | .ok url =>
    match Request.build method url token body with
    | .error error => { result := .error error, wire }
    | .ok request =>
      let delivery := wire.deliver request pauses
      { delivery with result := delivery.result.bind fun (url, reply) => reply.read shape url }

def fetchKeys (client : Client) (wire : Wire) (keyFetchToken : String) : Delivery KeyBundle :=
  let delivery := client.ask wire .get "account/keys" keyFetchToken none KeysReply.shape
  { delivery with result := delivery.result.bind KeysReply.decode }

def checkStatus (client : Client) (wire : Wire) (sessionToken : String) : Delivery EmailStatus :=
  client.ask wire .get "recovery_email/status" sessionToken none EmailStatus.shape

def certificateBody (client : Client) (publicKey : Json.Value) : String :=
  Json.Value.write (.object [
    ("duration", .number (.unsigned client.certificateLifetime)),
    ("publicKey", publicKey)])

/-- Has a key certified, which is given as a document. -/
def signCertificate (client : Client) (wire : Wire) (sessionToken publicKey : String) :
    Delivery String :=
  match Json.Value.read (Utf8.encode publicKey) with
  | .error error =>
    { result := .error (.invalidResponse ("public key: " ++ error.message)), wire }
  | .ok value =>
    client.ask wire .post "certificate/sign" sessionToken (some (client.certificateBody value))
      certificateShape

end Client

end AccountManager.Service
