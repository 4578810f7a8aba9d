import AccountManager.Error
import AccountManager.Text.Base64
import AccountManager.Url.Relative

/-!
# Requests to the identity service

A request asks for one endpoint with a token, and may carry a document. A name and a password in the
address are sent beside the token and not as part of the address.
-/

namespace AccountManager.Service

inductive Method
  | get
  | post
  deriving Repr, DecidableEq

def Method.name : Method → String
  | .get => "GET"
  | .post => "POST"

/-- A request; `authorization` holds what proves the right to make it, in order. -/
structure Request where
  method : Method
  url : Url
  authorization : List String
  body : Option String := none
  deriving Repr, DecidableEq

def userAgent : String := "fxaccounts-core/0.1.0"

namespace Request

def host (request : Request) : String :=
  String.ofList ((request.url.authority.map Url.Authority.writeHost).getD [])

def target (request : Request) : String := String.ofList request.url.writeTarget

def contentType (request : Request) : Option String := request.body.map fun _ => "application/json"

/-! ### Building -/

/-- Whether a text can be sent as a value beside a request: it holds no control but the tab. -/
def isSendable (text : String) : Bool :=
  text.toList.all fun character =>
    character = '\t' || (0x20 ≤ character.toNat && character.toNat ≠ 0x7F)

def unescaped? (text : List Char) : Option String :=
  Utf8.decode? (Url.unescape (Utf8.encode (String.ofList text)))

/-- The proof that a name and a password give. -/
def basicProof (username password : String) : String :=
  "Basic " ++ Base64.encode (Utf8.encode (username ++ ":" ++ password))

def bearerProof (token : String) : String := "Bearer " ++ token

/-- An address without name and password, and the proof they give. -/
def takeUserInfo (url : Url) : Url × List String :=
  match url.authority with
  | none => (url, [])
  | some authority =>
    if authority.username = [] ∧ authority.password = [] then (url, [])
    else
      match unescaped? authority.username with
      | none => (url, [])
      | some username =>
        let bare := { authority with username := [], password := [] }
        ({ url with authority := some bare },
          [basicProof username ((unescaped? authority.password).getD "")])

/-- The complaint about a request that cannot be sent at all. -/
def unbuilt : RemoteError := .network "" none "request build failed: builder error"

def build (method : Method) (url : Url) (token : String) (body : Option String) :
    Except RemoteError Request :=
  if isSendable token then
    let (bare, proofs) := takeUserInfo url
    .ok { method, url := bare, authorization := proofs ++ [bearerProof token], body }
  else .error unbuilt

end Request

end AccountManager.Service
