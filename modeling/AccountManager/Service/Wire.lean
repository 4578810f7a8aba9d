import AccountManager.Service.Request

/-!
# Connections to the identity service

Every request takes a connection of its own. What comes of each connection is given from outside;
here it is followed through redirections to a reply or a failure.
-/

namespace AccountManager.Service

/-- What a server answers. The body of a reply that is cut cannot be read to its end. -/
structure Reply where
  status : Nat
  location : Option String := none
  body : Bytes
  isCut : Bool := false
  deriving Repr, DecidableEq

inductive Outcome
  | answered (reply : Reply)
  | timedOut
  | unreachable
  | broken
  deriving Repr, DecidableEq

/-- The connections to a server: what comes of each, and the requests sent over those made so
far. -/
structure Wire where
  outcome : Nat → Outcome
  sent : List Request := []

namespace Wire

def send (wire : Wire) (request : Request) : Outcome × Wire :=
  (wire.outcome wire.sent.length, { wire with sent := wire.sent ++ [request] })

/-- The requests that the server read, from some connection on. -/
def reachedFrom (wire : Wire) (first : Nat) : List Request :=
  let numbered := (wire.sent.drop first).zipIdx first
  (numbered.filter fun (_, place) => wire.outcome place ≠ .unreachable).map Prod.fst

end Wire

/-! ### Redirections -/

def portOf (url : Url) : Option Nat :=
  (url.authority.bind Url.Authority.port).or (Url.defaultPort? url.scheme)

def isSameServer (first second : Url) : Bool :=
  first.authority.map Url.Authority.host = second.authority.map Url.Authority.host &&
    portOf first = portOf second

/-- Whether a status asks to try another address, and whether the request is made again as it
was. -/
def redirection? (status : Nat) : Option Bool :=
  if status = 301 ∨ status = 302 ∨ status = 303 then some false
  else if status = 307 ∨ status = 308 then some true
  else none

/-- The request that a reply asks for instead. Another server gets no proof. -/
def Request.redirected? (request : Request) (reply : Reply) : Option Request := do
  let isRepeated ← redirection? reply.status
  let location ← reply.location
  let url ← (request.url.join location).toOption
  let authorization := if isSameServer request.url url then request.authorization else []
  if isRepeated then some { request with url, authorization }
  else some { method := .get, url, authorization }

def redirections : Nat := 10

/-- Why a request came to nothing, and whether another attempt may do better. -/
structure Failure where
  reason : String
  isTransient : Bool
  deriving Repr, DecidableEq

def Request.unsent (request : Request) (isTransient : Bool) : Failure :=
  ⟨"error sending request for url (" ++ request.url.write ++ ")", isTransient⟩

/-- The failure of a request that was sent from address to address. -/
def Request.lost (request : Request) : Failure :=
  ⟨"error following redirect for url (" ++ request.url.write ++ ")", false⟩

/-- Where a request stands after an outcome: at its end, or at another request. -/
inductive Hop
  | ended (result : Except Failure (Url × Reply))
  | onward (next : Request)

def Request.hop (request : Request) : Outcome → Hop
  | .timedOut => .ended (.error (request.unsent true))
  | .unreachable => .ended (.error (request.unsent true))
  | .broken => .ended (.error (request.unsent false))
  | .answered reply =>
    match request.redirected? reply with
    | none => .ended (.ok (request.url, reply))
    | some next => .onward next

/-- Sends a request and follows so many redirections: the reply, with the address that gave it. -/
def Wire.follow (wire : Wire) (request : Request) : Nat → Except Failure (Url × Reply) × Wire
  | 0 =>
    let (outcome, wire) := wire.send request
    match request.hop outcome with
    | .ended result => (result, wire)
    | .onward _ => (.error request.lost, wire)
  | left + 1 =>
    let (outcome, wire) := wire.send request
    match request.hop outcome with
    | .ended result => (result, wire)
    | .onward next => wire.follow next left

end AccountManager.Service
