import AccountManager.Log
import AccountManager.Service.Wire
import AccountManager.Text.Elapsed

/-!
# Delivery

A request whose failure may pass is sent again, up to three times and after growing pauses.
Everything else is final: a reply of any other status, and a failure that would come again.
-/

namespace AccountManager.Service

/-- What came of a request in the end, the connections it took, and what was logged. -/
structure Delivery (α : Type) where
  result : Except RemoteError α
  wire : Wire
  logs : List Log.Record := []

/-- The pauses before a request is sent again, each about twice the one before. -/
def pauses : List Elapsed := [⟨200000000⟩, ⟨400000006⟩, ⟨800000012⟩]

/-- Whether a status tells of trouble that may pass. -/
def isTransientStatus (status : Nat) : Bool := status = 429 || (500 ≤ status && status < 600)

/-- A failed attempt, and whether another may do better. -/
structure Setback where
  error : RemoteError
  isTransient : Bool
  deriving Repr, DecidableEq

def Wire.attempt (wire : Wire) (request : Request) : Except Setback (Url × Reply) × Wire :=
  let (arrived, wire) := wire.follow request redirections
  let asked := request.url.write
  match arrived with
  | .error failure => (.error ⟨.network asked none failure.reason, failure.isTransient⟩, wire)
  | .ok (url, reply) =>
    if isTransientStatus reply.status then
      let reason := "server answered " ++ toString reply.status
      (.error ⟨.network asked (some reply.status) reason, true⟩, wire)
    else (.ok (url, reply), wire)

def retrying (pause : Elapsed) (error : RemoteError) : Log.Record :=
  ⟨.debug, "fxaccounts_core::client::request",
    "retrying in " ++ pause.text ++ " after " ++ error.message⟩

/-- Sends a request, and again after each pause while the failure may pass. -/
def Wire.deliver (wire : Wire) (request : Request) :
    (pauses : List Elapsed) → Delivery (Url × Reply)
  | [] =>
    let (arrived, wire) := wire.attempt request
    { result := arrived.mapError Setback.error, wire }
  | pause :: pauses =>
    let (arrived, wire) := wire.attempt request
    match arrived with
    | .ok reply => { result := .ok reply, wire }
    | .error setback =>
      if setback.isTransient then
        let rest := wire.deliver request pauses
        { rest with logs := retrying pause setback.error :: rest.logs }
      else { result := .error setback.error, wire }

end AccountManager.Service
