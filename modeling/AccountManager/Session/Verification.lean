import AccountManager.Session.Basic
import AccountManager.Text.Elapsed

/-!
# Waiting for verification

The identity service is asked again and again, at intervals and a bounded number of times, whether
the address behind a record was verified. Once it was, the stored record is marked.
-/

namespace AccountManager.Session

open Storage

/-- How often the service is asked, and how long to wait in between. -/
structure Polling where
  interval : Elapsed
  limit : Nat
  deriving Repr, DecidableEq

/-- A wait for verification: the epoch it began in, the token it asks with, and how often it has
asked. -/
structure Poll where
  generation : Nat
  sessionToken : String
  asked : Nat
  deriving Repr, DecidableEq

inductive PollPlan
  | verified (record : CredentialRecord)
  | ask (poll : Poll)
  | sleep (poll : Poll)
  deriving Repr, DecidableEq

variable {σ : Type}

/-- Asks the service once more, if the epoch is still the one the wait began in. -/
def ask (session : Session σ) (poll : Poll) : Step (Session σ) (Except AccountError PollPlan) :=
  if session.epoch ≠ poll.generation then
    ⟨.error .notSignedIn, session, [debug "stopped verification polling after sign-out"]⟩
  else
    ⟨.ok (.ask { poll with asked := poll.asked + 1 }), session,
      [.call (.checkStatus poll.sessionToken)]⟩

/-- Begins to wait until the address behind a record is verified. -/
def beginVerification (session : Session σ) (record : CredentialRecord) :
    Step (Session σ) (Except AccountError PollPlan) :=
  if record.isVerified then ⟨.ok (.verified record), session, []⟩
  else
    match record.sessionToken with
    | none => ⟨.error (.missingToken .session), session, []⟩
    | some token => session.ask ⟨session.epoch, token, 0⟩

variable [CredentialStore σ]

def finishVerification (session : Session σ) (generation : Nat) :
    Step (Session σ) (Except AccountError CredentialRecord) :=
  let looked := session.snapshot
  match looked.result with
  | .error error => ⟨.error (.storage error), looked.state, looked.effects⟩
  | .ok none => ⟨.error .notSignedIn, looked.state, looked.effects⟩
  | .ok (some user) =>
    if user.generation ≠ generation then ⟨.error .notSignedIn, looked.state, looked.effects⟩
    else
      let updated := { user.record with isVerified := true }
      let committed := looked.state.commit generation updated
      match committed.result with
      | .error error => ⟨.error error, committed.state, looked.effects ++ committed.effects⟩
      | .ok () =>
        ⟨.ok updated, committed.state, looked.effects ++ committed.effects ++
          [info "account email verified", .event .verified]⟩

def answerStatus (session : Session σ) (polling : Polling) (poll : Poll)
    (answer : Except RemoteError Bool) : Step (Session σ) (Except AccountError PollPlan) :=
  match answer with
  | .error error => ⟨.error (.remoteCall error), session, []⟩
  | .ok true =>
    let finished := session.finishVerification poll.generation
    ⟨finished.result.map .verified, finished.state, finished.effects⟩
  | .ok false =>
    if poll.asked < polling.limit then
      ⟨.ok (.sleep poll), session,
        [debug ("email not verified yet, checking again in " ++ polling.interval.text)]⟩
    else ⟨.error (.verificationTimedOut polling.limit), session, []⟩

end AccountManager.Session
