import AccountManager.Accounts.Basic

/-!
# Assertions under way

A call for an assertion waits at most once, for the answer to a request for a certificate. Calls
that need the same certificate share one request: it is answered once, and each of them goes on in
its own time.
-/

namespace AccountManager.Accounts

open Storage

/-- A call that waits for a certificate: the epoch and the key it goes on with. -/
structure CertificateWait where
  generation : Nat
  key : EphemeralKey
  requestId : Nat
  audience : String
  deriving Repr, DecidableEq

/-- A request for a certificate, and its answer once there is one. -/
structure Signing where
  requestId : Nat
  answer : Option (Except RemoteError String) := none

/-- An account manager and its calls under way. -/
structure Activity (σ : Type) where
  accounts : Accounts σ
  waits : List (CallId × CertificateWait) := []
  signings : List Signing := []

inductive Move (σ : Type)
  | session (move : Session.Move σ)
  | setClock (now : UInt64)
  | beginAssertion (id : CallId) (audience : String)
  | answerCertificate (requestId : Nat) (answer : Except RemoteError String)
  | resume (id : CallId)
  | drop (id : CallId)

namespace Activity

variable {σ : Type}

def wait? (activity : Activity σ) (id : CallId) : Option CertificateWait :=
  (activity.waits.find? fun wait => wait.1 = id).map Prod.snd

def signing? (activity : Activity σ) (requestId : Nat) : Option Signing :=
  activity.signings.find? fun signing => signing.requestId = requestId

def forget (activity : Activity σ) (id : CallId) : Activity σ :=
  { activity with waits := activity.waits.filter fun wait => wait.1 ≠ id }

/-- Whether an identifier belongs to a call under way. -/
def isBusy (activity : Activity σ) (id : CallId) : Bool :=
  (activity.wait? id).isSome || (activity.accounts.activity.waiting? id).isSome

/-- Ends a call with an assertion or an error. -/
def returnAssertion (activity : Activity σ) (id : CallId) (result : Except AccountError String)
    (effects : List Effect) : Step (Activity σ) Session.Reply :=
  ⟨.none, activity.forget id, effects ++ [.returned id (result.map .assertion)]⟩

/-- The assertion of a call that got its certificate. -/
def assertionOf (accounts : Accounts σ) (key : EphemeralKey) (audience certificate : String) :
    String :=
  Provisioner.assertion accounts.setting key certificate audience

/-- The answer to a request arrives; a request is answered once. -/
def answer (activity : Activity σ) (requestId : Nat) (answer : Except RemoteError String) :
    Activity σ :=
  { activity with
    signings := activity.signings.map fun signing =>
      if signing.requestId = requestId then { signing with answer := some answer } else signing }

def resume (activity : Activity σ) (id : CallId) (wait : CertificateWait)
    (answer : Except RemoteError String) : Step (Activity σ) Session.Reply :=
  let accounts := activity.accounts
  let finished := accounts.provisioner.finish accounts.setting accounts.epoch wait.generation
    wait.key wait.requestId answer
  let accounts := { accounts with provisioner := finished.state }
  returnAssertion { activity with accounts } id
    (finished.result.map (assertionOf accounts wait.key wait.audience)) finished.effects

variable [CredentialStore σ]

/-- A move of the session; signing in or out resets the provisioner. -/
def moveSession? (activity : Activity σ) (move : Session.Move σ) :
    Option (Step (Activity σ) Session.Reply) :=
  match activity.accounts.activity.step? move with
  | none => none
  | some step =>
    let accounts := { activity.accounts with activity := step.state }
    match move, step.result with
    | .signIn _, .stored (.ok ()) =>
      some ⟨step.result, { activity with accounts := accounts.resetProvisioner }, step.effects⟩
    | .signOut, _ =>
      some ⟨step.result, { activity with accounts := accounts.resetProvisioner },
        step.effects ++ [info "account state cleared"]⟩
    | _, _ => some ⟨step.result, { activity with accounts }, step.effects⟩

/-- Begins to get an assertion for the signed-in user. -/
def beginAssertion (activity : Activity σ) (id : CallId) (audience : String) :
    Step (Activity σ) Session.Reply :=
  let accounts := activity.accounts
  let looked := accounts.activity.session.snapshot
  let accounts : Accounts σ :=
    { accounts with activity := { accounts.activity with session := looked.state } }
  let refuse (error : AccountError) : Step (Activity σ) Session.Reply :=
    returnAssertion { activity with accounts } id (.error error) looked.effects
  match looked.result with
  | .error error => refuse (.storage error)
  | .ok none => refuse .notSignedIn
  | .ok (some user) =>
    if ¬ user.record.isVerified then refuse .notVerified
    else
      match user.record.sessionToken with
      | none => refuse (.missingToken .session)
      | some token =>
        let planned := accounts.provisioner.certify accounts.setting accounts.epoch
          user.generation token
        let accounts := { accounts with provisioner := planned.state }
        let effects := looked.effects ++ planned.effects
        let wait (key : EphemeralKey) (requestId : Nat) : CallId × CertificateWait :=
          (id, ⟨user.generation, key, requestId, audience⟩)
        match planned.result with
        | .error error => returnAssertion { activity with accounts } id (.error error) effects
        | .ok (key, .ready certificate) =>
          returnAssertion { activity with accounts } id
            (.ok (assertionOf accounts key audience certificate)) effects
        | .ok (key, .joined requestId) =>
          ⟨.none, { activity with accounts, waits := activity.waits ++ [wait key requestId] },
            effects⟩
        | .ok (key, .requested requestId) =>
          ⟨.none,
            { accounts
              waits := activity.waits ++ [wait key requestId]
              signings := activity.signings ++ [⟨requestId, none⟩] },
            effects⟩

/-- Lets one thing happen, if it can. -/
def step? (activity : Activity σ) : Move σ → Option (Step (Activity σ) Session.Reply)
  | .session (.beginKeys id) =>
    if activity.isBusy id then none else activity.moveSession? (.beginKeys id)
  | .session (.beginVerification id record) =>
    if activity.isBusy id then none else activity.moveSession? (.beginVerification id record)
  | .session move => activity.moveSession? move
  | .setClock now =>
    some ⟨.none, { activity with accounts := { activity.accounts with clock := now } }, []⟩
  | .beginAssertion id audience =>
    if activity.isBusy id then none else some (activity.beginAssertion id audience)
  | .answerCertificate requestId answer =>
    match activity.signing? requestId with
    | some ⟨_, none⟩ => some ⟨.none, activity.answer requestId answer, []⟩
    | _ => none
  | .resume id =>
    match activity.wait? id with
    | none => none
    | some wait =>
      match (activity.signing? wait.requestId).bind Signing.answer with
      | none => none
      | some answer => some (activity.resume id wait answer)
  | .drop id =>
    if (activity.wait? id).isSome then some ⟨.none, activity.forget id, []⟩ else none

end Activity

end AccountManager.Accounts
