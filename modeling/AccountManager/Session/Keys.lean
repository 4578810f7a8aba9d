import AccountManager.KeyDerivation
import AccountManager.Session.Basic

/-!
# Getting the keys

If the record holds no keys, a token that can be used once is exchanged for them. Afterwards the
record holds both keys and no token for them.
-/

namespace AccountManager.Session

open Storage

/-- How the keys are got: they are there, or they have to be fetched with a token. -/
inductive KeyPlan
  | present (record : CredentialRecord)
  | fetch (user : SignedInUser) (keyFetchToken unwrapBKey : String)
  deriving Repr, DecidableEq

def keyPlan (user : SignedInUser) : Except AccountError KeyPlan :=
  if user.record.hasKeys then .ok (.present user.record)
  else
    match user.record.keyFetchToken, user.record.unwrapBKey with
    | none, _ => .error (.missingToken .keyFetch)
    | some _, none => .error (.missingToken .unwrapKey)
    | some token, some unwrapBKey => .ok (.fetch user token unwrapBKey)

/-- The record after its keys were fetched; the service hands them out for verified accounts
alone. -/
def withKeys (record : CredentialRecord) (kA kB : String) : CredentialRecord :=
  { record with
    kA := some kA
    kB := some kB
    keyFetchToken := none
    unwrapBKey := none
    isVerified := true }

variable {σ : Type} [CredentialStore σ]

/-- Begins to get the keys, while nobody else fetches them. -/
def beginKeys (session : Session σ) : Step (Session σ) (Except AccountError KeyPlan) :=
  let looked := session.snapshot
  match looked.result with
  | .error error => ⟨.error (.storage error), looked.state, looked.effects⟩
  | .ok none => ⟨.error .notSignedIn, looked.state, looked.effects⟩
  | .ok (some user) =>
    match keyPlan user with
    | .error error => ⟨.error error, looked.state, looked.effects⟩
    | .ok (.present record) => ⟨.ok (.present record), looked.state, looked.effects⟩
    | .ok (.fetch user token unwrapBKey) =>
      ⟨.ok (.fetch user token unwrapBKey), looked.state,
        looked.effects ++ [debug "fetching account keys", .call (.fetchKeys token)]⟩

/-- Takes the answer of the service: derives the second key and stores the record. -/
def finishKeys (session : Session σ) (user : SignedInUser) (unwrapBKey : String)
    (answer : Except RemoteError KeyBundle) :
    Step (Session σ) (Except AccountError CredentialRecord) :=
  match answer with
  | .error error => ⟨.error (.remoteCall error), session, []⟩
  | .ok bundle =>
    match KeyDerivation.deriveKB bundle.wrapKB unwrapBKey with
    | .error error => ⟨.error (.invalidKey error), session, []⟩
    | .ok kB =>
      let updated := withKeys user.record (Hex.encode bundle.kA) kB
      let committed := session.commit user.generation updated
      match committed.result with
      | .error error => ⟨.error error, committed.state, committed.effects⟩
      | .ok () =>
        ⟨.ok updated, committed.state, committed.effects ++ [info "account keys derived"]⟩

end AccountManager.Session
