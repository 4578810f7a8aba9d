import AccountManager.Effect
import AccountManager.Storage.Credentials

/-!
# The signed-in user

A session keeps the record of the signed-in user in front of a credential store. Every sign-in and
every sign-out begins a new epoch, and work that was begun in an earlier one may no longer write.
-/

namespace AccountManager

open Storage

/-- The cached record, and whether a record that was signed out may still be in the store. -/
structure Session (σ : Type) where
  store : σ
  cached : Option CredentialRecord := none
  pendingClear : Bool := false
  epoch : Nat := 0
  deriving Repr, DecidableEq

/-- A record together with the epoch it was seen in. -/
structure SignedInUser where
  record : CredentialRecord
  generation : Nat
  deriving Repr, DecidableEq

namespace Session

def target : String := "fxaccounts_core::session"

def debug (message : String) : Effect := .log ⟨.debug, target, message⟩

def info (message : String) : Effect := .log ⟨.info, target, message⟩

def warn (message : String) : Effect := .log ⟨.warn, target, message⟩

variable {σ : Type}

/-- The session as it may be shown to people. -/
def description (session : Session σ) : String :=
  Text.describedPartly "SessionController" [("epoch", toString session.epoch)]

def evict (session : Session σ) : Session σ := { session with cached := none }

variable [CredentialStore σ]

/-- The signed-in user, loaded from the store if nothing is cached. -/
def snapshot (session : Session σ) :
    Step (Session σ) (Except StorageError (Option SignedInUser)) :=
  match session.cached with
  | some record => ⟨.ok (some ⟨record, session.epoch⟩), session, []⟩
  | none =>
    if session.pendingClear then ⟨.ok none, session, []⟩
    else
      match CredentialStore.get session.store with
      | .error error => ⟨.error error, session, []⟩
      | .ok none => ⟨.ok none, session, []⟩
      | .ok (some record) =>
        ⟨.ok (some ⟨record, session.epoch⟩), { session with cached := some record },
          [debug "loaded signed-in user from storage"]⟩

/-- Makes a record the signed-in user, once the store accepted it. -/
def signIn (session : Session σ) (record : CredentialRecord) :
    Step (Session σ) (Except StorageError Unit) :=
  match CredentialStore.put session.store record with
  | (.error error, store) => ⟨.error error, { session with store }, []⟩
  | (.ok (), store) =>
    ⟨.ok (),
      { store, cached := some record, pendingClear := false, epoch := session.epoch + 1 },
      [info "user signed in", .event .login]⟩

/-- Forgets the signed-in user, whether or not the store can be erased. -/
def signOut (session : Session σ) : Step (Session σ) (Except StorageError Unit) :=
  match CredentialStore.clear session.store with
  | (.error error, store) =>
    ⟨.error error,
      { store, cached := none, pendingClear := true, epoch := session.epoch + 1 },
      [warn ("signed out, but the stored record could not be erased: " ++ error.message),
        .event .logout]⟩
  | (.ok (), store) =>
    ⟨.ok (),
      { store, cached := none, pendingClear := false, epoch := session.epoch + 1 },
      [info "user signed out", .event .logout]⟩

/-- Writes a record, unless the epoch has moved on. -/
def commit (session : Session σ) (generation : Nat) (record : CredentialRecord) :
    Step (Session σ) (Except AccountError Unit) :=
  if session.epoch ≠ generation then
    ⟨.error .notSignedIn, session, [warn "discarding account update for a signed-out session"]⟩
  else
    match CredentialStore.put session.store record with
    | (.error error, store) => ⟨.error (.storage error), { session with store }, []⟩
    | (.ok (), store) => ⟨.ok (), { session with store, cached := some record }, []⟩

end Session

end AccountManager
