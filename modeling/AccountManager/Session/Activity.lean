import AccountManager.Session.Keys
import AccountManager.Session.Verification

/-!
# Calls under way

Getting the keys and waiting for verification take several steps, between which other calls go on. A
call waits for the right to fetch keys, for an answer of the service or for its timer; a move lets
exactly one thing happen, and nothing interrupts it.
-/

namespace AccountManager.Session

open Storage

/-- What a call waits for, and what it remembers meanwhile. -/
inductive Waiting
  | turn
  | keys (user : SignedInUser) (unwrapBKey : String)
  | status (poll : Poll)
  | timer (poll : Poll)
  deriving Repr, DecidableEq

/-- A session and its calls under way. One call at a time may fetch keys; the others queue for
it. -/
structure Activity (σ : Type) where
  session : Session σ
  polling : Polling
  fetching : Option CallId := none
  queue : List CallId := []
  calls : List (CallId × Waiting) := []
  deriving Repr, DecidableEq

inductive Move (σ : Type)
  | look
  | evict
  | signIn (record : CredentialRecord)
  | signOut
  | beginKeys (id : CallId)
  | takeTurn (id : CallId)
  | answerKeys (id : CallId) (answer : Except RemoteError KeyBundle)
  | beginVerification (id : CallId) (record : CredentialRecord)
  | answerStatus (id : CallId) (answer : Except RemoteError Bool)
  | wake (id : CallId)
  | drop (id : CallId)
  | alterStore (change : σ → σ)

inductive Reply
  | none
  | user (user : Except StorageError (Option CredentialRecord))
  | stored (result : Except StorageError Unit)

namespace Activity

variable {σ : Type}

def waiting? (activity : Activity σ) (id : CallId) : Option Waiting :=
  (activity.calls.find? fun call => call.1 = id).map Prod.snd

def forget (activity : Activity σ) (id : CallId) : Activity σ :=
  { activity with calls := activity.calls.filter fun call => call.1 ≠ id }

/-- Lets a call wait, behind the calls that were begun before it. -/
def suspend (activity : Activity σ) (id : CallId) (waiting : Waiting) : Activity σ :=
  if (activity.waiting? id).isSome then
    { activity with
      calls := activity.calls.map fun call => if call.1 = id then (id, waiting) else call }
  else { activity with calls := activity.calls ++ [(id, waiting)] }

/-- Passes the right to fetch keys on to the call that has queued longest. -/
def passTurn (activity : Activity σ) : Activity σ :=
  match activity.queue with
  | [] => { activity with fetching := none }
  | next :: rest => { activity with fetching := some next, queue := rest }

/-- Ends a call that held the right to fetch keys. -/
def returnKeys (activity : Activity σ) (id : CallId)
    (result : Except AccountError CredentialRecord) (effects : List Effect) :
    Step (Activity σ) Reply :=
  ⟨.none, (activity.forget id).passTurn, effects ++ [.returned id (result.map .record)]⟩

def continuePoll (activity : Activity σ) (id : CallId)
    (step : Step (Session σ) (Except AccountError PollPlan)) : Step (Activity σ) Reply :=
  let activity := { activity with session := step.state }
  match step.result with
  | .error error =>
    ⟨.none, activity.forget id, step.effects ++ [.returned id (.error error)]⟩
  | .ok (.verified record) =>
    ⟨.none, activity.forget id, step.effects ++ [.returned id (.ok (.record record))]⟩
  | .ok (.ask poll) => ⟨.none, activity.suspend id (.status poll), step.effects⟩
  | .ok (.sleep poll) => ⟨.none, activity.suspend id (.timer poll), step.effects⟩

/-- Drops a call where it waits; a right that it held or was next to get passes on. -/
def dropCall (activity : Activity σ) (id : CallId) : Activity σ :=
  let rest := activity.forget id
  if activity.fetching = some id then rest.passTurn
  else { rest with queue := rest.queue.filter (· ≠ id) }

variable [CredentialStore σ]

/-- Begins to get the keys for a call that holds the right to fetch them. -/
def enterKeys (activity : Activity σ) (id : CallId) : Step (Activity σ) Reply :=
  let begun := activity.session.beginKeys
  let activity := { activity with session := begun.state }
  match begun.result with
  | .error error => activity.returnKeys id (.error error) begun.effects
  | .ok (.present record) => activity.returnKeys id (.ok record) begun.effects
  | .ok (.fetch user _ unwrapBKey) =>
    ⟨.none, activity.suspend id (.keys user unwrapBKey), begun.effects⟩

/-- Lets one thing happen, if it can. -/
def step? (activity : Activity σ) : Move σ → Option (Step (Activity σ) Reply)
  | .look =>
    let looked := activity.session.snapshot
    let found := looked.result.map fun user => user.map SignedInUser.record
    some ⟨.user found, { activity with session := looked.state }, looked.effects⟩
  | .evict => some ⟨.none, { activity with session := activity.session.evict }, []⟩
  | .signIn record =>
    let signed := activity.session.signIn record
    some ⟨.stored signed.result, { activity with session := signed.state }, signed.effects⟩
  | .signOut =>
    let signed := activity.session.signOut
    some ⟨.stored signed.result, { activity with session := signed.state }, signed.effects⟩
  | .beginKeys id =>
    if (activity.waiting? id).isSome then none
    else if activity.fetching.isNone then
      some (enterKeys { activity with fetching := some id } id)
    else
      let queued := { activity with queue := activity.queue ++ [id] }
      some ⟨.none, queued.suspend id .turn, []⟩
  | .takeTurn id =>
    if activity.fetching = some id ∧ activity.waiting? id = some .turn then
      some (activity.enterKeys id)
    else none
  | .answerKeys id answer =>
    match activity.waiting? id with
    | some (.keys user unwrapBKey) =>
      let finished := activity.session.finishKeys user unwrapBKey answer
      some (returnKeys { activity with session := finished.state } id finished.result
        finished.effects)
    | _ => none
  | .beginVerification id record =>
    if (activity.waiting? id).isSome then none
    else some (activity.continuePoll id (activity.session.beginVerification record))
  | .answerStatus id answer =>
    match activity.waiting? id with
    | some (.status poll) =>
      some (activity.continuePoll id
        (activity.session.answerStatus activity.polling poll answer))
    | _ => none
  | .wake id =>
    match activity.waiting? id with
    | some (.timer poll) => some (activity.continuePoll id (activity.session.ask poll))
    | _ => none
  | .drop id =>
    if (activity.waiting? id).isSome then some ⟨.none, activity.dropCall id, []⟩ else none
  | .alterStore change =>
    let session := { activity.session with store := change activity.session.store }
    some ⟨.none, { activity with session }, []⟩

end Activity

end AccountManager.Session
