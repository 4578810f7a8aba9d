import AccountManager.Accounts.Activity
import AccountManager.Event
import AccountManager.Rehearsal.Gate

/-!
# Playing against a scripted service

The account manager, or a session alone, plays against an identity service whose answers are written
down beforehand and may be held up at gates. Time passes only when the play says so.
-/

namespace AccountManager.Rehearsal

open Storage

/-- Who plays. -/
inductive Subject (σ : Type)
  | session (activity : Session.Activity σ)
  | accounts (activity : Accounts.Activity σ)

namespace Subject

variable {σ : Type}

def activity : Subject σ → Session.Activity σ
  | .session activity => activity
  | .accounts activity => activity.accounts.activity

def accounts? : Subject σ → Option (Accounts.Activity σ)
  | .session _ => none
  | .accounts activity => some activity

def description : Subject σ → String
  | .session activity => activity.session.description
  | .accounts activity => activity.accounts.description

/-- The request for a certificate that a call waits for. -/
def requestOf? (subject : Subject σ) (id : CallId) : Option Nat :=
  (subject.accounts?.bind (·.wait? id)).map Accounts.CertificateWait.requestId

/-- Whether anybody still wants the answer to a request. -/
def wants (subject : Subject σ) (requestId : Nat) : Bool :=
  match subject.accounts? with
  | none => false
  | some activity =>
    activity.accounts.provisioner.inFlight.any (·.requestId = requestId) ||
      activity.waits.any fun wait => wait.2.requestId = requestId

def answered (subject : Subject σ) (requestId : Nat) : Bool :=
  match (subject.accounts?.bind (·.signing? requestId)).bind Accounts.Signing.answer with
  | some _ => true
  | none => false

variable [CredentialStore σ]

def step? (subject : Subject σ) (move : Accounts.Move σ) :
    Option (Step (Subject σ) Session.Reply) :=
  match subject with
  | .accounts activity =>
    (activity.step? move).map fun step => ⟨step.result, .accounts step.state, step.effects⟩
  | .session activity =>
    match move with
    | .session move =>
      (activity.step? move).map fun step => ⟨step.result, .session step.state, step.effects⟩
    | _ => none

end Subject

/-- The answers of the service that are still to be given; certificates are counted, so that those
that nobody wrote down can be told apart. -/
structure Script where
  keys : List (Except RemoteError KeyBundle) := []
  status : List (Except RemoteError Bool) := []
  certificates : List (Except RemoteError String) := []

namespace Script

/-- The next answer of a list, or the one for an empty list. -/
def next {α : Type} (answers : List α) (otherwise : α) : α × List α :=
  match answers with
  | [] => (otherwise, [])
  | answer :: rest => (answer, rest)

def nextKeys (script : Script) : Except RemoteError KeyBundle × Script :=
  let (answer, keys) := next script.keys (.error (.invalidResponse "no keys scripted"))
  (answer, { script with keys })

def nextStatus (script : Script) : Except RemoteError Bool × Script :=
  let (answer, status) := next script.status (.ok true)
  (answer, { script with status })

/-- The answer to the request for a certificate that is `number`-th of all. -/
def nextCertificate (script : Script) (number : Nat) : Except RemoteError String × Script :=
  let (answer, certificates) := next script.certificates (.ok ("cert" ++ toString number))
  (answer, { script with certificates })

def size (script : Script) : Nat :=
  script.keys.length + script.status.length + script.certificates.length

def append (script more : Script) : Script :=
  ⟨script.keys ++ more.keys, script.status ++ more.status,
    script.certificates ++ more.certificates⟩

end Script

/-- A play: who plays, the service, the time in nanoseconds with the calls that sleep, and what was
seen since somebody looked. -/
structure Stage (σ : Type) where
  subject : Subject σ
  script : Script := {}
  keyGate : Gate := {}
  statusGate : Gate := {}
  certificateGate : Gate := {}
  requests : List Nat := []
  time : Nat := 0
  timers : List (CallId × Nat) := []
  calls : List CallId := []
  begun : Nat := 0
  effects : List Effect := []

namespace Stage

variable {σ : Type}

/-- The number, from one, of the request for a certificate among all of them. -/
def requestNumber (stage : Stage σ) (requestId : Nat) : Nat :=
  (stage.requests.takeWhile (· ≠ requestId)).length + 1

/-- Takes note of a call to the service that the call `id` has just begun. -/
def noteCall (id : CallId) (stage : Stage σ) (call : RemoteCall) : Stage σ :=
  match call with
  | .fetchKeys _ => { stage with keyGate := stage.keyGate.arrive id }
  | .checkStatus _ => { stage with statusGate := stage.statusGate.arrive id }
  | .signCertificate _ _ =>
    match stage.subject.requestOf? id with
    | none => stage
    | some requestId =>
      { stage with
        certificateGate := stage.certificateGate.arrive requestId
        requests := stage.requests ++ [requestId] }

/-- Sets the timer of a call that went to sleep, and takes a call that returned off the list. -/
def noteState (id : CallId) (stage : Stage σ) : Stage σ :=
  match stage.subject.activity.waiting? id with
  | some (.timer _) =>
    if stage.timers.any fun timer => timer.1 = id then stage
    else
      let due := stage.time + stage.subject.activity.polling.interval.nanoseconds
      { stage with timers := stage.timers ++ [(id, due)] }
  | _ => stage

/-- Lets the requests go that nobody wants answered any more. -/
def sweep (stage : Stage σ) : Stage σ :=
  let waiting := stage.certificateGate.queue ++ stage.certificateGate.passed
  let unwanted := waiting.filter fun requestId => !stage.subject.wants requestId
  { stage with certificateGate := unwanted.foldl Gate.leave stage.certificateGate }

variable [CredentialStore σ]

def move (stage : Stage σ) (id : CallId) (move : Accounts.Move σ) : Stage σ × Session.Reply :=
  match stage.subject.step? move with
  | none => (stage, .none)
  | some step =>
    let stage := { stage with subject := step.state, effects := stage.effects ++ step.effects }
    let stage := (callsOf step.effects).foldl (noteCall id) stage
    let returned := (returnedOf step.effects).map Prod.fst
    let stage := { stage with calls := stage.calls.filter fun call => !returned.contains call }
    ((noteState id stage).sweep, step.result)

def advance? (stage : Stage σ) (id : CallId) : Option (Stage σ) :=
  match stage.subject.activity.waiting? id with
  | some .turn =>
    if stage.subject.activity.fetching = some id then
      some (stage.move id (.session (.takeTurn id))).1
    else none
  | some (.keys _ _) =>
    if stage.keyGate.passed.contains id then
      let (answer, script) := stage.script.nextKeys
      let stage := { stage with script, keyGate := stage.keyGate.use id }
      some (stage.move id (.session (.answerKeys id answer))).1
    else none
  | some (.status _) =>
    if stage.statusGate.passed.contains id then
      let (answer, script) := stage.script.nextStatus
      let stage := { stage with script, statusGate := stage.statusGate.use id }
      some (stage.move id (.session (.answerStatus id answer))).1
    else none
  | some (.timer _) =>
    if stage.timers.any fun timer => timer.1 = id && timer.2 ≤ stage.time then
      let stage := { stage with timers := stage.timers.filter fun timer => timer.1 ≠ id }
      some (stage.move id (.session (.wake id))).1
    else none
  | none =>
    match stage.subject.requestOf? id with
    | none => none
    | some requestId =>
      if stage.subject.answered requestId then some (stage.move id (.resume id)).1
      else if stage.certificateGate.passed.contains requestId then
        let (answer, script) := stage.script.nextCertificate (stage.requestNumber requestId)
        let stage :=
          { stage with script, certificateGate := stage.certificateGate.use requestId }
        some (stage.move id (.answerCertificate requestId answer)).1
      else none

/-- Lets a call go on until it has to wait. -/
def runCall (id : CallId) : Nat → Stage σ → Stage σ
  | 0, stage => stage
  | fuel + 1, stage =>
    match stage.advance? id with
    | none => stage
    | some next => runCall id fuel next

/-- A bound on how often calls can go on before all of them have to wait. -/
def patience (stage : Stage σ) : Nat := 4 * (stage.script.size + 4 * stage.calls.length + 8)

/-- Lets the first of some calls go on that can. -/
def advanceFirst? (stage : Stage σ) : List CallId → Option (CallId × Stage σ)
  | [] => none
  | id :: rest =>
    match stage.advance? id with
    | some next => some (id, next)
    | none => stage.advanceFirst? rest

/-- Lets the calls go on, each in its turn, until all of them have to wait. -/
def settleFrom : Nat → Stage σ → Stage σ
  | 0, stage => stage
  | fuel + 1, stage =>
    match stage.advanceFirst? stage.calls with
    | none => stage
    | some (id, next) => settleFrom fuel (runCall id next.patience next)

def settle (stage : Stage σ) : Stage σ := settleFrom stage.patience stage

/-! ### Time -/

/-- The time at which the next sleeping call wakes. -/
def nextTimer? (stage : Stage σ) : Option Nat :=
  stage.timers.foldl (fun least timer => some (least.elim timer.2 (min timer.2))) none

/-- Lets time pass up to `goal`, waking the calls that are due on the way. -/
def passTime (goal : Nat) : Nat → Stage σ → Stage σ
  | 0, stage => { stage with time := goal }
  | fuel + 1, stage =>
    match stage.nextTimer? with
    | none => { stage with time := goal }
    | some due =>
      if goal < due then { stage with time := goal }
      else passTime goal fuel (settle { stage with time := max due stage.time })

def wait (stage : Stage σ) (milliseconds : Nat) : Stage σ :=
  passTime (stage.time + (Elapsed.ofMilliseconds milliseconds).nanoseconds) stage.patience stage

/-- Lets time pass until a call has returned, or until no time can help it. -/
def finish (id : CallId) : Nat → Stage σ → Stage σ
  | 0, stage => stage
  | fuel + 1, stage =>
    let stage := settle (runCall id stage.patience stage)
    if stage.calls.contains id then
      match stage.nextTimer? with
      | none => stage
      | some due => finish id fuel { stage with time := max due stage.time }
    else stage

/-! ### Calls -/

/-- What can be asked of the account manager that takes more than one step. -/
inductive Request
  | keys
  | verification (record : CredentialRecord)
  | assertion (audience : String)

def Request.move (request : Request) (id : CallId) : Accounts.Move σ :=
  match request with
  | .keys => .session (.beginKeys id)
  | .verification record => .session (.beginVerification id record)
  | .assertion audience => .beginAssertion id audience

def enter (stage : Stage σ) (request : Request) : CallId × Stage σ :=
  let id := stage.begun + 1
  let stage := { stage with begun := id, calls := stage.calls ++ [id] }
  (id, (stage.move id (request.move id)).1)

def begin (stage : Stage σ) (request : Request) : CallId × Stage σ :=
  let (id, stage) := stage.enter request
  (id, runCall id stage.patience stage)

/-- Begins a call and lets it come to its end. -/
def perform (stage : Stage σ) (request : Request) : CallId × Stage σ :=
  let (id, stage) := stage.begin request
  (id, finish id stage.patience stage)

def drop (stage : Stage σ) (id : CallId) : Stage σ :=
  let stage :=
    { stage with
      keyGate := stage.keyGate.leave id
      statusGate := stage.statusGate.leave id
      timers := stage.timers.filter fun timer => timer.1 ≠ id
      calls := stage.calls.filter (· ≠ id) }
  if (stage.subject.activity.waiting? id).isSome then (stage.move id (.session (.drop id))).1
  else (stage.move id (.drop id)).1

end Stage

end AccountManager.Rehearsal
