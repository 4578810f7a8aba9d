import AccountManager.Accounts.Basic
import AccountManager.Proofs.Session.Announcements

/-!
# Polling

A wait for verification checks the address, sleeps if the answer is negative and checks again, as
long as its epoch lasts and no more often than it may. `Course` is all that its own moves can be,
among whatever moves of others they are made. What the wait returns is a matter of the answers
alone, which `verdict` decides, unless an epoch begins on the way.
-/

namespace AccountManager.Session

open Storage

variable {σ : Type}

/-! ### What a wait is to do -/

/-- A wait for verification as it is begun: the call it belongs to, the epoch it begins in, the
token it checks with, and how it is to poll. -/
structure Errand where
  id : CallId
  epoch : Nat
  token : String
  polling : Polling

inductive Standing
  | checking
  | sleeping
  | ended

/-- What a wait that has made `count` checks waits for. -/
def Errand.waiting? (errand : Errand) (count : Nat) : Standing → Option Waiting
  | .checking => some (.status ⟨errand.epoch, errand.token, count⟩)
  | .sleeping => some (.timer ⟨errand.epoch, errand.token, count⟩)
  | .ended => none

inductive Verdict
  | undecided
  | failed (error : RemoteError)
  | timedOut
  | verified

/-- How a wait that may make `limit` checks has to end, by the answers to them. -/
def verdict : Nat → List (Except RemoteError Bool) → Verdict
  | 0, _ => .timedOut
  | _ + 1, [] => .undecided
  | _ + 1, .error error :: _ => .failed error
  | _ + 1, .ok true :: _ => .verified
  | limit + 1, .ok false :: rest => verdict limit rest

theorem verdict_replicate_append (count limit : Nat) (rest : List (Except RemoteError Bool)) :
    verdict (count + limit) (List.replicate count (.ok false) ++ rest) = verdict limit rest := by
  induction count with
  | zero => rw [Nat.zero_add, List.replicate_zero, List.nil_append]
  | succ count ih =>
    rw [Nat.add_right_comm]
    exact ih

/-- The answer that a move of a wait brings. -/
def Move.status? : Move σ → Option (Except RemoteError Bool)
  | .answerStatus _ answer => some answer
  | _ => none

/-- The checks that some moves start, with the epochs in which they do. -/
def checksIn (moves : History σ) : List (Nat × RemoteCall) :=
  moves.flatMap fun made =>
    (callsOf made.step.effects).map fun call => (made.before.session.epoch, call)

def answersIn (moves : History σ) : List (Except RemoteError Bool) :=
  moves.filterMap fun made => made.move.status?

def returnedIn (moves : History σ) : List (CallId × Except AccountError Answer) :=
  moves.flatMap fun made => returnedOf made.step.effects

section Lists

variable (moves others : History σ) (made : Made (Activity σ) (Move σ) Reply)

@[simp] theorem checksIn_append :
    checksIn (moves ++ others) = checksIn moves ++ checksIn others := List.flatMap_append

@[simp] theorem checksIn_singleton :
    checksIn [made] =
      (callsOf made.step.effects).map fun call => (made.before.session.epoch, call) :=
  List.flatMap_singleton _ _

@[simp] theorem answersIn_append :
    answersIn (moves ++ others) = answersIn moves ++ answersIn others := List.filterMap_append

@[simp] theorem answersIn_singleton : answersIn [made] = made.move.status?.toList := by
  unfold answersIn
  cases hstatus : made.move.status? <;> simp [hstatus]

@[simp] theorem returnedIn_append :
    returnedIn (moves ++ others) = returnedIn moves ++ returnedIn others := List.flatMap_append

@[simp] theorem returnedIn_singleton : returnedIn [made] = returnedOf made.step.effects :=
  List.flatMap_singleton _ _

end Lists

variable [CredentialStore σ]

namespace Activity

variable {activity start finish : Activity σ} {move : Move σ} {step : Step (Activity σ) Reply}
  {past later own : History σ} {made begun : Made (Activity σ) (Move σ) Reply} {id : CallId}
  {errand : Errand} {count : Nat} {standing : Standing}

/-! ### What a wait does -/

/-- What is seen of a move that leaves the session alone. -/
structure Merely (made : Made (Activity σ) (Move σ) Reply) (effects : List Effect) : Prop where
  session : made.after.session = made.before.session
  effects : made.step.effects = effects

/-- How a wait ends that goes on to mark the record of the signed-in user: well, or because the
store refuses the record, or because the user cannot be seen, is not there or belongs to another
epoch. -/
inductive EndsMarking (errand : Errand) (made : Made (Activity σ) (Move σ) Reply) : Prop
  | marked {record : CredentialRecord}
      (hconfirms : made.before.Confirms errand.id record made.move made.step) :
      EndsMarking errand made
  | refused {user : SignedInUser} {error : StorageError} {store : σ}
      (hepoch : made.before.session.epoch = errand.epoch)
      (hlooked : made.before.session.snapshot.result = .ok (some user))
      (hput : CredentialStore.put made.before.session.store
        { user.record with isVerified := true } = (.error error, store))
      (hreturned : returnedOf made.step.effects = [(errand.id, .error (.storage error))]) :
      EndsMarking errand made
  | unreadable {error : StorageError}
      (hlooked : made.before.session.snapshot.result = .error error)
      (hreturned : returnedOf made.step.effects = [(errand.id, .error (.storage error))]) :
      EndsMarking errand made
  | nobody (hlooked : made.before.session.snapshot.result = .ok none)
      (hreturned : returnedOf made.step.effects = [(errand.id, .error .notSignedIn)]) :
      EndsMarking errand made
  | late (hepoch : made.before.session.epoch ≠ errand.epoch)
      (hreturned : returnedOf made.step.effects = [(errand.id, .error .notSignedIn)]) :
      EndsMarking errand made

/-- The moves of a wait, with the number of its checks and where it stands. Each check is answered
before the next one, a wait checks again only out of a sleep, and it makes no more moves once it is
over. -/
inductive Course (errand : Errand) : History σ → Nat → Standing → Prop
  | begins {made : Made (Activity σ) (Move σ) Reply} {given : CredentialRecord}
      (hmove : made.move = .beginVerification errand.id given)
      (hepoch : made.before.session.epoch = errand.epoch)
      (hmerely : Merely made [.call (.checkStatus errand.token)]) :
      Course errand [made] 1 .checking
  | sleeps {own : History σ} {count : Nat} {made : Made (Activity σ) (Move σ) Reply}
      (h : Course errand own count .checking)
      (hmove : made.move = .answerStatus errand.id (.ok false))
      (hmore : count < errand.polling.limit)
      (hmerely : Merely made
        [debug ("email not verified yet, checking again in " ++ errand.polling.interval.text)]) :
      Course errand (own ++ [made]) count .sleeping
  | checksAgain {own : History σ} {count : Nat} {made : Made (Activity σ) (Move σ) Reply}
      (h : Course errand own count .sleeping) (hmove : made.move = .wake errand.id)
      (hepoch : made.before.session.epoch = errand.epoch)
      (hmerely : Merely made [.call (.checkStatus errand.token)]) :
      Course errand (own ++ [made]) (count + 1) .checking
  | stops {own : History σ} {count : Nat} {made : Made (Activity σ) (Move σ) Reply}
      (h : Course errand own count .sleeping) (hmove : made.move = .wake errand.id)
      (hepoch : made.before.session.epoch ≠ errand.epoch)
      (hmerely : Merely made [debug "stopped verification polling after sign-out",
        .returned errand.id (.error .notSignedIn)]) :
      Course errand (own ++ [made]) count .ended
  | fails {own : History σ} {count : Nat} {made : Made (Activity σ) (Move σ) Reply}
      {error : RemoteError} (h : Course errand own count .checking)
      (hmove : made.move = .answerStatus errand.id (.error error))
      (hmerely : Merely made [.returned errand.id (.error (.remoteCall error))]) :
      Course errand (own ++ [made]) count .ended
  | timesOut {own : History σ} {count : Nat} {made : Made (Activity σ) (Move σ) Reply}
      (h : Course errand own count .checking)
      (hmove : made.move = .answerStatus errand.id (.ok false))
      (hlast : errand.polling.limit ≤ count)
      (hmerely : Merely made
        [.returned errand.id (.error (.verificationTimedOut errand.polling.limit))]) :
      Course errand (own ++ [made]) count .ended
  | marks {own : History σ} {count : Nat} {made : Made (Activity σ) (Move σ) Reply}
      (h : Course errand own count .checking)
      (hmove : made.move = .answerStatus errand.id (.ok true))
      (hcalls : callsOf made.step.effects = []) (hends : EndsMarking errand made) :
      Course errand (own ++ [made]) count .ended
  | dropped {own : History σ} {count : Nat} {standing : Standing}
      {made : Made (Activity σ) (Move σ) Reply} (h : Course errand own count standing)
      (hopen : standing ≠ .ended) (hmove : made.move = .drop errand.id) (hmerely : Merely made []) :
      Course errand (own ++ [made]) count .ended

/-! ### One move of a wait -/

theorem endsMarking {poll : Poll} (hwaiting : activity.waiting? errand.id = some (.status poll))
    (hepoch : poll.generation = errand.epoch) :
    EndsMarking errand ⟨activity, .answerStatus errand.id (.ok true),
      activity.continuePoll errand.id
        (activity.session.answerStatus activity.polling poll (.ok true))⟩ := by
  have hnone := activity.session.returnedOf_answerStatus activity.polling poll (.ok true)
  have hanswered : (activity.session.answerStatus activity.polling poll (.ok true)).result =
      (activity.session.finishVerification poll.generation).result.map .verified := rfl
  cases hfinished : (activity.session.finishVerification poll.generation).result with
  | ok record =>
    rw [hfinished] at hanswered
    exact .marked (confirms_of_verified hwaiting hanswered)
  | error error =>
    rw [hfinished] at hanswered
    have hreturned : returnedOf (activity.continuePoll errand.id
        (activity.session.answerStatus activity.polling poll (.ok true))).effects =
          [(errand.id, .error error)] := by
      unfold continuePoll
      simp [hanswered, hnone, Except.map]
    rw [hepoch] at hfinished
    rcases of_finishVerification_eq_error hfinished with ⟨cause, hlooked, rfl⟩ | ⟨hlooked, rfl⟩ |
      ⟨hlate, rfl⟩ | ⟨hcurrent, user, cause, store, hlooked, hput, rfl⟩
    · exact .unreadable hlooked hreturned
    · exact .nobody hlooked hreturned
    · exact .late hlate hreturned
    · exact .refused hcurrent hlooked hput hreturned

theorem Course.concat_wake (h : Course errand own count .sleeping)
    (hmove : made.move = .wake errand.id)
    (hstep : made.step = made.before.continuePoll errand.id
      (made.before.session.ask ⟨errand.epoch, errand.token, count⟩)) :
    ∃ next after, Course errand (own ++ [made]) next after ∧
      made.after.waiting? errand.id = errand.waiting? next after := by
  have hsession : made.after.session = made.before.session := by
    rw [Made.after, hstep, session_continuePoll, ask_state]
  by_cases hepoch : made.before.session.epoch = errand.epoch
  · rw [ask_of_current hepoch] at hstep
    refine ⟨count + 1, .checking, h.checksAgain hmove hepoch ⟨hsession, ?_⟩, ?_⟩
    · rw [hstep]
      rfl
    · simp [Made.after, hstep, Except.toOption, PollPlan.waiting?, Errand.waiting?]
  · rw [ask_of_stale hepoch] at hstep
    refine ⟨count, .ended, h.stops hmove hepoch ⟨hsession, ?_⟩, ?_⟩
    · rw [hstep]
      rfl
    · simp [Made.after, hstep, Except.toOption, Errand.waiting?]

theorem Course.concat_answer (h : Course errand own count .checking)
    (answer : Except RemoteError Bool)
    (hwaiting : made.before.waiting? errand.id = errand.waiting? count .checking)
    (hpolling : made.before.polling = errand.polling)
    (hmove : made.move = .answerStatus errand.id answer)
    (hstep : made.step = made.before.continuePoll errand.id (made.before.session.answerStatus
      errand.polling ⟨errand.epoch, errand.token, count⟩ answer)) :
    ∃ next after, Course errand (own ++ [made]) next after ∧
      made.after.waiting? errand.id = errand.waiting? next after := by
  match answer with
  | .error error =>
    refine ⟨count, .ended, h.fails hmove ⟨?_, ?_⟩, ?_⟩
    · simp [Made.after, hstep, Session.answerStatus]
    · rw [hstep]
      rfl
    · simp [Made.after, hstep, Session.answerStatus, Except.toOption, Errand.waiting?]
  | .ok true =>
    refine ⟨count, .ended, h.marks hmove ?_ ?_, ?_⟩
    · rw [hstep, callsOf_continuePoll, callsOf_answerStatus]
    · obtain ⟨before, move, step⟩ := made
      dsimp only at hmove hstep hwaiting hpolling
      subst hmove hstep
      rw [← hpolling]
      exact endsMarking hwaiting rfl
    · rw [Made.after, hstep, waiting?_continuePoll, if_pos rfl]
      cases hfinished : (made.before.session.finishVerification errand.epoch).result <;>
        simp [Session.answerStatus, hfinished, Except.map, Except.toOption, PollPlan.waiting?,
          Errand.waiting?]
  | .ok false =>
    by_cases hmore : count < errand.polling.limit
    · refine ⟨count, .sleeping, h.sleeps hmove hmore ⟨?_, ?_⟩, ?_⟩
      · simp [Made.after, hstep, Session.answerStatus, hmore]
      · simp [hstep, continuePoll, Session.answerStatus, hmore]
      · simp [Made.after, hstep, Session.answerStatus, hmore, Except.toOption, PollPlan.waiting?,
          Errand.waiting?]
    · refine ⟨count, .ended, h.timesOut hmove (Nat.le_of_not_lt hmore) ⟨?_, ?_⟩, ?_⟩
      · simp [Made.after, hstep, Session.answerStatus, hmore]
      · simp [hstep, continuePoll, Session.answerStatus, hmore]
      · simp [Made.after, hstep, Session.answerStatus, hmore, Except.toOption, Errand.waiting?]

/-- A move that belongs to a wait takes it one step further. -/
theorem Course.concat (h : Course errand own count standing)
    (hstep : made.before.step? made.move = some made.step)
    (hwaiting : made.before.waiting? errand.id = errand.waiting? count standing)
    (hpolling : made.before.polling = errand.polling)
    (hcaller : made.move.caller? = some errand.id) (hbegins : ¬ made.move.Begins errand.id) :
    ∃ next after, Course errand (own ++ [made]) next after ∧
      made.after.waiting? errand.id = errand.waiting? next after := by
  have hallows := allows_of_step? hstep
  generalize hmove : made.move = move at hallows hcaller hbegins
  generalize hgiven : made.step = step at hallows
  cases hallows with
  | look | evict | signIn | signOut | alterStore => cases hcaller
  | beginKeys | queueKeys | beginVerification => exact absurd (Option.some.inj hcaller) hbegins
  | takeTurn hturn hother | answerKeys hother =>
    cases hcaller
    rw [hwaiting] at hother
    cases standing <;> cases hother
  | wake hother =>
    cases hcaller
    rw [hwaiting] at hother
    cases standing <;> cases hother
    exact h.concat_wake hmove hgiven
  | answerStatus hother answer =>
    cases hcaller
    have hsame := hwaiting.symm.trans hother
    cases standing <;> cases hsame
    exact h.concat_answer answer hwaiting hpolling hmove (hpolling ▸ hgiven)
  | drop hother =>
    cases hcaller
    refine ⟨count, .ended, h.dropped ?_ hmove ⟨?_, ?_⟩, ?_⟩
    · rintro rfl
      cases hwaiting.symm.trans hother
    · simp [Made.after, hgiven]
    · rw [hgiven]
    · simp [Made.after, hgiven, Errand.waiting?]

/-! ### A whole wait -/

omit [CredentialStore σ] in
@[simp] theorem polling_suspend (activity : Activity σ) (id : CallId) (waiting : Waiting) :
    (activity.suspend id waiting).polling = activity.polling := by
  unfold suspend
  split <;> rfl

omit [CredentialStore σ] in
@[simp] theorem polling_passTurn (activity : Activity σ) :
    activity.passTurn.polling = activity.polling := by
  unfold passTurn
  split <;> rfl

omit [CredentialStore σ] in
@[simp] theorem polling_returnKeys (activity : Activity σ) (id : CallId)
    (result : Except AccountError CredentialRecord) (effects : List Effect) :
    (activity.returnKeys id result effects).state.polling = activity.polling :=
  polling_passTurn _

omit [CredentialStore σ] in
@[simp] theorem polling_continuePoll (activity : Activity σ) (id : CallId)
    (continued : Step (Session σ) (Except AccountError PollPlan)) :
    (activity.continuePoll id continued).state.polling = activity.polling := by
  unfold continuePoll
  dsimp only
  split <;> simp [forget]

@[simp] theorem polling_enterKeys (activity : Activity σ) (id : CallId) :
    (activity.enterKeys id).state.polling = activity.polling := by
  unfold enterKeys
  dsimp only
  split <;> simp

theorem polling_of_step? (hstep : activity.step? move = some step) :
    step.state.polling = activity.polling := by
  cases allows_of_step? hstep with
  | look | evict | signIn | signOut | alterStore => rfl
  | beginKeys | queueKeys | takeTurn | answerKeys | beginVerification | answerStatus | wake => simp
  | drop =>
    unfold dropCall
    dsimp only
    split
    · exact polling_passTurn _
    · rfl

theorem denied_of_timer {poll : Poll} (hstep : activity.step? move = some step)
    (hcaller : move.caller? = some id) (hafter : step.state.waiting? id = some (.timer poll)) :
    move = .answerStatus id (.ok false) := by
  cases allows_of_step? hstep with
  | look | evict | signIn | signOut | alterStore => cases hcaller
  | beginKeys | takeTurn =>
    cases hcaller
    obtain ⟨user, token, unwrapBKey, hkeys, -⟩ := of_waiting?_enterKeys hafter
    cases hkeys
  | queueKeys | answerKeys | drop =>
    cases hcaller
    simp at hafter
  | beginVerification hnew given =>
    cases hcaller
    obtain ⟨plan, hresult, hplan⟩ := of_waiting?_continuePoll hafter
    rcases of_beginVerification_eq_ok hresult with ⟨-, rfl⟩ | ⟨-, token, -, hask⟩
    · cases hplan
    · rw [hask] at hresult
      obtain ⟨-, rfl, -⟩ := of_ask_eq_ok hresult
      cases hplan
  | wake hwaiting =>
    cases hcaller
    obtain ⟨plan, hresult, hplan⟩ := of_waiting?_continuePoll hafter
    obtain ⟨-, rfl, -⟩ := of_ask_eq_ok hresult
    cases hplan
  | answerStatus hwaiting answer =>
    cases hcaller
    obtain ⟨plan, hresult, hplan⟩ := of_waiting?_continuePoll hafter
    match answer with
    | .error error => cases hresult
    | .ok false => rfl
    | .ok true =>
      unfold Session.answerStatus at hresult
      dsimp only at hresult
      generalize (activity.session.finishVerification _).result = finished at hresult
      cases finished <;> cases hresult
      cases hplan

theorem course_of_begins {given : CredentialRecord}
    (hstep : made.before.step? made.move = some made.step)
    (hmove : made.move = .beginVerification errand.id given)
    (hunverified : given.isVerified = false)
    (htoken : given.sessionToken = some errand.token)
    (hepoch : made.before.session.epoch = errand.epoch) :
    Course errand [made] 1 .checking ∧
      made.after.waiting? errand.id = errand.waiting? 1 .checking := by
  have hbegun : made.before.session.beginVerification given =
      ⟨.ok (.ask ⟨errand.epoch, errand.token, 1⟩), made.before.session,
        [.call (.checkStatus errand.token)]⟩ := by
    simp [Session.beginVerification, hunverified, htoken, hepoch, ask]
  have hgiven : made.step = made.before.continuePoll errand.id
      (made.before.session.beginVerification given) := by
    rw [hmove] at hstep
    generalize made.step = step at hstep
    cases allows_of_step? hstep with
    | beginVerification => rfl
  rw [hbegun] at hgiven
  refine ⟨.begins hmove hepoch ⟨?_, ?_⟩, ?_⟩
  · simp [Made.after, hgiven]
  · rw [hgiven]
    rfl
  · simp [Made.after, hgiven, Except.toOption, PollPlan.waiting?, Errand.waiting?]

def movesOf (id : CallId) (moves : History σ) : History σ :=
  moves.filter fun made => made.move.caller? = some id

/-- What a wait has done up to the end of a run, and what it waits for then. -/
theorem course_of_run {given : CredentialRecord}
    (run : Run step? start (past ++ begun :: later) finish)
    (hpolling : start.polling = errand.polling)
    (hmove : begun.move = .beginVerification errand.id given)
    (hunverified : given.isVerified = false) (htoken : given.sessionToken = some errand.token)
    (hepoch : begun.before.session.epoch = errand.epoch)
    (honce : ∀ other ∈ later, ¬ other.move.Begins errand.id) :
    ∃ count standing, Course errand (begun :: movesOf errand.id later) count standing ∧
      finish.waiting? errand.id = errand.waiting? count standing := by
  refine run.induction_after (P := fun between activity => ∃ count standing,
    Course errand (begun :: movesOf errand.id between) count standing ∧
      activity.waiting? errand.id = errand.waiting? count standing) ?_ ?_
  · exact ⟨1, .checking, course_of_begins run.cut.2.1 hmove hunverified htoken hepoch⟩
  · rintro between other hother - hrun hstep ⟨count, standing, hcourse, hwaiting⟩
    unfold movesOf at hcourse ⊢
    rw [List.filter_append, ← List.cons_append]
    by_cases hcaller : other.move.caller? = some errand.id
    · rw [List.filter_cons_of_pos (by simpa using hcaller), List.filter_nil]
      refine hcourse.concat hstep hwaiting ?_ hcaller (honce other hother)
      exact hrun.invariant hpolling fun hstep hbefore => (polling_of_step? hstep).trans hbefore
    · rw [List.filter_cons_of_neg (by simpa using hcaller), List.filter_nil, List.append_nil]
      exact ⟨count, standing, hcourse, (waiting?_of_not_caller hstep hcaller).trans hwaiting⟩

/-! ### What comes of a wait -/

/-- Checks are made in the epoch of the wait and with its token. -/
theorem Course.checks (h : Course errand own count standing) :
    checksIn own = List.replicate count (errand.epoch, .checkStatus errand.token) := by
  induction h with
  | begins hmove hepoch hmerely => simp [hmerely.effects, hepoch]
  | checksAgain h hmove hepoch hmerely ih =>
    simp [ih, hmerely.effects, hepoch, List.replicate_succ']
  | sleeps h hmove hmore hmerely ih => simp [ih, hmerely.effects, debug]
  | stops h hmove hepoch hmerely ih => simp [ih, hmerely.effects, debug]
  | fails h hmove hmerely ih => simp [ih, hmerely.effects]
  | timesOut h hmove hlast hmerely ih => simp [ih, hmerely.effects]
  | marks h hmove hcalls hends ih => simp [ih, hcalls]
  | dropped h hopen hmove hmerely ih => simp [ih, hmerely.effects]

/-- What a wait has been through that got negative answers only. -/
structure Denied (own : History σ) (answers : Nat) : Prop where
  answers : answersIn own = List.replicate answers (.ok false)
  returned : returnedIn own = []

omit [CredentialStore σ] in
theorem Denied.concat {answers : Nat} (h : Denied own answers) (more : Nat)
    (hanswers : made.move.status?.toList = List.replicate more (.ok false))
    (hreturned : returnedOf made.step.effects = []) : Denied (own ++ [made]) (answers + more) := by
  refine ⟨?_, ?_⟩
  · rw [answersIn_append, answersIn_singleton, h.answers, hanswers,
      List.replicate_append_replicate]
  · rw [returnedIn_append, returnedIn_singleton, h.returned, hreturned, List.nil_append]

omit [CredentialStore σ] in
theorem Denied.negative {answers : Nat} (h : Denied own answers) :
    ∀ answer ∈ answersIn own, answer = .ok false := by
  rw [h.answers]
  exact fun answer => List.eq_of_mem_replicate

omit [CredentialStore σ] in
theorem Denied.dropLast {answers : Nat} (h : Denied own answers)
    (made : Made (Activity σ) (Move σ) Reply) :
    ∀ answer ∈ (answersIn (own ++ [made])).dropLast, answer = .ok false := by
  intro answer hanswer
  rw [answersIn_append, answersIn_singleton] at hanswer
  cases hstatus : made.move.status? with
  | none =>
    rw [hstatus, Option.toList_none, List.append_nil] at hanswer
    exact h.negative answer (List.dropLast_subset _ hanswer)
  | some last =>
    rw [hstatus, Option.toList_some, List.dropLast_concat] at hanswer
    exact h.negative answer hanswer

/-- What a wait has been through: it got negative answers only unless it is over, and it has a check
left if it sleeps. -/
inductive SoFar (errand : Errand) (own : History σ) : Nat → Standing → Prop
  | checking {answers : Nat} (hdenied : Denied own answers)
      (hmoves : own.length = 2 * answers + 1) (hleft : answers < errand.polling.limit) :
      SoFar errand own (answers + 1) .checking
  | sleeping {answers : Nat} (hdenied : Denied own answers) (hpositive : 1 ≤ answers)
      (hmoves : own.length = 2 * answers) (hleft : answers < errand.polling.limit) :
      SoFar errand own answers .sleeping
  | ended {count : Nat} (hdenied : ∀ answer ∈ (answersIn own).dropLast, answer = .ok false)
      (hpositive : 1 ≤ count) (hmoves : own.length ≤ 2 * errand.polling.limit)
      (hleft : count ≤ errand.polling.limit) :
      SoFar errand own count .ended

omit [CredentialStore σ] in
theorem SoFar.ended_concat (h : SoFar errand own count standing) (hopen : standing ≠ .ended)
    (made : Made (Activity σ) (Move σ) Reply) : SoFar errand (own ++ [made]) count .ended := by
  cases h with
  | ended => exact absurd rfl hopen
  | checking hdenied hmoves hleft =>
    refine .ended (hdenied.dropLast made) (Nat.le_add_left 1 _) ?_ hleft
    rw [List.length_append, hmoves, List.length_singleton]
    omega
  | sleeping hdenied hpositive hmoves hleft =>
    refine .ended (hdenied.dropLast made) hpositive ?_ (Nat.le_of_lt hleft)
    rw [List.length_append, hmoves, List.length_singleton]
    omega

theorem Course.soFar (h : Course errand own count standing) (hlimit : 1 ≤ errand.polling.limit) :
    SoFar errand own count standing := by
  induction h with
  | begins hmove hepoch hmerely =>
    exact .checking ⟨by simp [hmove, Move.status?], by simp [hmerely.effects]⟩ rfl hlimit
  | sleeps h hmove hmore hmerely ih =>
    cases ih with
    | checking hdenied hmoves hleft =>
      refine .sleeping (hdenied.concat 1 ?_ ?_) (Nat.le_add_left 1 _) ?_ hmore
      · rw [hmove]
        rfl
      · rw [hmerely.effects]
        rfl
      · rw [List.length_append, hmoves]
        rfl
  | checksAgain h hmove hepoch hmerely ih =>
    cases ih with
    | sleeping hdenied hpositive hmoves hleft =>
      refine .checking (hdenied.concat 0 ?_ ?_) ?_ hleft
      · rw [hmove]
        rfl
      · rw [hmerely.effects]
        rfl
      · rw [List.length_append, hmoves]
        rfl
  | stops h hmove hepoch hmerely ih => exact ih.ended_concat nofun _
  | fails h hmove hmerely ih => exact ih.ended_concat nofun _
  | timesOut h hmove hlast hmerely ih => exact ih.ended_concat nofun _
  | marks h hmove hcalls hends ih => exact ih.ended_concat nofun _
  | dropped h hopen hmove hmerely ih => exact ih.ended_concat hopen _

/-- What a wait has returned, by how it has to end; it is not over before that, unless it is
dropped. -/
inductive Settles (errand : Errand) (own : History σ) (standing : Standing) : Verdict → Prop
  | undecided (hnone : returnedIn own = [])
      (hopen : standing ≠ .ended ∨ ∃ made ∈ own, made.move = .drop errand.id) :
      Settles errand own standing .undecided
  | failed (error : RemoteError)
      (hreturned : returnedIn own = [(errand.id, .error (.remoteCall error))]) :
      Settles errand own standing (.failed error)
  | timedOut (hreturned : returnedIn own =
        [(errand.id, .error (.verificationTimedOut errand.polling.limit))]) :
      Settles errand own standing .timedOut
  | verified {made : Made (Activity σ) (Move σ) Reply} (hlast : own.getLast? = some made)
      (hends : EndsMarking errand made)
      (hreturned : returnedIn own = returnedOf made.step.effects) :
      Settles errand own standing .verified

/-- Nothing is decided while the answers are negative and a check is left. -/
theorem Denied.settles {answers : Nat} (h : Denied own answers)
    (hleft : answers < errand.polling.limit)
    (hopen : standing ≠ .ended ∨ ∃ made ∈ own, made.move = .drop errand.id) :
    Settles errand own standing (verdict errand.polling.limit (answersIn own)) := by
  obtain ⟨left, hleft⟩ := Nat.exists_eq_add_of_lt hleft
  rw [h.answers, hleft, Nat.add_assoc, ← List.append_nil (List.replicate _ _),
    verdict_replicate_append]
  exact .undecided h.returned hopen

omit [CredentialStore σ] in
theorem Denied.verdict_concat {answers : Nat} {answer : Except RemoteError Bool}
    (h : Denied own answers) (left : Nat) (hlimit : errand.polling.limit = answers + left + 1)
    (hmove : made.move = .answerStatus errand.id answer) :
    verdict errand.polling.limit (answersIn (own ++ [made])) = verdict (left + 1) [answer] := by
  rw [answersIn_append, answersIn_singleton, h.answers, hlimit, Nat.add_assoc,
    verdict_replicate_append, hmove]
  rfl

omit [CredentialStore σ] in
theorem Denied.returned_concat {answers : Nat} (h : Denied own answers)
    (made : Made (Activity σ) (Move σ) Reply) :
    returnedIn (own ++ [made]) = returnedOf made.step.effects := by
  rw [returnedIn_append, h.returned, returnedIn_singleton, List.nil_append]

/-- What a wait returns whose epoch lasts is a matter of the answers. -/
theorem Course.settles (h : Course errand own count standing) (hlimit : 1 ≤ errand.polling.limit)
    (hepoch : ∀ made ∈ own, made.before.session.epoch = errand.epoch) :
    Settles errand own standing (verdict errand.polling.limit (answersIn own)) := by
  have hsoFar := h.soFar hlimit
  cases h with
  | begins | checksAgain =>
    cases hsoFar with
    | checking hdenied hmoves hleft => exact hdenied.settles hleft (.inl nofun)
  | sleeps =>
    cases hsoFar with
    | sleeping hdenied hpositive hmoves hleft => exact hdenied.settles hleft (.inl nofun)
  | stops h hmove hpast hmerely => exact absurd (hepoch _ (by simp)) hpast
  | fails h hmove hmerely =>
    cases h.soFar hlimit with
    | checking hdenied hmoves hleft =>
      obtain ⟨left, hleft⟩ := Nat.exists_eq_add_of_lt hleft
      rw [hdenied.verdict_concat left hleft hmove]
      refine .failed _ ?_
      rw [hdenied.returned_concat, hmerely.effects]
      rfl
  | timesOut h hmove hlast hmerely =>
    cases h.soFar hlimit with
    | checking hdenied hmoves hleft =>
      have hnone : errand.polling.limit = _ + 0 + 1 := Nat.le_antisymm hlast hleft
      rw [hdenied.verdict_concat 0 hnone hmove]
      refine .timedOut ?_
      rw [hdenied.returned_concat, hmerely.effects]
      rfl
  | marks h hmove hcalls hends =>
    cases h.soFar hlimit with
    | checking hdenied hmoves hleft =>
      obtain ⟨left, hleft⟩ := Nat.exists_eq_add_of_lt hleft
      rw [hdenied.verdict_concat left hleft hmove]
      exact .verified List.getLast?_concat hends (hdenied.returned_concat _)
  | dropped h hopen hmove hmerely =>
    cases h.soFar hlimit with
    | ended => exact absurd rfl hopen
    | checking hdenied hmoves hleft | sleeping hdenied hpositive hmoves hleft =>
      refine (hdenied.concat 0 ?_ ?_).settles hleft (.inr ⟨_, by simp, hmove⟩)
      · rw [hmove]
        rfl
      · rw [hmerely.effects]
        rfl

/-! ### Polling as it was asked for -/

/-- Whether a wait polls as it was asked to. -/
structure Polls (errand : Errand) (own : History σ) (finish : Activity σ) (count : Nat)
    (standing : Standing) : Prop where
  course : Course errand own count standing
  checks : checksIn own = List.replicate count (errand.epoch, .checkStatus errand.token)
  positive : 1 ≤ count
  bounded : count ≤ errand.polling.limit
  /-- The first answer that is not negative is the last one. -/
  stops : ∀ answer ∈ (answersIn own).dropLast, answer = .ok false
  /-- If the epoch lasts, the answers decide what is returned. -/
  settles : (∀ made ∈ own, made.before.session.epoch = errand.epoch) →
    Settles errand own standing (verdict errand.polling.limit (answersIn own))
  /-- A wait that is not over takes whatever answer comes, or wakes, and so ends after a bounded
  number of moves. -/
  answered : standing = .checking → ∀ answer, (finish.step? (.answerStatus errand.id answer)).isSome
  wakes : standing = .sleeping → (finish.step? (.wake errand.id)).isSome
  ends : own.length ≤ 2 * errand.polling.limit

theorem Course.polls (h : Course errand own count standing) (hlimit : 1 ≤ errand.polling.limit)
    (hwaiting : finish.waiting? errand.id = errand.waiting? count standing) :
    Polls errand own finish count standing := by
  have hsoFar := h.soFar hlimit
  refine ⟨h, h.checks, ?_, ?_, ?_, h.settles hlimit, ?_, ?_, ?_⟩
  · cases hsoFar <;> omega
  · cases hsoFar <;> omega
  · cases hsoFar with
    | ended hdenied => exact hdenied
    | checking hdenied | sleeping hdenied =>
      exact fun answer hanswer => hdenied.negative answer (List.dropLast_subset _ hanswer)
  · rintro rfl answer
    simp [step?, hwaiting, Errand.waiting?]
  · rintro rfl
    simp [step?, hwaiting, Errand.waiting?]
  · cases hsoFar <;> omega

/-- In every run a wait for a record that is not verified polls as it was asked to. -/
theorem polls_of_run (errand : Errand) {given : CredentialRecord}
    (run : Run step? start (past ++ begun :: later) finish)
    (hpolling : start.polling = errand.polling)
    (hlimit : 1 ≤ errand.polling.limit) (hmove : begun.move = .beginVerification errand.id given)
    (hunverified : given.isVerified = false) (htoken : given.sessionToken = some errand.token)
    (hepoch : begun.before.session.epoch = errand.epoch)
    (honce : ∀ other ∈ later, ¬ other.move.Begins errand.id) :
    ∃ count standing, Polls errand (begun :: movesOf errand.id later) finish count standing := by
  obtain ⟨count, standing, hcourse, hwaiting⟩ :=
    course_of_run run hpolling hmove hunverified htoken hepoch honce
  exact ⟨count, standing, hcourse.polls hlimit hwaiting⟩

end Activity

end AccountManager.Session
