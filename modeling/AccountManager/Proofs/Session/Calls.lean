import AccountManager.Proofs.Results
import AccountManager.Proofs.Run
import AccountManager.Proofs.Session.Operations

/-!
# The calls of a session

What a move does to the calls under way. A move belongs to at most one call, its caller, and leaves
every other call waiting for what it waited for. A call captures the epoch when it first looks at
the session and goes on with that generation until it ends.
-/

namespace AccountManager

/-! ### Entries by identifier -/

theorem find?_filter_ne {α : Type} (entries : List (CallId × α)) (id other : CallId) :
    ((entries.filter fun entry => entry.1 ≠ id).find? fun entry => entry.1 = other) =
      if other = id then none else entries.find? fun entry => entry.1 = other := by
  rw [List.find?_filter]
  split
  · rename_i hother
    simp [hother]
  · rename_i hother
    congr 1
    funext entry
    simp only [ne_eq, decide_eq_true_eq, decide_eq_decide, and_iff_right_iff_imp]
    rintro rfl
    exact hother

theorem find?_map_replace {α : Type} {entries : List (CallId × α)} {id other : CallId}
    (hentry : (entries.find? fun entry => entry.1 = id).isSome) (value : α) :
    (((entries.map fun entry => if entry.1 = id then (id, value) else entry).find?
        fun entry => entry.1 = other).map Prod.snd) =
      if other = id then some value
      else (entries.find? fun entry => entry.1 = other).map Prod.snd := by
  have hkey : ((fun entry : CallId × α => decide (entry.1 = other)) ∘
      fun entry => if entry.1 = id then (id, value) else entry) =
        fun entry => decide (entry.1 = other) := by
    funext entry
    by_cases hid : entry.1 = id <;> simp [hid]
  rw [List.find?_map, hkey, Option.map_map]
  split
  · rename_i hother
    subst hother
    obtain ⟨entry, hfound⟩ := Option.isSome_iff_exists.1 hentry
    have hid : entry.1 = other := by simpa using List.find?_some hfound
    simp [hfound, hid]
  · rename_i hother
    cases hfound : entries.find? fun entry => entry.1 = other with
    | none => rfl
    | some entry =>
      have hid : entry.1 = other := by simpa using List.find?_some hfound
      simp [hid, hother]

namespace Session

open Storage

variable {σ : Type}

def Move.caller? : Move σ → Option CallId
  | .look | .evict | .signIn _ | .signOut | .alterStore _ => none
  | .beginKeys id | .takeTurn id | .answerKeys id _ | .beginVerification id _
  | .answerStatus id _ | .wake id | .drop id => some id

def Move.Begins (id : CallId) : Move σ → Prop
  | .beginKeys other | .beginVerification other _ => other = id
  | _ => False

/-- The epoch that a call goes on with; a call that waits for its turn has not looked yet. -/
def Waiting.generation? : Waiting → Option Nat
  | .turn => none
  | .keys user _ => some user.generation
  | .status poll => some poll.generation
  | .timer poll => some poll.generation

/-- What a call waits for that goes on as planned. -/
def KeyPlan.waiting? : KeyPlan → Option Waiting
  | .present _ => none
  | .fetch user _ unwrapBKey => some (.keys user unwrapBKey)

/-- What a call waits for that goes on as planned. -/
def PollPlan.waiting? : PollPlan → Option Waiting
  | .verified _ => none
  | .ask poll => some (.status poll)
  | .sleep poll => some (.timer poll)

theorem PollPlan.generation_of_waiting {plan : PollPlan} {waiting : Waiting}
    (hwaiting : plan.waiting? = some waiting) :
    ∃ poll, plan.poll? = some poll ∧ waiting.generation? = some poll.generation := by
  cases plan with
  | verified record => cases hwaiting
  | ask poll | sleep poll =>
    cases hwaiting
    exact ⟨poll, rfl, rfl⟩

namespace Activity

/-! ### What a call waits for -/

@[simp] theorem waiting?_forget (activity : Activity σ) (id other : CallId) :
    (activity.forget id).waiting? other =
      if other = id then none else activity.waiting? other := by
  unfold waiting? forget
  rw [find?_filter_ne]
  split <;> rfl

@[simp] theorem waiting?_suspend (activity : Activity σ) (id other : CallId) (waiting : Waiting) :
    (activity.suspend id waiting).waiting? other =
      if other = id then some waiting else activity.waiting? other := by
  unfold suspend
  split
  · rename_i hwaiting
    exact find?_map_replace (by simpa [waiting?] using hwaiting) waiting
  · rename_i hwaiting
    unfold waiting? at hwaiting ⊢
    rw [List.find?_append]
    split
    · rename_i hother
      subst hother
      have hnone : (activity.calls.find? fun call => call.1 = other) = none := by
        rwa [Option.isSome_map, Option.not_isSome_iff_eq_none] at hwaiting
      simp [hnone]
    · rename_i hother
      simp [Ne.symm hother]

@[simp] theorem waiting?_passTurn (activity : Activity σ) (other : CallId) :
    activity.passTurn.waiting? other = activity.waiting? other := by
  unfold passTurn
  split <;> rfl

@[simp] theorem session_forget (activity : Activity σ) (id : CallId) :
    (activity.forget id).session = activity.session := rfl

@[simp] theorem session_suspend (activity : Activity σ) (id : CallId) (waiting : Waiting) :
    (activity.suspend id waiting).session = activity.session := by
  unfold suspend
  split <;> rfl

@[simp] theorem session_passTurn (activity : Activity σ) :
    activity.passTurn.session = activity.session := by
  unfold passTurn
  split <;> rfl

@[simp] theorem session_returnKeys (activity : Activity σ) (id : CallId)
    (result : Except AccountError CredentialRecord) (effects : List Effect) :
    (activity.returnKeys id result effects).state.session = activity.session := by
  simp [returnKeys]

@[simp] theorem waiting?_returnKeys (activity : Activity σ) (id other : CallId)
    (result : Except AccountError CredentialRecord) (effects : List Effect) :
    (activity.returnKeys id result effects).state.waiting? other =
      if other = id then none else activity.waiting? other := by
  simp [returnKeys]

@[simp] theorem session_continuePoll (activity : Activity σ) (id : CallId)
    (step : Step (Session σ) (Except AccountError PollPlan)) :
    (activity.continuePoll id step).state.session = step.state := by
  unfold continuePoll
  dsimp only
  split <;> simp

@[simp] theorem waiting?_continuePoll (activity : Activity σ) (id other : CallId)
    (step : Step (Session σ) (Except AccountError PollPlan)) :
    (activity.continuePoll id step).state.waiting? other =
      if other = id then step.result.toOption.bind PollPlan.waiting?
      else activity.waiting? other := by
  unfold continuePoll
  dsimp only
  split <;> rename_i hresult <;> simp [hresult, Except.toOption, PollPlan.waiting?] <;> rfl

theorem callsOf_continuePoll (activity : Activity σ) (id : CallId)
    (continued : Step (Session σ) (Except AccountError PollPlan)) :
    callsOf (activity.continuePoll id continued).effects = callsOf continued.effects := by
  unfold continuePoll
  dsimp only
  split <;> simp

theorem of_waiting?_continuePoll {activity : Activity σ} {id : CallId} {waiting : Waiting}
    {continued : Step (Session σ) (Except AccountError PollPlan)}
    (hwaiting : (activity.continuePoll id continued).state.waiting? id = some waiting) :
    ∃ plan, continued.result = .ok plan ∧ plan.waiting? = some waiting := by
  rw [waiting?_continuePoll, if_pos rfl] at hwaiting
  obtain ⟨plan, hresult, hplan⟩ := Option.bind_eq_some_iff.1 hwaiting
  exact ⟨plan, of_toOption_eq_some hresult, hplan⟩

@[simp] theorem session_dropCall (activity : Activity σ) (id : CallId) :
    (activity.dropCall id).session = activity.session := by
  unfold dropCall
  dsimp only
  split <;> simp

@[simp] theorem waiting?_dropCall (activity : Activity σ) (id other : CallId) :
    (activity.dropCall id).waiting? other =
      if other = id then none else activity.waiting? other := by
  unfold dropCall
  dsimp only
  split
  · simp
  · exact waiting?_forget activity id other

variable [CredentialStore σ]

@[simp] theorem session_enterKeys (activity : Activity σ) (id : CallId) :
    (activity.enterKeys id).state.session = activity.session.snapshot.state := by
  unfold enterKeys
  dsimp only
  split <;> simp [beginKeys_state]

@[simp] theorem waiting?_enterKeys (activity : Activity σ) (id other : CallId) :
    (activity.enterKeys id).state.waiting? other =
      if other = id then activity.session.beginKeys.result.toOption.bind KeyPlan.waiting?
      else activity.waiting? other := by
  unfold enterKeys
  dsimp only
  split <;> rename_i hresult <;> simp [hresult, Except.toOption, KeyPlan.waiting?] <;> rfl

theorem callsOf_enterKeys (activity : Activity σ) (id : CallId) :
    callsOf (activity.enterKeys id).effects = callsOf activity.session.beginKeys.effects := by
  unfold enterKeys
  dsimp only
  split <;> simp [returnKeys]

theorem of_waiting?_enterKeys {activity : Activity σ} {id : CallId} {waiting : Waiting}
    (hwaiting : (activity.enterKeys id).state.waiting? id = some waiting) :
    ∃ user token unwrapBKey, waiting = .keys user unwrapBKey ∧
      activity.session.snapshot.result = .ok (some user) ∧
      user.record.keyFetchToken = some token ∧
      callsOf (activity.enterKeys id).effects = [.fetchKeys token] := by
  rw [waiting?_enterKeys, if_pos rfl] at hwaiting
  obtain ⟨plan, hresult, hplan⟩ := Option.bind_eq_some_iff.1 hwaiting
  cases plan with
  | present record => cases hplan
  | fetch user token unwrapBKey =>
    have hbegun := of_toOption_eq_some hresult
    obtain ⟨hlooked, htoken, hcalls⟩ := of_beginKeys_eq_fetch hbegun
    refine ⟨user, token, unwrapBKey, (Option.some.inj hplan).symm, hlooked, htoken, ?_⟩
    unfold enterKeys
    simp only [hbegun, hcalls]

/-! ### One move -/

variable {activity : Activity σ} {move : Move σ} {step : Step (Activity σ) Reply} {id : CallId}

/-- The moves that can be made, each with the call state it needs and with what comes of it. -/
inductive Allows (activity : Activity σ) : Move σ → Step (Activity σ) Reply → Prop
  | look :
      activity.Allows .look
        ⟨.user (activity.session.snapshot.result.map fun user => user.map SignedInUser.record),
          { activity with session := activity.session.snapshot.state },
          activity.session.snapshot.effects⟩
  | evict : activity.Allows .evict ⟨.none, { activity with session := activity.session.evict }, []⟩
  | signIn (record : CredentialRecord) :
      activity.Allows (.signIn record)
        ⟨.stored (activity.session.signIn record).result,
          { activity with session := (activity.session.signIn record).state },
          (activity.session.signIn record).effects⟩
  | signOut :
      activity.Allows .signOut
        ⟨.stored activity.session.signOut.result,
          { activity with session := activity.session.signOut.state },
          activity.session.signOut.effects⟩
  | beginKeys {id : CallId} (hnew : activity.waiting? id = none)
      (hfree : activity.fetching = none) :
      activity.Allows (.beginKeys id) (enterKeys { activity with fetching := some id } id)
  | queueKeys {id : CallId} (hnew : activity.waiting? id = none)
      (hheld : activity.fetching ≠ none) :
      activity.Allows (.beginKeys id)
        ⟨.none, suspend { activity with queue := activity.queue ++ [id] } id .turn, []⟩
  | takeTurn {id : CallId} (hturn : activity.fetching = some id)
      (hwaiting : activity.waiting? id = some .turn) :
      activity.Allows (.takeTurn id) (activity.enterKeys id)
  | answerKeys {id : CallId} {user : SignedInUser} {unwrapBKey : String}
      (hwaiting : activity.waiting? id = some (.keys user unwrapBKey))
      (answer : Except RemoteError KeyBundle) :
      activity.Allows (.answerKeys id answer)
        (returnKeys
          { activity with session := (activity.session.finishKeys user unwrapBKey answer).state } id
          (activity.session.finishKeys user unwrapBKey answer).result
          (activity.session.finishKeys user unwrapBKey answer).effects)
  | beginVerification {id : CallId} (hnew : activity.waiting? id = none)
      (record : CredentialRecord) :
      activity.Allows (.beginVerification id record)
        (activity.continuePoll id (activity.session.beginVerification record))
  | answerStatus {id : CallId} {poll : Poll}
      (hwaiting : activity.waiting? id = some (.status poll)) (answer : Except RemoteError Bool) :
      activity.Allows (.answerStatus id answer)
        (activity.continuePoll id (activity.session.answerStatus activity.polling poll answer))
  | wake {id : CallId} {poll : Poll} (hwaiting : activity.waiting? id = some (.timer poll)) :
      activity.Allows (.wake id) (activity.continuePoll id (activity.session.ask poll))
  | drop {id : CallId} {waiting : Waiting} (hwaiting : activity.waiting? id = some waiting) :
      activity.Allows (.drop id) ⟨.none, activity.dropCall id, []⟩
  | alterStore (change : σ → σ) :
      activity.Allows (.alterStore change)
        ⟨.none,
          { activity with
            session := { activity.session with store := change activity.session.store } }, []⟩

theorem allows_of_step? (hstep : activity.step? move = some step) : activity.Allows move step := by
  cases move with
  | look => cases hstep; exact .look
  | evict => cases hstep; exact .evict
  | signIn record => cases hstep; exact .signIn record
  | signOut => cases hstep; exact .signOut
  | beginKeys id =>
    simp only [step?, Option.isNone_iff_eq_none] at hstep
    split at hstep
    · cases hstep
    · rename_i hnew
      have hnew : activity.waiting? id = none := Option.not_isSome_iff_eq_none.1 hnew
      split at hstep
      · rename_i hfree
        cases hstep
        exact .beginKeys hnew hfree
      · rename_i hheld
        cases hstep
        exact .queueKeys hnew hheld
  | takeTurn id =>
    simp only [step?] at hstep
    split at hstep
    · rename_i hturn
      cases hstep
      exact .takeTurn hturn.1 hturn.2
    · cases hstep
  | answerKeys id answer =>
    simp only [step?] at hstep
    split at hstep
    · rename_i hwaiting
      cases hstep
      exact .answerKeys hwaiting answer
    · cases hstep
  | beginVerification id record =>
    simp only [step?] at hstep
    split at hstep
    · cases hstep
    · rename_i hnew
      cases hstep
      exact .beginVerification (Option.not_isSome_iff_eq_none.1 hnew) record
  | answerStatus id answer =>
    simp only [step?] at hstep
    split at hstep
    · rename_i hwaiting
      cases hstep
      exact .answerStatus hwaiting answer
    · cases hstep
  | wake id =>
    simp only [step?] at hstep
    split at hstep
    · rename_i hwaiting
      cases hstep
      exact .wake hwaiting
    · cases hstep
  | drop id =>
    simp only [step?] at hstep
    split at hstep
    · rename_i hwaiting
      obtain ⟨waiting, hwaiting⟩ := Option.isSome_iff_exists.1 hwaiting
      cases hstep
      exact .drop hwaiting
    · cases hstep
  | alterStore change => cases hstep; exact .alterStore change

theorem of_mem_callsOf {call : RemoteCall} (hstep : activity.step? move = some step)
    (hcall : call ∈ callsOf step.effects) :
    ∃ token, call = .fetchKeys token ∨ call = .checkStatus token := by
  cases allows_of_step? hstep with
  | evict | alterStore | queueKeys | drop => cases hcall
  | look =>
    rw [activity.session.snapshot_onlyLogs.2.1] at hcall
    cases hcall
  | signIn record =>
    rw [callsOf_signIn] at hcall
    cases hcall
  | signOut =>
    rw [callsOf_signOut] at hcall
    cases hcall
  | beginKeys | takeTurn =>
    rw [callsOf_enterKeys] at hcall
    obtain ⟨token, rfl⟩ := of_mem_callsOf_beginKeys hcall
    exact ⟨token, .inl rfl⟩
  | answerKeys =>
    simp [returnKeys, callsOf_finishKeys] at hcall
  | beginVerification =>
    rw [callsOf_continuePoll] at hcall
    obtain ⟨token, rfl⟩ := of_mem_callsOf_beginVerification hcall
    exact ⟨token, .inr rfl⟩
  | answerStatus =>
    rw [callsOf_continuePoll, callsOf_answerStatus] at hcall
    cases hcall
  | wake =>
    rw [callsOf_continuePoll] at hcall
    exact ⟨_, .inr (of_mem_callsOf_ask hcall)⟩

theorem begins_of_caller (hstep : activity.step? move = some step)
    (hcaller : move.caller? = some id) (hnone : activity.waiting? id = none) :
    move.Begins id := by
  cases allows_of_step? hstep with
  | look | evict | signIn | signOut | alterStore => cases hcaller
  | beginKeys | queueKeys | beginVerification => exact Option.some.inj hcaller
  | takeTurn hturn hwaiting =>
    cases hcaller
    rw [hnone] at hwaiting
    cases hwaiting
  | answerKeys hwaiting | answerStatus hwaiting | wake hwaiting | drop hwaiting =>
    cases hcaller
    rw [hnone] at hwaiting
    cases hwaiting

/-- A move leaves every call alone but its caller. -/
theorem waiting?_of_not_caller (hstep : activity.step? move = some step)
    (hcaller : move.caller? ≠ some id) : step.state.waiting? id = activity.waiting? id := by
  have hother {other : CallId} (h : some other ≠ some id) : id ≠ other :=
    fun heq => h (congrArg some heq.symm)
  cases allows_of_step? hstep with
  | look | evict | signIn | signOut | alterStore => rfl
  | takeTurn | beginVerification | answerStatus | wake | drop =>
    simp only [waiting?_enterKeys, waiting?_continuePoll, waiting?_dropCall, hother hcaller,
      if_false]
  | beginKeys | queueKeys | answerKeys =>
    simp only [waiting?_enterKeys, waiting?_suspend, waiting?_returnKeys, hother hcaller, if_false]
    rfl

/-! ### Generations -/

/-- Whether a call that is still under way goes on with an epoch. -/
def GoesOnWith (activity : Activity σ) (id : CallId) (generation : Nat) : Prop :=
  ∀ waiting, activity.waiting? id = some waiting → waiting.generation? = some generation

omit [CredentialStore σ] in
theorem goesOnWith_of_waiting?_eq_none {generation : Nat} (hnone : activity.waiting? id = none) :
    activity.GoesOnWith id generation := by
  intro waiting hwaiting
  rw [hnone] at hwaiting
  cases hwaiting

omit [CredentialStore σ] in
theorem goesOnWith_continuePoll {generation : Nat}
    {continued : Step (Session σ) (Except AccountError PollPlan)}
    (hpoll : ∀ plan next, continued.result = .ok plan → plan.poll? = some next →
      next.generation = generation) :
    (activity.continuePoll id continued).state.GoesOnWith id generation := by
  intro waiting hwaiting
  obtain ⟨plan, hresult, hplan⟩ := of_waiting?_continuePoll hwaiting
  obtain ⟨next, hnext, hgeneration⟩ := PollPlan.generation_of_waiting hplan
  rw [hgeneration, hpoll plan next hresult hnext]

theorem goesOnWith_enterKeys (activity : Activity σ) (id : CallId) :
    (activity.enterKeys id).state.GoesOnWith id activity.session.epoch := by
  intro waiting hwaiting
  obtain ⟨user, token, unwrapBKey, rfl, hlooked, -, -⟩ := of_waiting?_enterKeys hwaiting
  exact congrArg some (of_snapshot_eq_some hlooked).1

/-- A call keeps the generation that it captured. -/
theorem goesOnWith_step {generation : Nat} (hstep : activity.step? move = some step)
    (hbegins : ¬ move.Begins id) (hgoesOn : activity.GoesOnWith id generation) :
    step.state.GoesOnWith id generation := by
  by_cases hcaller : move.caller? = some id
  · cases allows_of_step? hstep with
    | look | evict | signIn | signOut | alterStore => cases hcaller
    | beginKeys | queueKeys | beginVerification =>
      exact absurd (Option.some.inj hcaller) hbegins
    | takeTurn hturn hwaiting =>
      cases hcaller
      cases hgoesOn _ hwaiting
    | answerKeys hwaiting answer =>
      cases hcaller
      exact goesOnWith_of_waiting?_eq_none (by simp)
    | answerStatus hwaiting answer =>
      cases hcaller
      obtain rfl := Option.some.inj (hgoesOn _ hwaiting)
      exact goesOnWith_continuePoll fun plan next hresult hnext => by
        rw [poll_of_answerStatus hresult hnext]
    | wake hwaiting =>
      cases hcaller
      obtain rfl := Option.some.inj (hgoesOn _ hwaiting)
      exact goesOnWith_continuePoll fun plan next hresult hnext => generation_of_ask hresult hnext
    | drop hwaiting =>
      cases hcaller
      exact goesOnWith_of_waiting?_eq_none (by simp)
  · intro waiting hafter
    rw [waiting?_of_not_caller hstep hcaller] at hafter
    exact hgoesOn waiting hafter

/-- Whether a call captures the epoch with a move: it gets the right to fetch keys, or it begins to
wait for the verification of an unverified record. -/
def Captures (activity : Activity σ) (id : CallId) : Move σ → Prop
  | .beginKeys other => other = id ∧ activity.fetching = none
  | .takeTurn other => other = id
  | .beginVerification other record => other = id ∧ record.isVerified = false
  | _ => False

omit [CredentialStore σ] in
theorem Captures.caller? (h : activity.Captures id move) : move.caller? = some id := by
  cases move with
  | beginKeys | beginVerification => exact congrArg some h.1
  | takeTurn => exact congrArg some h
  | _ => exact h.elim

theorem goesOnWith_of_captures (hstep : activity.step? move = some step)
    (hcaptures : activity.Captures id move) :
    step.state.GoesOnWith id activity.session.epoch := by
  cases allows_of_step? hstep with
  | look | evict | signIn | signOut | answerKeys | answerStatus | wake | drop | alterStore =>
    exact hcaptures.elim
  | queueKeys hnew hheld => exact absurd hcaptures.2 hheld
  | beginKeys hnew hfree =>
    cases hcaptures.1
    exact goesOnWith_enterKeys { activity with fetching := some id } id
  | takeTurn hturn hwaiting =>
    cases hcaptures
    exact goesOnWith_enterKeys activity id
  | beginVerification hnew record =>
    cases hcaptures.1
    apply goesOnWith_continuePoll
    intro plan next hresult hnext
    rcases of_beginVerification_eq_ok hresult with ⟨-, rfl⟩ | ⟨-, token, -, hask⟩
    · cases hnext
    · rw [hask] at hresult
      exact generation_of_ask hresult hnext

end Activity

end Session

end AccountManager
