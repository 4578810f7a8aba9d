import AccountManager.Proofs.Session.Lateness

/-!
# Calls of a session that fail

A call writes where it succeeds and nowhere else. Each of its moves either ends the call with a
record, or it leaves everything as it was, except that it may load the stored record into the empty
cache.
-/

namespace AccountManager

namespace Storage

/-- Whether a refused write leaves what is observed of a store. -/
def KeptOnRefusal {σ γ : Type} [CredentialStore σ] (held : σ → γ) : Prop :=
  ∀ {store after : σ} {record : CredentialRecord} {error : StorageError},
    CredentialStore.put store record = (.error error, after) → held after = held store

end Storage

namespace Session

open Storage

variable {σ γ : Type} [CredentialStore σ] {held : σ → γ} {session before after : Session σ}

/-- What a move comes to that writes nothing and tells nobody anything. -/
structure Untouched (held : σ → γ) (before after : Session σ) (effects : List Effect) : Prop where
  held : held after.store = held before.store
  epoch : after.epoch = before.epoch
  pendingClear : after.pendingClear = before.pendingClear
  cached : after.cached = before.cached ∨
    before.cached = none ∧ ∃ record, CredentialStore.get before.store = .ok (some record) ∧
      after.cached = some record
  events : eventsOf effects = []

theorem untouched_of_loads {effects : List Effect} (hloads : before.Loads after)
    (hevents : eventsOf effects = []) : Untouched held before after effects where
  held := congrArg held hloads.store
  epoch := hloads.epoch
  pendingClear := hloads.pendingClear
  cached := by
    rcases hloads with rfl | ⟨hempty, -, record, hget, rfl⟩
    · exact .inl rfl
    · exact .inr ⟨hempty, record, hget, rfl⟩
  events := hevents

theorem Untouched.append {effects more : List Effect} (h : Untouched held before after effects)
    (hmore : eventsOf more = []) : Untouched held before after (effects ++ more) :=
  ⟨h.held, h.epoch, h.pendingClear, h.cached, by rw [eventsOf_append, h.events, hmore]; rfl⟩

/-- A refused sign-in changes nothing but what the failing store does to itself. -/
theorem of_signIn_eq_error (hkept : KeptOnRefusal held) {record : CredentialRecord}
    {error : StorageError} (hsigned : (session.signIn record).result = .error error) :
    ∃ store, held store = held session.store ∧
      session.signIn record = ⟨.error error, { session with store }, []⟩ := by
  unfold signIn at hsigned ⊢
  split at hsigned
  · rename_i refusal store hput
    obtain rfl := Except.error.inj hsigned
    exact ⟨store, hkept hput, rfl⟩
  · cases hsigned

theorem untouched_of_commit (hkept : KeptOnRefusal held) {loaded : Session σ}
    (hloads : session.Loads loaded) {generation : Nat} {record : CredentialRecord}
    {error : AccountError} (hcommitted : (loaded.commit generation record).result = .error error) :
    Untouched held session (loaded.commit generation record).state
      (loaded.commit generation record).effects := by
  have hloaded : Untouched held session loaded (loaded.commit generation record).effects :=
    untouched_of_loads hloads (commit_onlyLogs loaded generation record).1
  rcases of_commit_eq_error hcommitted with hstate | ⟨refusal, store, hput, hstate⟩
  · rw [hstate]
    exact hloaded
  · rw [hstate]
    exact { hloaded with held := (hkept hput).trans hloaded.held }

theorem finishKeys_untouched (hkept : KeptOnRefusal held) {user : SignedInUser}
    {unwrapBKey : String} {answer : Except RemoteError KeyBundle} {error : AccountError}
    (hfinished : (session.finishKeys user unwrapBKey answer).result = .error error) :
    Untouched held session (session.finishKeys user unwrapBKey answer).state
      (session.finishKeys user unwrapBKey answer).effects := by
  unfold finishKeys at hfinished ⊢
  cases answer with
  | error refusal => exact untouched_of_loads (.inl rfl) rfl
  | ok bundle =>
    cases hderived : KeyDerivation.deriveKB bundle.wrapKB unwrapBKey with
    | error unusable => exact untouched_of_loads (.inl (by simp only [hderived])) (by
        simp only [hderived, eventsOf_nil])
    | ok kB =>
      simp only [hderived] at hfinished ⊢
      split at hfinished
      · rename_i refusal hcommitted
        exact untouched_of_commit hkept (.inl rfl) hcommitted
      · cases hfinished

theorem finishVerification_untouched (hkept : KeptOnRefusal held) {generation : Nat}
    {error : AccountError}
    (hfinished : (session.finishVerification generation).result = .error error) :
    Untouched held session (session.finishVerification generation).state
      (session.finishVerification generation).effects := by
  have hloads := session.snapshot_loads
  have hlogs := session.snapshot_onlyLogs
  unfold finishVerification at hfinished ⊢
  dsimp only at hfinished ⊢
  cases hlooked : session.snapshot.result with
  | error refusal => exact untouched_of_loads hloads hlogs.1
  | ok found =>
    cases found with
    | none => exact untouched_of_loads hloads hlogs.1
    | some user =>
      simp only [hlooked] at hfinished ⊢
      split at hfinished
      · rename_i hstale
        rw [if_pos hstale]
        exact untouched_of_loads hloads hlogs.1
      · rename_i hcurrent
        rw [if_neg hcurrent]
        split at hfinished
        · rename_i refusal hcommitted
          have hrefused := untouched_of_commit hkept hloads hcommitted
          exact { hrefused with events := by rw [eventsOf_append, hlogs.1, hrefused.events]; rfl }
        · cases hfinished

theorem answerStatus_untouched (hkept : KeptOnRefusal held) {polling : Polling} {poll : Poll}
    {answer : Except RemoteError Bool}
    (hgoesOn : ∀ record,
      (session.answerStatus polling poll answer).result ≠ .ok (.verified record)) :
    Untouched held session (session.answerStatus polling poll answer).state
      (session.answerStatus polling poll answer).effects := by
  unfold answerStatus at hgoesOn ⊢
  split
  · exact untouched_of_loads (.inl rfl) rfl
  · cases hfinished : (session.finishVerification poll.generation).result with
    | error error => exact finishVerification_untouched hkept hfinished
    | ok record => exact absurd (by simp only [hfinished]; rfl) (hgoesOn record)
  · split <;> exact untouched_of_loads (.inl rfl) rfl

theorem eventsOf_beginKeys (session : Session σ) : eventsOf session.beginKeys.effects = [] := by
  have hnone := session.snapshot_onlyLogs.1
  unfold beginKeys
  dsimp only
  repeat' split
  all_goals simp [hnone, debug]

omit [CredentialStore σ] in
theorem eventsOf_ask (session : Session σ) (poll : Poll) :
    eventsOf (session.ask poll).effects = [] := by
  unfold ask
  split <;> rfl

omit [CredentialStore σ] in
theorem eventsOf_beginVerification (session : Session σ) (record : CredentialRecord) :
    eventsOf (session.beginVerification record).effects = [] := by
  unfold beginVerification
  split
  · rfl
  · split
    · rfl
    · exact eventsOf_ask session _

namespace Activity

variable {activity : Activity σ} {move : Move σ} {step : Step (Activity σ) Reply}
  {id : CallId} {result : Except AccountError Answer}

theorem untouched_continuePoll {continued : Step (Session σ) (Except AccountError PollPlan)}
    (huntouched : Untouched held session continued.state continued.effects) :
    Untouched held session (activity.continuePoll id continued).state.session
      (activity.continuePoll id continued).effects := by
  rw [session_continuePoll]
  unfold continuePoll
  dsimp only
  split
  · exact huntouched.append rfl
  · exact huntouched.append rfl
  · exact huntouched
  · exact huntouched

theorem untouched_enterKeys (activity : Activity σ) (id : CallId) :
    Untouched held activity.session (activity.enterKeys id).state.session
      (activity.enterKeys id).effects := by
  rw [session_enterKeys]
  have hbegun : Untouched held activity.session activity.session.snapshot.state
      activity.session.beginKeys.effects :=
    untouched_of_loads activity.session.snapshot_loads activity.session.eventsOf_beginKeys
  unfold enterKeys
  dsimp only
  split
  · exact hbegun.append rfl
  · exact hbegun.append rfl
  · exact hbegun

/-- A move of a call leaves everything as it was, or the call returns a record with it. -/
theorem untouched_or_succeeds (hkept : KeptOnRefusal held) (hstep : activity.step? move = some step)
    (hcaller : move.caller? = some id) :
    Untouched held activity.session step.state.session step.effects ∨
      ∃ answer, returnedOf step.effects = [(id, .ok answer)] := by
  cases allows_of_step? hstep with
  | look | evict | signIn | signOut | alterStore => cases hcaller
  | @beginKeys id => exact .inl (untouched_enterKeys { activity with fetching := some id } id)
  | @takeTurn id => exact .inl (untouched_enterKeys activity id)
  | queueKeys => exact .inl (untouched_of_loads (.inl (session_suspend _ _ _)) rfl)
  | drop => exact .inl (untouched_of_loads (.inl (session_dropCall _ _)) rfl)
  | @answerKeys _ user unwrapBKey hwaiting answer =>
    cases hcaller
    have hnone := activity.session.returnedOf_finishKeys user unwrapBKey answer
    cases hfinished : (activity.session.finishKeys user unwrapBKey answer).result with
    | error error =>
      left
      rw [session_returnKeys]
      exact (finishKeys_untouched hkept hfinished).append rfl
    | ok record => exact .inr ⟨.record record, by simp [returnKeys, hnone, Except.map]⟩
  | beginVerification hnew record =>
    refine .inl (untouched_continuePoll (untouched_of_loads (.inl ?_) ?_))
    · exact beginVerification_state activity.session record
    · exact eventsOf_beginVerification activity.session record
  | @answerStatus _ poll hwaiting answer =>
    cases hcaller
    have hnone := activity.session.returnedOf_answerStatus activity.polling poll answer
    by_cases hverified : ∃ record,
        (activity.session.answerStatus activity.polling poll answer).result = .ok (.verified record)
    · obtain ⟨record, hverified⟩ := hverified
      refine .inr ⟨.record record, ?_⟩
      unfold continuePoll
      simp [hverified, hnone]
    · refine .inl (untouched_continuePoll (answerStatus_untouched hkept fun record hrecord => ?_))
      exact hverified ⟨record, hrecord⟩
  | wake =>
    refine .inl (untouched_continuePoll (untouched_of_loads (.inl (ask_state _ _)) ?_))
    exact eventsOf_ask _ _

theorem over_of_returned (hstep : activity.step? move = some step)
    (hreturned : (id, result) ∈ returnedOf step.effects) : step.state.waiting? id = none := by
  have hkeys {activity : Activity σ} {caller : CallId} (hcaller : id = caller)
      (hreturned : (id, result) ∈ returnedOf (activity.enterKeys caller).effects) :
      (activity.enterKeys caller).state.waiting? id = none := by
    have hnone := activity.session.returnedOf_beginKeys
    unfold enterKeys at hreturned ⊢
    dsimp only at hreturned ⊢
    split at hreturned
    · simp [hcaller]
    · simp [hcaller]
    · rw [hnone] at hreturned
      cases hreturned
  have hpoll {caller : CallId} {continued : Step (Session σ) (Except AccountError PollPlan)}
      (hcaller : id = caller) (hnone : returnedOf continued.effects = [])
      (hreturned : (id, result) ∈ returnedOf (activity.continuePoll caller continued).effects) :
      (activity.continuePoll caller continued).state.waiting? id = none := by
    rw [waiting?_continuePoll, if_pos hcaller]
    obtain ⟨-, ⟨error, hresult, -⟩ | ⟨record, hresult, -⟩⟩ :=
      result_of_continuePoll hnone hreturned <;> rw [hresult] <;> rfl
  obtain ⟨hcaller, -⟩ := of_returned hstep hreturned
  have hsame {caller : CallId} (hcaller : some caller = some id) : id = caller :=
    (Option.some.inj hcaller).symm
  cases allows_of_step? hstep with
  | look | evict | signIn | signOut | alterStore => cases hcaller
  | queueKeys | drop => cases hreturned
  | beginKeys | takeTurn => exact hkeys (hsame hcaller) hreturned
  | answerKeys => rw [waiting?_returnKeys, if_pos (hsame hcaller)]
  | beginVerification => exact hpoll (hsame hcaller) (returnedOf_beginVerification _ _) hreturned
  | answerStatus => exact hpoll (hsame hcaller) (returnedOf_answerStatus _ _ _ _) hreturned
  | wake => exact hpoll (hsame hcaller) (returnedOf_ask _ _) hreturned

end Activity

end Session

end AccountManager
