import AccountManager.Proofs.Session.Calls

/-!
# Stale calls of a session

A call whose generation is no longer the epoch of the session does nothing that anybody could see:
whatever is answered to it, it loads the stored record at most, sends no event, starts no call to
the service and does not succeed.
-/

namespace AccountManager.Session

open Storage

variable {σ : Type} [CredentialStore σ]

/-- What a move of a stale call comes to. -/
structure Inert (before after : Session σ) (effects : List Effect) : Prop where
  loads : before.Loads after
  events : eventsOf effects = []
  calls : callsOf effects = []
  fails : ∀ id answer, (id, .ok answer) ∉ returnedOf effects

namespace Activity

variable {activity : Activity σ} {move : Move σ} {step : Step (Activity σ) Reply} {id : CallId}
  {before : Session σ}

theorem inert_of_onlyLogs {after : Session σ} {effects : List Effect} (hloads : before.Loads after)
    (hlogs : OnlyLogs effects) : Inert before after effects where
  loads := hloads
  events := hlogs.1
  calls := hlogs.2.1
  fails id answer := by simp [hlogs.2.2]

theorem inert_of_failed {after : Session σ} {effects : List Effect} {error : AccountError}
    (hloads : before.Loads after) (hlogs : OnlyLogs effects) :
    Inert before after (effects ++ [.returned id (.error error)]) where
  loads := hloads
  events := by simp [hlogs.1]
  calls := by simp [hlogs.2.1]
  fails other answer := by simp [hlogs.2.2]

theorem inert_returnKeys {result : Except AccountError CredentialRecord} {effects : List Effect}
    (hloads : before.Loads activity.session) (hlogs : OnlyLogs effects)
    (herror : ∃ error, result = .error error) :
    Inert before (activity.returnKeys id result effects).state.session
      (activity.returnKeys id result effects).effects := by
  obtain ⟨error, rfl⟩ := herror
  rw [session_returnKeys]
  exact inert_of_failed hloads hlogs

theorem inert_continuePoll {continued : Step (Session σ) (Except AccountError PollPlan)}
    (hloads : before.Loads continued.state) (hlogs : OnlyLogs continued.effects)
    (hresult : (∃ poll, continued.result = .ok (.sleep poll)) ∨
      ∃ error, continued.result = .error error) :
    Inert before (activity.continuePoll id continued).state.session
      (activity.continuePoll id continued).effects := by
  rw [session_continuePoll]
  unfold continuePoll
  rcases hresult with ⟨poll, hresult⟩ | ⟨error, hresult⟩ <;> simp only [hresult]
  · exact inert_of_onlyLogs hloads hlogs
  · exact inert_of_failed hloads hlogs

/-- A call that goes on with another epoch than that of the session makes inert moves only. -/
theorem inert_of_stale {generation : Nat} (hstep : activity.step? move = some step)
    (hcaller : move.caller? = some id) (hbegins : ¬ move.Begins id)
    (hgoesOn : activity.GoesOnWith id generation) (hstale : activity.session.epoch ≠ generation) :
    Inert activity.session step.state.session step.effects := by
  cases allows_of_step? hstep with
  | look | evict | signIn | signOut | alterStore => cases hcaller
  | beginKeys | queueKeys | beginVerification => exact absurd (Option.some.inj hcaller) hbegins
  | takeTurn hturn hwaiting =>
    cases hcaller
    cases hgoesOn _ hwaiting
  | answerKeys hwaiting answer =>
    cases hcaller
    obtain rfl := Option.some.inj (hgoesOn _ hwaiting)
    obtain ⟨hstate, herror, hlogs⟩ := finishKeys_of_stale hstale _ answer
    exact inert_returnKeys (.inl hstate) hlogs herror
  | answerStatus hwaiting answer =>
    cases hcaller
    obtain rfl := Option.some.inj (hgoesOn _ hwaiting)
    obtain ⟨hloads, hresult, hlogs⟩ := answerStatus_of_stale hstale activity.polling answer
    exact inert_continuePoll hloads hlogs (hresult.imp_left fun hsleep => ⟨_, hsleep⟩)
  | wake hwaiting =>
    cases hcaller
    obtain rfl := Option.some.inj (hgoesOn _ hwaiting)
    rw [ask_of_stale hstale]
    exact inert_continuePoll (.inl rfl) (onlyLogs_log _) (.inr ⟨_, rfl⟩)
  | drop hwaiting =>
    cases hcaller
    exact inert_of_onlyLogs (.inl (session_dropCall activity _)) onlyLogs_nil

end Activity

end AccountManager.Session
