import AccountManager.Proofs.Session.Calls

/-!
# The epochs of a session

A successful sign-in and every sign-out begin the next epoch; every other move stays in its epoch.
What a call remembers of a user was seen in the epoch in which the call began to remember it.
-/

namespace AccountManager.Session

open Storage

variable {σ : Type} [CredentialStore σ]

/-- Whether a move, by what it gave back, began an epoch. -/
inductive Activity.BeginsEpoch : Move σ → Reply → Prop
  | signIn (record : CredentialRecord) : BeginsEpoch (.signIn record) (.stored (.ok ()))
  | signOut (reply : Reply) : BeginsEpoch .signOut reply

omit [CredentialStore σ] in
theorem Activity.BeginsEpoch.eq {move : Move σ} {reply : Reply} (h : BeginsEpoch move reply) :
    (∃ record, move = .signIn record ∧ reply = .stored (.ok ())) ∨ move = .signOut := by
  cases h with
  | signIn record => exact .inl ⟨record, rfl, rfl⟩
  | signOut => exact .inr rfl

omit [CredentialStore σ] in
theorem Activity.BeginsEpoch.caller?_eq_none {move : Move σ} {reply : Reply}
    (h : BeginsEpoch move reply) : move.caller? = none := by
  cases h <;> rfl

omit [CredentialStore σ] in
theorem Activity.BeginsEpoch.not_begins {move : Move σ} {reply : Reply} {id : CallId}
    (h : BeginsEpoch move reply) : ¬ move.Begins id := by
  cases h <;> exact fun hbegins => hbegins

theorem signOut_epoch (session : Session σ) :
    session.signOut.state.epoch = session.epoch + 1 := by
  unfold signOut
  split <;> rfl

theorem finishKeys_epoch (session : Session σ) (user : SignedInUser) (unwrapBKey : String)
    (answer : Except RemoteError KeyBundle) :
    (session.finishKeys user unwrapBKey answer).state.epoch = session.epoch := by
  unfold finishKeys
  dsimp only
  repeat' split
  all_goals first | rfl | exact commit_epoch session _ _

theorem finishVerification_epoch (session : Session σ) (generation : Nat) :
    (session.finishVerification generation).state.epoch = session.epoch := by
  unfold finishVerification
  dsimp only
  repeat' split
  all_goals simp

theorem answerStatus_epoch (session : Session σ) (polling : Polling) (poll : Poll)
    (answer : Except RemoteError Bool) :
    (session.answerStatus polling poll answer).state.epoch = session.epoch := by
  unfold answerStatus
  split
  · rfl
  · exact finishVerification_epoch session poll.generation
  · split <;> rfl

omit [CredentialStore σ] in
theorem ask_state (session : Session σ) (poll : Poll) : (session.ask poll).state = session := by
  unfold ask
  split <;> rfl

omit [CredentialStore σ] in
theorem beginVerification_state (session : Session σ) (record : CredentialRecord) :
    (session.beginVerification record).state = session := by
  unfold beginVerification
  split
  · rfl
  · split
    · rfl
    · exact ask_state session _

namespace Activity

variable {activity : Activity σ} {move : Move σ} {step : Step (Activity σ) Reply}

theorem epoch_of_beginsEpoch (hstep : activity.step? move = some step)
    (hepoch : BeginsEpoch move step.result) :
    step.state.session.epoch = activity.session.epoch + 1 := by
  cases allows_of_step? hstep with
  | signOut => exact signOut_epoch activity.session
  | signIn record =>
    have hresult : (activity.session.signIn record).result = .ok () := by
      generalize (activity.session.signIn record).result = result at hepoch
      cases hepoch
      rfl
    unfold Session.signIn at hresult ⊢
    dsimp only
    split at hresult
    · cases hresult
    · rfl
  | look | evict | beginKeys | queueKeys | takeTurn | answerKeys | beginVerification
  | answerStatus | wake | drop | alterStore => cases hepoch

theorem epoch_of_not_beginsEpoch (hstep : activity.step? move = some step)
    (hepoch : ¬ BeginsEpoch move step.result) :
    step.state.session.epoch = activity.session.epoch := by
  cases allows_of_step? hstep with
  | signOut => exact absurd (.signOut _) hepoch
  | signIn record =>
    unfold Session.signIn at hepoch ⊢
    dsimp only at hepoch ⊢
    split at hepoch
    · rfl
    · exact absurd (.signIn record) hepoch
  | look => exact snapshot_epoch activity.session
  | evict | alterStore => rfl
  | beginKeys | takeTurn => simp
  | queueKeys => simp
  | answerKeys hwaiting answer => simpa using finishKeys_epoch activity.session _ _ answer
  | beginVerification hnew record => simp [beginVerification_state]
  | answerStatus hwaiting answer => simpa using answerStatus_epoch activity.session _ _ answer
  | wake hwaiting => simp [ask_state]
  | drop => simp

/-- What a call remembers of a user it has remembered before, or it has just looked at it. -/
theorem remembered_of_step? {id : CallId} {user : SignedInUser} {unwrapBKey : String}
    (hstep : activity.step? move = some step)
    (hafter : step.state.waiting? id = some (.keys user unwrapBKey)) :
    activity.waiting? id = some (.keys user unwrapBKey) ∨
      activity.session.snapshot.result = .ok (some user) := by
  by_cases hcaller : move.caller? = some id
  · right
    cases allows_of_step? hstep with
    | look | evict | signIn | signOut | alterStore => cases hcaller
    | beginKeys | takeTurn =>
      cases hcaller
      obtain ⟨seen, token, key, heq, hlooked, -, -⟩ := of_waiting?_enterKeys hafter
      cases heq
      exact hlooked
    | queueKeys hnew hheld =>
      cases hcaller
      simp at hafter
    | answerKeys hwaiting answer =>
      cases hcaller
      simp at hafter
    | drop hwaiting =>
      cases hcaller
      simp at hafter
    | beginVerification | answerStatus | wake =>
      cases hcaller
      obtain ⟨plan, -, hplan⟩ := of_waiting?_continuePoll hafter
      cases plan <;> cases hplan
  · rw [waiting?_of_not_caller hstep hcaller] at hafter
    exact .inl hafter

end Activity

end AccountManager.Session
