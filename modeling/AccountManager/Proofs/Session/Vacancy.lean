import AccountManager.Proofs.Session.Epochs
import AccountManager.Proofs.Storage.Lawful

/-!
# Signed out

After a sign-out nothing is cached, and either the store is empty or it may not be read. No call
finds a user then, and only a successful sign-in changes that: what was begun for the last user is
of an earlier epoch, and what is begun now finds nobody to write a record for.
-/

namespace AccountManager.Session

open Storage

variable {σ : Type} [CredentialStore σ]

/-- Whether no user can be seen. -/
structure Vacant [LawfulStore σ] (session : Session σ) : Prop where
  cached : session.cached = none
  erased : session.pendingClear = false → contents session.store = none

/-- Whether a move that changes the store from outside leaves what it holds. -/
def Move.KeepsContents [LawfulStore σ] : Move σ → Prop
  | .alterStore change => ∀ store, contents (change store) = contents store
  | _ => True

/-- Whether a move leaves everything as it was while nobody can be seen. -/
structure Stays [LawfulStore σ] (before after : Session σ) : Prop where
  cached : after.cached = none
  pendingClear : after.pendingClear = before.pendingClear
  contents : contents after.store = contents before.store

variable [LawfulStore σ] {session : Session σ}

theorem Vacant.stays (h : session.Vacant) : session.Stays session := ⟨h.cached, rfl, rfl⟩

theorem Vacant.of_stays (h : session.Vacant) {after : Session σ} (hstays : session.Stays after) :
    after.Vacant := by
  refine ⟨hstays.cached, fun hpending => ?_⟩
  rw [hstays.contents]
  exact h.erased (hstays.pendingClear.symm.trans hpending)

theorem signOut_vacant (session : Session σ) : session.signOut.state.Vacant := by
  unfold signOut
  split
  · exact ⟨rfl, fun hpending => by cases hpending⟩
  · rename_i store hclear
    exact ⟨rfl, fun _ => contents_of_clear_eq_ok hclear⟩

theorem signOut_erases (hcleared : session.signOut.result = .ok ()) :
    contents session.signOut.state.store = none := by
  unfold signOut at hcleared ⊢
  split at hcleared
  · cases hcleared
  · rename_i store hclear
    exact contents_of_clear_eq_ok hclear

theorem signOut_contents (session : Session σ) :
    contents session.signOut.state.store = none ∨
      contents session.signOut.state.store = contents session.store := by
  have hcleared := LawfulStore.contents_clear session.store
  unfold signOut
  split
  · rename_i refusal store hclear
    rw [hclear] at hcleared
    exact .inr hcleared
  · rename_i store hclear
    exact .inl (contents_of_clear_eq_ok hclear)

theorem Vacant.snapshot (h : session.Vacant) (hreads : ReadsNothing session.store) :
    session.snapshot = ⟨.ok none, session, []⟩ := by
  unfold Session.snapshot
  simp only [h.cached]
  split
  · rfl
  · rename_i hpending
    have hempty := h.erased (by simpa using hpending)
    simp only [hreads hempty]

theorem Vacant.beginKeys (h : session.Vacant) (hreads : ReadsNothing session.store) :
    session.beginKeys = ⟨.error .notSignedIn, session, []⟩ := by
  simp only [Session.beginKeys, h.snapshot hreads]

theorem Vacant.finishVerification (h : session.Vacant) (hreads : ReadsNothing session.store)
    (generation : Nat) :
    session.finishVerification generation = ⟨.error .notSignedIn, session, []⟩ := by
  simp only [Session.finishVerification, h.snapshot hreads]

theorem Vacant.answerStatus (h : session.Vacant) (hreads : ReadsNothing session.store)
    (polling : Polling) (poll : Poll) (answer : Except RemoteError Bool) :
    (session.answerStatus polling poll answer).state = session ∧
      OnlyLogs (session.answerStatus polling poll answer).effects ∧
      ∀ record, (session.answerStatus polling poll answer).result ≠ .ok (.verified record) := by
  unfold Session.answerStatus
  split
  · exact ⟨rfl, onlyLogs_nil, fun record hresult => by cases hresult⟩
  · rw [h.finishVerification hreads]
    exact ⟨rfl, onlyLogs_nil, fun record hresult => by cases hresult⟩
  · split
    · exact ⟨rfl, onlyLogs_log _, fun record hresult => by cases hresult⟩
    · exact ⟨rfl, onlyLogs_nil, fun record hresult => by cases hresult⟩

theorem Vacant.signIn (h : session.Vacant) {record : CredentialRecord} {error : StorageError}
    (hrefused : (session.signIn record).result = .error error) :
    session.Stays (session.signIn record).state ∧ (session.signIn record).effects = [] := by
  unfold Session.signIn at hrefused ⊢
  split at hrefused
  · rename_i refusal store hput
    exact ⟨⟨h.cached, rfl, contents_of_put_eq_error hput⟩, rfl⟩
  · cases hrefused

namespace Activity

variable {activity : Activity σ} {move : Move σ} {step : Step (Activity σ) Reply} {id : CallId}
  {before : Session σ}

/-- What a move comes to while nobody is signed in: everything stays, and only a record that was
verified beforehand is returned. -/
structure Idle (before : Session σ) (move : Move σ) (step : Step (Activity σ) Reply) : Prop where
  stays : before.Stays step.state.session
  returns : ∀ id answer, (id, .ok answer) ∈ returnedOf step.effects →
    ∃ record, move = .beginVerification id record ∧ record.isVerified = true ∧
      answer = .record record

theorem enterKeys_of_vacant (activity : Activity σ) (hvacant : activity.session.Vacant)
    (hreads : ReadsNothing activity.session.store) (id : CallId) :
    (activity.enterKeys id).effects = [.returned id (.error .notSignedIn)] := by
  unfold enterKeys
  simp only [hvacant.beginKeys hreads]
  rfl

/-- A call that looks for the user while nobody is signed in ends at once. -/
theorem effects_of_lookup (hstep : activity.step? move = some step)
    (hvacant : activity.session.Vacant) (hreads : ReadsNothing activity.session.store)
    (hlookup : move = .beginKeys id ∧ activity.fetching = none ∨ move = .takeTurn id) :
    step.effects = [.returned id (.error .notSignedIn)] := by
  rcases hlookup with ⟨rfl, hfetching⟩ | rfl
  · cases allows_of_step? hstep with
    | beginKeys hnew hfree =>
      exact enterKeys_of_vacant { activity with fetching := some id } hvacant hreads id
    | queueKeys hnew hheld => exact absurd hfetching hheld
  · cases allows_of_step? hstep with
    | takeTurn hturn hwaiting => exact enterKeys_of_vacant activity hvacant hreads id

theorem idle_of_returnedOf_eq_nil {activity : Activity σ} {reply : Reply} {effects : List Effect}
    (hstays : before.Stays activity.session) (hnone : returnedOf effects = []) :
    Idle before move ⟨reply, activity, effects⟩ := by
  refine ⟨hstays, fun id answer hreturned => ?_⟩
  rw [hnone] at hreturned
  cases hreturned

theorem idle_of_refused {activity : Activity σ} {reply : Reply} {effects : List Effect}
    {error : AccountError} (hstays : before.Stays activity.session)
    (hnone : returnedOf effects = []) :
    Idle before move ⟨reply, activity, effects ++ [.returned id (.error error)]⟩ := by
  refine ⟨hstays, fun other answer hreturned => ?_⟩
  simp [hnone] at hreturned

theorem idle_continuePoll {continued : Step (Session σ) (Except AccountError PollPlan)}
    (hstays : before.Stays continued.state) (hnone : returnedOf continued.effects = [])
    (hverified : ∀ record, continued.result = .ok (.verified record) →
      move = .beginVerification id record ∧ record.isVerified = true) :
    Idle before move (activity.continuePoll id continued) := by
  unfold continuePoll
  dsimp only
  split
  · exact idle_of_refused hstays hnone
  · rename_i record hresult
    obtain ⟨hmove, hrecord⟩ := hverified record hresult
    refine ⟨hstays, fun other answer hreturned => ?_⟩
    simp only [returnedOf_append, hnone, returnedOf_cons, returnedOf_nil, List.append_nil,
      List.nil_append, List.mem_singleton, Prod.mk.injEq, Except.ok.injEq] at hreturned
    obtain ⟨rfl, rfl⟩ := hreturned
    exact ⟨record, hmove, hrecord, rfl⟩
  · exact idle_of_returnedOf_eq_nil (by rwa [session_suspend]) hnone
  · exact idle_of_returnedOf_eq_nil (by rwa [session_suspend]) hnone

/-- Every move but a sign-in or sign-out is idle while nobody is signed in, if the calls under way
remember nobody of this epoch. -/
theorem idle_of_vacant (hstep : activity.step? move = some step)
    (hepoch : ¬ BeginsEpoch move step.result) (hvacant : activity.session.Vacant)
    (hreads : ReadsNothing activity.session.store) (hquiet : move.KeepsContents)
    (hstale : ∀ id user unwrapBKey, activity.waiting? id = some (.keys user unwrapBKey) →
      activity.session.epoch ≠ user.generation) : Idle activity.session move step := by
  have hstate : activity.session.snapshot.state = activity.session := by
    rw [hvacant.snapshot hreads]
  have hstays := hvacant.stays
  cases allows_of_step? hstep with
  | look =>
    rw [hvacant.snapshot hreads]
    exact idle_of_returnedOf_eq_nil hstays rfl
  | evict => exact idle_of_returnedOf_eq_nil ⟨rfl, rfl, rfl⟩ rfl
  | alterStore change =>
    exact idle_of_returnedOf_eq_nil ⟨hvacant.cached, rfl, hquiet activity.session.store⟩ rfl
  | signOut => exact absurd (.signOut _) hepoch
  | signIn record =>
    cases hresult : (activity.session.signIn record).result with
    | ok _ => exact absurd (hresult ▸ .signIn record) hepoch
    | error error =>
      obtain ⟨hafter, hnone⟩ := hvacant.signIn hresult
      rw [hnone]
      exact idle_of_returnedOf_eq_nil hafter rfl
  | queueKeys hnew hheld => exact idle_of_returnedOf_eq_nil (by rwa [session_suspend]) rfl
  | drop hwaiting => exact idle_of_returnedOf_eq_nil (by rwa [session_dropCall]) rfl
  | @beginKeys id hnew hfree =>
    refine ⟨by rwa [session_enterKeys, hstate], ?_⟩
    rw [enterKeys_of_vacant { activity with fetching := some id } hvacant hreads]
    exact fun other answer hreturned => by simp at hreturned
  | @takeTurn id hturn hwaiting =>
    refine ⟨by rwa [session_enterKeys, hstate], ?_⟩
    rw [enterKeys_of_vacant activity hvacant hreads]
    exact fun other answer hreturned => by simp at hreturned
  | answerKeys hwaiting answer =>
    obtain ⟨hafter, ⟨error, hresult⟩, hlogs⟩ :=
      finishKeys_of_stale (hstale _ _ _ hwaiting) _ answer
    rw [hresult]
    refine idle_of_refused ?_ hlogs.2.2
    rwa [session_passTurn, session_forget, hafter]
  | beginVerification hnew record =>
    apply idle_continuePoll (by rwa [beginVerification_state]) (returnedOf_beginVerification _ _)
    intro verified hresult
    obtain ⟨rfl, hrecord⟩ := of_beginVerification_eq_verified hresult
    exact ⟨rfl, hrecord⟩
  | answerStatus hwaiting answer =>
    obtain ⟨hafter, hlogs, hresult⟩ := hvacant.answerStatus hreads activity.polling _ answer
    apply idle_continuePoll (by rwa [hafter]) hlogs.2.2
    intro record hverified
    exact absurd hverified (hresult record)
  | wake hwaiting =>
    apply idle_continuePoll (by rwa [ask_state]) (returnedOf_ask _ _)
    intro record hverified
    exact absurd hverified (result_ask_ne _ _ _)

end Activity

end AccountManager.Session
