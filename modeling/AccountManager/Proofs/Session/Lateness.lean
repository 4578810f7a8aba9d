import AccountManager.Proofs.Session.Epochs
import AccountManager.Proofs.Storage.Lawful

/-!
# Late returns of a session

What a call returns that an epoch has left behind, if the store can be read. The epoch is compared
where a record would be written and before the service is asked again, but after the answer of the
service was looked at: a late answer that is an error, keys that cannot be unwrapped and the last
negative answer about the address are reported as such, and everything else as nobody being signed
in.
-/

namespace AccountManager

namespace Storage

def Readable {σ : Type} [CredentialStore σ] (store : σ) : Prop :=
  ∃ found, CredentialStore.get store = .ok found

theorem readable_of_contents {store : BlobCredentials MemoryBlobs} {record : CredentialRecord}
    (hcontents : contents store = some (.ok record)) : Readable store :=
  ⟨some record, BlobCredentials.ReadsBlob.tells ⟨_, rfl⟩ record hcontents⟩

end Storage

namespace Session

open Storage

variable {σ : Type} [CredentialStore σ] {session : Session σ}

theorem snapshot_of_readable (hreadable : Readable session.store) :
    ∃ found, session.snapshot.result = .ok found := by
  obtain ⟨stored, hget⟩ := hreadable
  unfold snapshot
  split
  · exact ⟨_, rfl⟩
  · split
    · exact ⟨_, rfl⟩
    · rw [hget]
      cases stored <;> exact ⟨_, rfl⟩

theorem finishVerification_of_late {generation : Nat} (hstale : session.epoch ≠ generation)
    (hreadable : Readable session.store) :
    (session.finishVerification generation).result = .error .notSignedIn := by
  obtain ⟨found, hlooked⟩ := snapshot_of_readable hreadable
  unfold finishVerification
  dsimp only
  cases found with
  | none => simp only [hlooked]
  | some user =>
    have hgeneration : user.generation ≠ generation := by
      rw [(of_snapshot_eq_some hlooked).1]
      exact hstale
    simp only [hlooked, hgeneration, ne_eq, not_false_eq_true, if_true]

namespace Activity

variable {activity : Activity σ} {move : Move σ} {step : Step (Activity σ) Reply}
  {id other : CallId} {result : Except AccountError Answer}

/-- What a call of another epoch returns, by the last thing that happened to it. -/
inductive ReturnsLate (activity : Activity σ) (id : CallId) : Move σ → AccountError → Prop
  | keysRefused {user : SignedInUser} {unwrapBKey : String}
      (hwaiting : activity.waiting? id = some (.keys user unwrapBKey)) (error : RemoteError) :
      activity.ReturnsLate id (.answerKeys id (.error error)) (.remoteCall error)
  | keysUnusable {user : SignedInUser} {unwrapBKey : String} {bundle : KeyBundle} {error : KeyError}
      (hwaiting : activity.waiting? id = some (.keys user unwrapBKey))
      (hderived : KeyDerivation.deriveKB bundle.wrapKB unwrapBKey = .error error) :
      activity.ReturnsLate id (.answerKeys id (.ok bundle)) (.invalidKey error)
  | keysDiscarded {user : SignedInUser} {unwrapBKey kB : String} {bundle : KeyBundle}
      (hwaiting : activity.waiting? id = some (.keys user unwrapBKey))
      (hderived : KeyDerivation.deriveKB bundle.wrapKB unwrapBKey = .ok kB) :
      activity.ReturnsLate id (.answerKeys id (.ok bundle)) .notSignedIn
  | statusRefused {poll : Poll} (hwaiting : activity.waiting? id = some (.status poll))
      (error : RemoteError) :
      activity.ReturnsLate id (.answerStatus id (.error error)) (.remoteCall error)
  | timedOut {poll : Poll} (hwaiting : activity.waiting? id = some (.status poll))
      (hlimit : activity.polling.limit ≤ poll.asked) :
      activity.ReturnsLate id (.answerStatus id (.ok false))
        (.verificationTimedOut activity.polling.limit)
  | verificationDiscarded {poll : Poll} (hwaiting : activity.waiting? id = some (.status poll)) :
      activity.ReturnsLate id (.answerStatus id (.ok true)) .notSignedIn
  | stopped {poll : Poll} (hwaiting : activity.waiting? id = some (.timer poll)) :
      activity.ReturnsLate id (.wake id) .notSignedIn

omit [CredentialStore σ] in
theorem result_of_returnKeys {keys : Except AccountError CredentialRecord} {effects : List Effect}
    (hnone : returnedOf effects = [])
    (hreturned : (other, result) ∈ returnedOf (activity.returnKeys id keys effects).effects) :
    other = id ∧ result = keys.map .record := by
  simpa [returnKeys, hnone] using hreturned

omit [CredentialStore σ] in
theorem result_of_continuePoll {continued : Step (Session σ) (Except AccountError PollPlan)}
    (hnone : returnedOf continued.effects = [])
    (hreturned : (other, result) ∈ returnedOf (activity.continuePoll id continued).effects) :
    other = id ∧ ((∃ error, continued.result = .error error ∧ result = .error error) ∨
      ∃ record, continued.result = .ok (.verified record) ∧ result = .ok (.record record)) := by
  unfold continuePoll at hreturned
  dsimp only at hreturned
  split at hreturned
  · rename_i error hresult
    obtain ⟨rfl, rfl⟩ : other = id ∧ result = .error error := by simpa [hnone] using hreturned
    exact ⟨rfl, .inl ⟨error, hresult, rfl⟩⟩
  · rename_i record hresult
    obtain ⟨rfl, rfl⟩ : other = id ∧ result = .ok (.record record) := by
      simpa [hnone] using hreturned
    exact ⟨rfl, .inr ⟨record, hresult, rfl⟩⟩
  · simp [hnone] at hreturned
  · simp [hnone] at hreturned

/-! ### Who returns -/

theorem result_of_enterKeys
    (hreturned : (other, result) ∈ returnedOf (activity.enterKeys id).effects) :
    other = id ∧ ∃ keys : Except AccountError CredentialRecord, result = keys.map .record := by
  have hnone := activity.session.returnedOf_beginKeys
  unfold enterKeys at hreturned
  dsimp only at hreturned
  split at hreturned
  · obtain ⟨hid, hresult⟩ := result_of_returnKeys hnone hreturned
    exact ⟨hid, _, hresult⟩
  · obtain ⟨hid, hresult⟩ := result_of_returnKeys hnone hreturned
    exact ⟨hid, _, hresult⟩
  · rw [hnone] at hreturned
    cases hreturned

/-- A call returns in a move of its own, with a record or an error. -/
theorem of_returned (hstep : activity.step? move = some step)
    (hreturned : (id, result) ∈ returnedOf step.effects) :
    move.caller? = some id ∧
      ∃ returned : Except AccountError CredentialRecord, result = returned.map .record := by
  have hpoll {continued : Step (Session σ) (Except AccountError PollPlan)} {caller : CallId}
      (hnone : returnedOf continued.effects = [])
      (hreturned : (id, result) ∈
        returnedOf (activity.continuePoll caller continued).effects) :
      some caller = some id ∧
        ∃ returned : Except AccountError CredentialRecord, result = returned.map .record := by
    obtain ⟨rfl, ⟨error, -, rfl⟩ | ⟨record, -, rfl⟩⟩ := result_of_continuePoll hnone hreturned
    · exact ⟨rfl, .error error, rfl⟩
    · exact ⟨rfl, .ok record, rfl⟩
  cases allows_of_step? hstep with
  | evict | alterStore | queueKeys | drop => cases hreturned
  | look =>
    rw [activity.session.snapshot_onlyLogs.2.2] at hreturned
    cases hreturned
  | signIn record =>
    rw [returnedOf_signIn] at hreturned
    cases hreturned
  | signOut =>
    rw [returnedOf_signOut] at hreturned
    cases hreturned
  | beginKeys | takeTurn =>
    obtain ⟨rfl, hkeys⟩ := result_of_enterKeys hreturned
    exact ⟨rfl, hkeys⟩
  | answerKeys =>
    obtain ⟨rfl, hkeys⟩ := result_of_returnKeys (returnedOf_finishKeys _ _ _ _) hreturned
    exact ⟨rfl, _, hkeys⟩
  | beginVerification => exact hpoll (returnedOf_beginVerification _ _) hreturned
  | answerStatus => exact hpoll (returnedOf_answerStatus _ _ _ _) hreturned
  | wake => exact hpoll (returnedOf_ask _ _) hreturned

theorem queues_of_begins (hstep : activity.step? move = some step) (hbegins : move.Begins id)
    (hcaptures : ¬ activity.Captures id move) :
    step.state.waiting? id = some .turn ∨ step.state.waiting? id = none := by
  cases allows_of_step? hstep with
  | look | evict | signIn | signOut | takeTurn | answerKeys | answerStatus | wake | drop
  | alterStore => exact hbegins.elim
  | beginKeys hnew hfree => exact absurd ⟨hbegins, hfree⟩ hcaptures
  | queueKeys hnew hheld =>
    cases hbegins
    exact .inl (by simp)
  | beginVerification hnew given =>
    cases hbegins
    have hverified : given.isVerified = true := by
      simpa using fun hunverified => hcaptures ⟨rfl, hunverified⟩
    right
    rw [waiting?_continuePoll, if_pos rfl]
    simp [Session.beginVerification, hverified, Except.toOption, PollPlan.waiting?]

/-- A call that queues makes a move of its own only when its turn comes or when it is dropped. -/
theorem turn_or_drop_of_caller (hstep : activity.step? move = some step)
    (hwaiting : activity.waiting? id = some .turn) (hcaller : move.caller? = some id) :
    move = .takeTurn id ∨ move = .drop id := by
  cases allows_of_step? hstep with
  | look | evict | signIn | signOut | alterStore => cases hcaller
  | takeTurn => exact .inl (congrArg Move.takeTurn (Option.some.inj hcaller))
  | drop => exact .inr (congrArg Move.drop (Option.some.inj hcaller))
  | beginKeys hother | queueKeys hother | beginVerification hother | answerKeys hother
  | answerStatus hother | wake hother =>
    cases hcaller
    rw [hwaiting] at hother
    cases hother

theorem queued_step (hstep : activity.step? move = some step)
    (hwaiting : activity.waiting? id = some .turn) :
    step.state.waiting? id = some .turn ∨ move = .takeTurn id ∨ move = .drop id := by
  by_cases hcaller : move.caller? = some id
  · exact .inr (turn_or_drop_of_caller hstep hwaiting hcaller)
  · rw [waiting?_of_not_caller hstep hcaller]
    exact .inl hwaiting

/-! ### What is returned late -/

theorem returnsLate_of_answerKeys {user : SignedInUser} {unwrapBKey : String}
    (hwaiting : activity.waiting? id = some (.keys user unwrapBKey))
    (hstale : activity.session.epoch ≠ user.generation) (answer : Except RemoteError KeyBundle) :
    ∃ error, (activity.session.finishKeys user unwrapBKey answer).result = .error error ∧
      activity.ReturnsLate id (.answerKeys id answer) error := by
  cases answer with
  | error error => exact ⟨_, rfl, .keysRefused hwaiting error⟩
  | ok bundle =>
    unfold finishKeys
    cases hderived : KeyDerivation.deriveKB bundle.wrapKB unwrapBKey with
    | error error =>
      simp only [hderived]
      exact ⟨_, rfl, .keysUnusable hwaiting hderived⟩
    | ok kB =>
      simp only [hderived, commit_of_stale hstale]
      exact ⟨_, rfl, .keysDiscarded hwaiting hderived⟩

/-- A late answer about the address ends the wait, or the wait goes on. -/
theorem returnsLate_of_answerStatus {poll : Poll}
    (hwaiting : activity.waiting? id = some (.status poll))
    (hstale : activity.session.epoch ≠ poll.generation)
    (hreadable : Readable activity.session.store) (answer : Except RemoteError Bool) :
    (activity.session.answerStatus activity.polling poll answer).result = .ok (.sleep poll) ∨
      ∃ error, (activity.session.answerStatus activity.polling poll answer).result = .error error ∧
        activity.ReturnsLate id (.answerStatus id answer) error := by
  unfold Session.answerStatus
  match answer with
  | .error error => exact .inr ⟨_, rfl, .statusRefused hwaiting error⟩
  | .ok true =>
    refine .inr ⟨_, ?_, .verificationDiscarded hwaiting⟩
    simp only [finishVerification_of_late hstale hreadable]
    rfl
  | .ok false =>
    by_cases hlimit : poll.asked < activity.polling.limit
    · simp only [hlimit, if_true]
      exact .inl trivial
    · simp only [hlimit, if_false]
      exact .inr ⟨_, rfl, .timedOut hwaiting (Nat.le_of_not_lt hlimit)⟩

/-- A call that goes on with another epoch than that of the session returns late. -/
theorem returnsLate_of_stale {generation : Nat} (hstep : activity.step? move = some step)
    (hcaller : move.caller? = some id) (hbegins : ¬ move.Begins id)
    (hgoesOn : activity.GoesOnWith id generation) (hstale : activity.session.epoch ≠ generation)
    (hreadable : Readable activity.session.store)
    (hreturned : (other, result) ∈ returnedOf step.effects) :
    other = id ∧ ∃ error, result = .error error ∧ activity.ReturnsLate id move error := by
  cases allows_of_step? hstep with
  | look | evict | signIn | signOut | alterStore => cases hcaller
  | beginKeys | queueKeys | beginVerification => exact absurd (Option.some.inj hcaller) hbegins
  | drop => cases hreturned
  | takeTurn hturn hwaiting =>
    cases hcaller
    cases hgoesOn _ hwaiting
  | answerKeys hwaiting answer =>
    cases hcaller
    obtain rfl := Option.some.inj (hgoesOn _ hwaiting)
    obtain ⟨rfl, rfl⟩ := result_of_returnKeys (returnedOf_finishKeys _ _ _ _) hreturned
    obtain ⟨error, hresult, hlate⟩ := returnsLate_of_answerKeys hwaiting hstale answer
    rw [hresult]
    exact ⟨rfl, error, rfl, hlate⟩
  | answerStatus hwaiting answer =>
    cases hcaller
    obtain rfl := Option.some.inj (hgoesOn _ hwaiting)
    obtain ⟨rfl, hended⟩ := result_of_continuePoll (returnedOf_answerStatus _ _ _ _) hreturned
    rcases returnsLate_of_answerStatus hwaiting hstale hreadable answer with
      hsleeps | ⟨error, hresult, hlate⟩
    · rw [hsleeps] at hended
      rcases hended with ⟨error, hresult, -⟩ | ⟨record, hresult, -⟩ <;> cases hresult
    · rw [hresult] at hended
      rcases hended with ⟨_, hsame, rfl⟩ | ⟨record, hsame, -⟩
      · cases hsame
        exact ⟨rfl, error, rfl, hlate⟩
      · cases hsame
  | wake hwaiting =>
    cases hcaller
    obtain rfl := Option.some.inj (hgoesOn _ hwaiting)
    obtain ⟨rfl, hended⟩ := result_of_continuePoll (returnedOf_ask _ _) hreturned
    rw [ask_of_stale hstale] at hended
    rcases hended with ⟨error, hsame, rfl⟩ | ⟨record, hsame, -⟩
    · cases hsame
      exact ⟨rfl, _, rfl, .stopped hwaiting⟩
    · cases hsame

end Activity

end Session

end AccountManager
