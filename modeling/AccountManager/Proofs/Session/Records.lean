import AccountManager.Proofs.Session.Vacancy

/-!
# The records of a session

The record that a session shows was signed in, or it was written by a call that ended: one that
fetched the keys of a user, or one that waited for an address to be verified. Everything else shows
what could be seen before, as long as the store is not changed from outside.
-/

namespace AccountManager.Session

open Storage

variable {σ : Type} [CredentialStore σ] [LawfulStore σ] {session : Session σ}
  {record : CredentialRecord}

/-- Whether a record is the cached one or the one that is loaded once nothing is cached. -/
inductive Shows (session : Session σ) (record : CredentialRecord) : Prop
  | cached (hcached : session.cached = some record)
  | stored (hpending : session.pendingClear = false)
      (hcontents : contents session.store = some (.ok record))

theorem Shows.of_snapshot {user : SignedInUser}
    (hlooked : session.snapshot.result = .ok (some user)) : session.Shows user.record := by
  unfold snapshot at hlooked
  split at hlooked
  · rename_i record hcached
    obtain rfl := Option.some.inj (Except.ok.inj hlooked)
    exact .cached hcached
  · split at hlooked
    · cases hlooked
    · rename_i hpending
      split at hlooked
      · cases hlooked
      · cases hlooked
      · rename_i record hget
        obtain rfl := Option.some.inj (Except.ok.inj hlooked)
        exact .stored (by simpa using hpending) (LawfulStore.of_get_eq_ok session.store hget)

theorem Shows.of_loads {after : Session σ} (hloads : session.Loads after)
    (hshows : after.Shows record) : session.Shows record := by
  rcases hloads with rfl | ⟨hcached, hpending, loaded, hget, rfl⟩
  · exact hshows
  · have hcontents := LawfulStore.of_get_eq_ok session.store hget
    cases hshows with
    | cached heq =>
      obtain rfl := Option.some.inj heq
      exact .stored hpending hcontents
    | stored hpending hheld => exact .stored hpending hheld

theorem Shows.of_evict (hshows : session.evict.Shows record) : session.Shows record := by
  cases hshows with
  | cached hcached => cases hcached
  | stored hpending hcontents => exact .stored hpending hcontents

theorem Shows.of_contents {store : σ} (hsame : contents store = contents session.store)
    (hshows : Shows { session with store } record) : session.Shows record := by
  cases hshows with
  | cached hcached => exact .cached hcached
  | stored hpending hcontents => exact .stored hpending (hsame ▸ hcontents)

/-- Whether a record is that of a user, perhaps marked as verified or with the keys that the service
handed out. -/
inductive Derived (user : CredentialRecord) : CredentialRecord → Prop
  | same : Derived user user
  | marked : Derived user { user with isVerified := true }
  | keyed (kA kB : String) : Derived user (withKeys user kA kB)

theorem Derived.withKeys {user : CredentialRecord} (h : Derived user record) (kA kB : String) :
    Derived user (withKeys record kA kB) := by
  cases h <;> exact .keyed kA kB

theorem Derived.verified {user : CredentialRecord} (h : Derived user record) :
    Derived user { record with isVerified := true } := by
  cases h with
  | same | marked => exact .marked
  | keyed kA kB => exact .keyed kA kB

theorem Derived.sessionToken {user : CredentialRecord} (h : Derived user record) :
    record.sessionToken = user.sessionToken := by
  cases h <;> rfl

theorem Derived.withKeys_eq {user : CredentialRecord} (h : Derived user record) {kA kB : String} :
    Session.withKeys record kA kB = Session.withKeys user kA kB := by
  cases h <;> rfl

/-- A record that was not marked is that of the user as it was signed in. -/
theorem Derived.eq_of_unverified {user : CredentialRecord} (h : Derived user record)
    (hunverified : record.isVerified = false) : record = user := by
  cases h with
  | same => rfl
  | marked | keyed => cases hunverified

theorem Derived.keyFetchToken {user : CredentialRecord} (h : Derived user record) {token : String}
    (htoken : record.keyFetchToken = some token) : user.keyFetchToken = some token := by
  cases h with
  | same | marked => exact htoken
  | keyed => cases htoken

/-! ### Writing -/

namespace Activity

variable {activity : Activity σ} {move : Move σ} {step : Step (Activity σ) Reply} {id : CallId}

/-- The records that a move may write: that of a user whose keys came, and that of the user who is
seen when a wait of the same epoch hears that the address was verified. -/
inductive Writes (activity : Activity σ) : Move σ → CredentialRecord → Prop
  | keys {id : CallId} {user : SignedInUser} {unwrapBKey kB : String} {bundle : KeyBundle}
      (hwaiting : activity.waiting? id = some (.keys user unwrapBKey))
      (hepoch : user.generation = activity.session.epoch) :
      activity.Writes (.answerKeys id (.ok bundle))
        (withKeys user.record (Hex.encode bundle.kA) kB)
  | verified {id : CallId} {poll : Poll} {user : SignedInUser}
      (hwaiting : activity.waiting? id = some (.status poll))
      (hepoch : poll.generation = activity.session.epoch)
      (hlooked : activity.session.snapshot.result = .ok (some user)) :
      activity.Writes (.answerStatus id (.ok true)) { user.record with isVerified := true }

/-- What the session may be after a move within an epoch: nothing is seen that was not seen before,
or the move has written a record. -/
inductive Alters (activity : Activity σ) (move : Move σ) : Session σ → Prop
  | keeps {loaded : Session σ} {store : σ} (hloads : activity.session.Loads loaded)
      (hsame : contents store = contents activity.session.store) :
      activity.Alters move { loaded with store }
  | evicts : activity.Alters move activity.session.evict
  | writes {loaded : Session σ} {store : σ} {record : CredentialRecord}
      (hloads : activity.session.Loads loaded) (hheld : contents store = some (.ok record))
      (hwrites : activity.Writes move record) :
      activity.Alters move { loaded with store, cached := some record }

theorem alters_of_loads {after : Session σ} (hloads : activity.session.Loads after) :
    activity.Alters move after :=
  .keeps hloads (congrArg contents hloads.store)

theorem alters_of_commit {loaded : Session σ} {generation : Nat}
    (hloads : activity.session.Loads loaded)
    (hwrites : generation = activity.session.epoch → activity.Writes move record) :
    activity.Alters move (loaded.commit generation record).state := by
  cases hresult : (loaded.commit generation record).result with
  | ok _ =>
    obtain ⟨hepoch, store, hput, hstate⟩ := of_commit_eq_ok hresult
    rw [hstate]
    exact .writes hloads (contents_of_put_eq_ok hput) (hwrites (hepoch.symm.trans hloads.epoch))
  | error error =>
    rcases of_commit_eq_error hresult with hstate | ⟨refusal, store, hput, hstate⟩
    · rw [hstate]
      exact alters_of_loads hloads
    · rw [hstate]
      apply Alters.keeps hloads
      rw [contents_of_put_eq_error hput, hloads.store]

theorem alters_of_answerStatus {poll : Poll} {answer : Except RemoteError Bool}
    (hwaiting : activity.waiting? id = some (.status poll)) :
    activity.Alters (.answerStatus id answer)
      (activity.session.answerStatus activity.polling poll answer).state := by
  have hloads := activity.session.snapshot_loads
  unfold Session.answerStatus
  split
  · exact alters_of_loads (.inl rfl)
  · rcases finishVerification_state activity.session poll.generation with
      hstate | ⟨user, hlooked, hgeneration, hstate⟩
    · rw [hstate]
      exact alters_of_loads hloads
    · rw [hstate]
      exact alters_of_commit hloads fun hepoch => .verified hwaiting hepoch hlooked
  · split <;> exact alters_of_loads (.inl rfl)

/-- A move within an epoch alters the session in these ways only. -/
theorem alters_of_step? (hstep : activity.step? move = some step)
    (hepoch : ¬ BeginsEpoch move step.result) (hquiet : move.KeepsContents) :
    activity.Alters move step.state.session := by
  have hloads := activity.session.snapshot_loads
  cases allows_of_step? hstep with
  | look => exact alters_of_loads hloads
  | evict => exact .evicts
  | alterStore change => exact .keeps (.inl rfl) (hquiet activity.session.store)
  | signOut => exact absurd (.signOut _) hepoch
  | signIn signed =>
    unfold Session.signIn at hepoch ⊢
    split at hepoch
    · rename_i refusal store hput
      exact .keeps (.inl rfl) (contents_of_put_eq_error hput)
    · exact absurd (.signIn signed) hepoch
  | beginKeys hnew hfree | takeTurn hturn hwaiting =>
    rw [session_enterKeys]
    exact alters_of_loads hloads
  | queueKeys hnew hheld =>
    rw [session_suspend]
    exact alters_of_loads (.inl rfl)
  | drop hwaiting =>
    rw [session_dropCall]
    exact alters_of_loads (.inl rfl)
  | answerKeys hwaiting answer =>
    rw [session_returnKeys]
    dsimp only
    rcases finishKeys_state activity.session _ _ answer with hstate | ⟨bundle, kB, rfl, hstate⟩
    · rw [hstate]
      exact alters_of_loads (.inl rfl)
    · rw [hstate]
      exact alters_of_commit (.inl rfl) fun hepoch => .keys hwaiting hepoch
  | beginVerification hnew given =>
    rw [session_continuePoll, beginVerification_state]
    exact alters_of_loads (.inl rfl)
  | answerStatus hwaiting answer =>
    rw [session_continuePoll]
    exact alters_of_answerStatus hwaiting
  | wake hwaiting =>
    rw [session_continuePoll, ask_state]
    exact alters_of_loads (.inl rfl)

theorem Alters.pendingClear {after : Session σ} (h : activity.Alters move after) :
    after.pendingClear = activity.session.pendingClear := by
  cases h with
  | keeps hloads => exact hloads.pendingClear
  | evicts => rfl
  | writes hloads => exact hloads.pendingClear

theorem Alters.shows {after : Session σ} (h : activity.Alters move after)
    (hshows : after.Shows record) :
    activity.session.Shows record ∨ activity.Writes move record := by
  cases h with
  | keeps hloads hsame =>
    refine .inl (Shows.of_loads hloads (hshows.of_contents ?_))
    rw [hsame, hloads.store]
  | evicts => exact .inl hshows.of_evict
  | writes hloads hheld hwrites =>
    right
    cases hshows with
    | cached hcached => exact Option.some.inj hcached ▸ hwrites
    | stored hpending hcontents =>
      rw [hheld] at hcontents
      exact Except.ok.inj (Option.some.inj hcontents) ▸ hwrites

/-- What the store holds after a move within an epoch it held before, or the move wrote it. -/
theorem Alters.contents {after : Session σ} (h : activity.Alters move after) :
    Storage.contents after.store = Storage.contents activity.session.store ∨
      ∃ record, Storage.contents after.store = some (.ok record) ∧ activity.Writes move record := by
  cases h with
  | keeps hloads hsame => exact .inl hsame
  | evicts => exact .inl rfl
  | writes hloads hheld hwrites => exact .inr ⟨_, hheld, hwrites⟩

/-- Whether a record was just made the signed-in user. -/
structure Presents (session : Session σ) (record : CredentialRecord) : Prop where
  cached : session.cached = some record
  readable : session.pendingClear = false
  stored : contents session.store = some (.ok record)

theorem presents_of_beginsEpoch (hstep : activity.step? move = some step)
    (hepoch : BeginsEpoch move step.result) :
    (∃ record, move = .signIn record ∧ step.result = .stored (.ok ()) ∧
      Presents step.state.session record) ∨ move = .signOut ∧ step.state.session.Vacant := by
  rcases hepoch.eq with ⟨signed, rfl, hresult⟩ | rfl
  · left
    cases allows_of_step? hstep with
    | signIn =>
      refine ⟨signed, rfl, hresult, ?_⟩
      unfold Session.signIn at hresult ⊢
      split at hresult
      · cases hresult
      · rename_i store hput
        exact ⟨rfl, rfl, contents_of_put_eq_ok hput⟩
  · cases allows_of_step? hstep with
    | signOut => exact .inr ⟨rfl, signOut_vacant activity.session⟩

theorem shows_of_beginsEpoch (hstep : activity.step? move = some step)
    (hepoch : BeginsEpoch move step.result) (hshows : step.state.session.Shows record) :
    move = .signIn record ∧ step.result = .stored (.ok ()) := by
  rcases presents_of_beginsEpoch hstep hepoch with
    ⟨signed, rfl, hresult, hpresents⟩ | ⟨rfl, hvacant⟩
  · refine ⟨?_, hresult⟩
    cases hshows with
    | cached hcached =>
      rw [hpresents.cached] at hcached
      rw [Option.some.inj hcached]
    | stored hpending hcontents =>
      rw [hpresents.stored] at hcontents
      rw [Except.ok.inj (Option.some.inj hcontents)]
  · cases hshows with
    | cached hcached =>
      rw [hvacant.cached] at hcached
      cases hcached
    | stored hpending hcontents =>
      rw [hvacant.erased hpending] at hcontents
      cases hcontents

/-! ### Whose records they are -/

/-- Whether every record that is shown, or remembered by a call, is that of a user of its epoch. -/
structure Belongs (activity : Activity σ) (User : Nat → CredentialRecord → Prop) : Prop where
  shown : ∀ record, activity.session.Shows record →
    ∃ user, User activity.session.epoch user ∧ Derived user record
  remembered : ∀ id user unwrapBKey, activity.waiting? id = some (.keys user unwrapBKey) →
    ∃ owner, User user.generation owner ∧ Derived owner user.record

variable {User : Nat → CredentialRecord → Prop}

theorem Belongs.mono {More : Nat → CredentialRecord → Prop} (h : activity.Belongs User)
    (hmore : ∀ epoch user, User epoch user → More epoch user) : activity.Belongs More where
  shown record hshows := by
    obtain ⟨user, huser, hderived⟩ := h.shown record hshows
    exact ⟨user, hmore _ _ huser, hderived⟩
  remembered id user unwrapBKey hwaiting := by
    obtain ⟨owner, howner, hderived⟩ := h.remembered id user unwrapBKey hwaiting
    exact ⟨owner, hmore _ _ howner, hderived⟩

theorem Belongs.seen (h : activity.Belongs User) {user : SignedInUser}
    (hlooked : activity.session.snapshot.result = .ok (some user)) :
    ∃ owner, User activity.session.epoch owner ∧ Derived owner user.record :=
  h.shown user.record (.of_snapshot hlooked)

theorem Belongs.written (h : activity.Belongs User) (hwrites : activity.Writes move record) :
    ∃ user, User activity.session.epoch user ∧ Derived user record := by
  cases hwrites with
  | keys hwaiting hepoch =>
    obtain ⟨owner, howner, hderived⟩ := h.remembered _ _ _ hwaiting
    exact ⟨owner, hepoch ▸ howner, hderived.withKeys _ _⟩
  | verified hwaiting hepoch hlooked =>
    obtain ⟨owner, howner, hderived⟩ := h.seen hlooked
    exact ⟨owner, howner, hderived.verified⟩

/-- Records keep belonging to the users of their epochs, whoever signs in next. -/
theorem Belongs.of_step? (h : activity.Belongs User) (hstep : activity.step? move = some step)
    (hquiet : move.KeepsContents)
    (hsigned : ∀ record, move = .signIn record → step.result = .stored (.ok ()) →
      User (activity.session.epoch + 1) record) : step.state.Belongs User := by
  constructor
  · intro record hshows
    by_cases hepoch : BeginsEpoch move step.result
    · obtain ⟨rfl, hresult⟩ := shows_of_beginsEpoch hstep hepoch hshows
      rw [epoch_of_beginsEpoch hstep hepoch]
      exact ⟨record, hsigned record rfl hresult, .same⟩
    · rw [epoch_of_not_beginsEpoch hstep hepoch]
      rcases (alters_of_step? hstep hepoch hquiet).shows hshows with hbefore | hwrites
      · exact h.shown record hbefore
      · exact h.written hwrites
  · intro id user unwrapBKey hwaiting
    rcases remembered_of_step? hstep hwaiting with hbefore | hlooked
    · exact h.remembered id user unwrapBKey hbefore
    · rw [(of_snapshot_eq_some hlooked).1]
      exact h.seen hlooked

/-! ### Returning -/

/-- The records that a call may return: that of a user who has the keys already, the one that was
given and is verified, and the one that the call has written. -/
inductive Returns (activity : Activity σ) (id : CallId) : Move σ → CredentialRecord → Prop
  | present {move : Move σ} {user : SignedInUser}
      (hmove : move = .beginKeys id ∨ move = .takeTurn id)
      (hlooked : activity.session.snapshot.result = .ok (some user)) :
      activity.Returns id move user.record
  | given {record : CredentialRecord} (hverified : record.isVerified = true) :
      activity.Returns id (.beginVerification id record) record
  | written {move : Move σ} {record : CredentialRecord} (hcaller : move.caller? = some id)
      (hwrites : activity.Writes move record) : activity.Returns id move record

omit [CredentialStore σ] [LawfulStore σ] in
theorem of_returned_returnKeys {answer : Answer} {other : CallId}
    {result : Except AccountError CredentialRecord} {effects : List Effect}
    (hnone : returnedOf effects = [])
    (hreturned : (other, .ok answer) ∈ returnedOf (activity.returnKeys id result effects).effects) :
    other = id ∧ ∃ record, result = .ok record ∧ answer = .record record := by
  simp only [returnKeys, returnedOf_append, hnone, returnedOf_cons, returnedOf_nil,
    List.append_nil, List.nil_append, List.mem_singleton, Prod.mk.injEq] at hreturned
  cases result with
  | error error => cases hreturned.2
  | ok record =>
    cases hreturned.2
    exact ⟨hreturned.1, record, rfl, rfl⟩

omit [LawfulStore σ] in
theorem of_returned_enterKeys {answer : Answer} {other : CallId}
    (hreturned : (other, .ok answer) ∈ returnedOf (activity.enterKeys id).effects) :
    other = id ∧ ∃ user, activity.session.snapshot.result = .ok (some user) ∧
      answer = .record user.record := by
  have hnone := activity.session.returnedOf_beginKeys
  unfold enterKeys at hreturned
  dsimp only at hreturned
  split at hreturned
  · obtain ⟨-, record, hresult, -⟩ := of_returned_returnKeys hnone hreturned
    cases hresult
  · rename_i hresult
    obtain ⟨user, hlooked, rfl⟩ := of_beginKeys_eq_present hresult
    obtain ⟨rfl, record, heq, rfl⟩ := of_returned_returnKeys hnone hreturned
    cases heq
    exact ⟨rfl, user, hlooked, rfl⟩
  · rw [hnone] at hreturned
    cases hreturned

omit [CredentialStore σ] [LawfulStore σ] in
theorem of_returned_continuePoll {answer : Answer} {other : CallId}
    {continued : Step (Session σ) (Except AccountError PollPlan)}
    (hnone : returnedOf continued.effects = [])
    (hreturned : (other, .ok answer) ∈ returnedOf (activity.continuePoll id continued).effects) :
    other = id ∧ ∃ record, continued.result = .ok (.verified record) ∧
      answer = .record record := by
  unfold continuePoll at hreturned
  dsimp only at hreturned
  split at hreturned
  · simp [hnone] at hreturned
  · rename_i record hresult
    simp only [returnedOf_append, hnone, returnedOf_cons, returnedOf_nil, List.append_nil,
      List.nil_append, List.mem_singleton, Prod.mk.injEq, Except.ok.injEq] at hreturned
    exact ⟨hreturned.1, record, hresult, hreturned.2⟩
  · simp [hnone] at hreturned
  · simp [hnone] at hreturned

omit [LawfulStore σ] in
/-- A call that succeeds returns a record, for one of these reasons. -/
theorem returns_of_step? {answer : Answer} (hstep : activity.step? move = some step)
    (hreturned : (id, .ok answer) ∈ returnedOf step.effects) :
    ∃ record, answer = .record record ∧ activity.Returns id move record := by
  cases allows_of_step? hstep with
  | look =>
    rw [activity.session.snapshot_onlyLogs.2.2] at hreturned
    cases hreturned
  | evict | alterStore | queueKeys | drop => cases hreturned
  | signOut =>
    rw [returnedOf_signOut] at hreturned
    cases hreturned
  | signIn signed =>
    rw [returnedOf_signIn] at hreturned
    cases hreturned
  | beginKeys hnew hfree =>
    obtain ⟨rfl, user, hlooked, rfl⟩ := of_returned_enterKeys hreturned
    exact ⟨_, rfl, .present (.inl rfl) hlooked⟩
  | takeTurn hturn hwaiting =>
    obtain ⟨rfl, user, hlooked, rfl⟩ := of_returned_enterKeys hreturned
    exact ⟨_, rfl, .present (.inr rfl) hlooked⟩
  | answerKeys hwaiting answer =>
    obtain ⟨rfl, record, hresult, rfl⟩ :=
      of_returned_returnKeys (returnedOf_finishKeys _ _ _ _) hreturned
    obtain ⟨hepoch, bundle, kB, rfl, rfl⟩ := of_finishKeys_eq_ok hresult
    exact ⟨_, rfl, .written rfl (.keys hwaiting hepoch)⟩
  | beginVerification hnew given =>
    obtain ⟨rfl, record, hresult, rfl⟩ :=
      of_returned_continuePoll (returnedOf_beginVerification _ _) hreturned
    obtain ⟨rfl, hverified⟩ := of_beginVerification_eq_verified hresult
    exact ⟨_, rfl, .given hverified⟩
  | answerStatus hwaiting answer =>
    obtain ⟨rfl, record, hresult, rfl⟩ :=
      of_returned_continuePoll (returnedOf_answerStatus _ _ _ _) hreturned
    obtain ⟨rfl, hfinished⟩ := of_answerStatus_eq_verified hresult
    obtain ⟨hepoch, user, hlooked, rfl⟩ := of_finishVerification_eq_ok hfinished
    exact ⟨_, rfl, .written rfl (.verified hwaiting hepoch hlooked)⟩
  | wake hwaiting =>
    obtain ⟨-, record, hresult, -⟩ := of_returned_continuePoll (returnedOf_ask _ _) hreturned
    exact absurd hresult (result_ask_ne _ _ _)

end Activity

end AccountManager.Session
