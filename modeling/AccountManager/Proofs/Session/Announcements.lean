import AccountManager.Proofs.Session.Failures
import AccountManager.Proofs.Session.Updates

/-!
# What subscribers are told

An epoch is begun by one move, and the event that this move sends announces it; nothing else sends a
login or a logout. That the address was verified is told by every wait that ends with the record it
has marked, in the epoch in which the wait was begun. The mark itself is set once in an epoch at
most, by whichever call comes first: a wait, which tells it, or a call that got the keys, which does
not.
-/

namespace AccountManager.Session

open Storage

variable {σ : Type}

/-- The event by which a move announces the epoch that it begins. -/
def announcement? : Move σ → Reply → Option Event
  | .signIn _, .stored (.ok ()) => some .login
  | .signOut, _ => some .logout
  | _, _ => none

def sent (history : History σ) : List Event :=
  history.flatMap fun made => eventsOf made.step.effects

/-- The epochs announced in a history, in the order in which they began. -/
def announcements (history : History σ) : List Event :=
  history.filterMap fun made => announcement? made.move made.step.result

theorem announcement?_ne_verified (move : Move σ) (reply : Reply) :
    announcement? move reply ≠ some .verified := by
  unfold announcement?
  split <;> nofun

theorem isSome_announcement? {move : Move σ} {reply : Reply} :
    (announcement? move reply).isSome ↔ Activity.BeginsEpoch move reply := by
  constructor
  · intro hsome
    unfold announcement? at hsome
    split at hsome
    · exact .signIn _
    · exact .signOut _
    · cases hsome
  · intro hbegins
    cases hbegins <;> rfl

variable [CredentialStore σ] {session : Session σ}

/-! ### What an operation tells -/

theorem eventsOf_signIn (session : Session σ) (record : CredentialRecord) :
    eventsOf (session.signIn record).effects =
      (announcement? (.signIn record : Move σ)
        (.stored (session.signIn record).result)).toList := by
  unfold signIn
  split <;> rfl

theorem eventsOf_signOut (session : Session σ) : eventsOf session.signOut.effects = [.logout] := by
  unfold signOut
  split <;> rfl

theorem eventsOf_finishKeys (session : Session σ) (user : SignedInUser) (unwrapBKey : String)
    (answer : Except RemoteError KeyBundle) :
    eventsOf (session.finishKeys user unwrapBKey answer).effects = [] := by
  unfold finishKeys
  dsimp only
  repeat' split
  · rfl
  · rfl
  · exact (commit_onlyLogs session _ _).1
  · rw [eventsOf_append, (commit_onlyLogs session _ _).1]
    rfl

/-- A wait that marks the record tells it, and has stored it. -/
theorem told_of_finishVerification {generation : Nat} {record : CredentialRecord}
    (hfinished : (session.finishVerification generation).result = .ok record) :
    eventsOf (session.finishVerification generation).effects = [.verified] ∧
      (session.finishVerification generation).state.cached = some record ∧
      ∃ store, CredentialStore.put session.store record = (.ok (), store) ∧
        (session.finishVerification generation).state.store = store := by
  have hlogs := session.snapshot_onlyLogs
  unfold finishVerification at hfinished ⊢
  dsimp only at hfinished ⊢
  split at hfinished
  · cases hfinished
  · cases hfinished
  · split at hfinished
    · cases hfinished
    · rename_i hgeneration
      rw [if_neg hgeneration]
      split at hfinished
      · cases hfinished
      · rename_i hcommitted
        obtain rfl := Except.ok.inj hfinished
        obtain ⟨-, store, hput, hstate⟩ := of_commit_eq_ok hcommitted
        rw [snapshot_store] at hput
        simp only [hstate, eventsOf_append, hlogs.1, (commit_onlyLogs _ _ _).1]
        exact ⟨rfl, trivial, store, hput, rfl⟩

namespace Activity

variable {activity start finish : Activity σ} {move : Move σ} {step : Step (Activity σ) Reply}
  {past later history : History σ} {made : Made (Activity σ) (Move σ) Reply} {id : CallId}

/-! ### What a move tells -/

/-- A wait of this epoch ends: it was told that the address is verified, has marked and stored the
record of the user who is signed in, tells it and returns the record. -/
inductive Confirms (activity : Activity σ) (id : CallId) (record : CredentialRecord) :
    Move σ → Step (Activity σ) Reply → Prop
  | intro {poll : Poll} {user : SignedInUser} {step : Step (Activity σ) Reply} {store : σ}
      (hwaiting : activity.waiting? id = some (.status poll))
      (hepoch : poll.generation = activity.session.epoch)
      (hlooked : activity.session.snapshot.result = .ok (some user))
      (hrecord : record = { user.record with isVerified := true })
      (hput : CredentialStore.put activity.session.store record = (.ok (), store))
      (hstore : step.state.session.store = store)
      (hcached : step.state.session.cached = some record)
      (hevents : eventsOf step.effects = [.verified])
      (hreturned : returnedOf step.effects = [(id, .ok (.record record))]) :
      activity.Confirms id record (.answerStatus id (.ok true)) step

omit [CredentialStore σ] in
theorem eventsOf_continuePoll (activity : Activity σ) (id : CallId)
    (continued : Step (Session σ) (Except AccountError PollPlan)) :
    eventsOf (activity.continuePoll id continued).effects = eventsOf continued.effects := by
  unfold continuePoll
  dsimp only
  split <;> simp

theorem eventsOf_enterKeys (activity : Activity σ) (id : CallId) :
    eventsOf (activity.enterKeys id).effects = [] := by
  rw [← activity.session.eventsOf_beginKeys]
  unfold enterKeys
  dsimp only
  split <;> simp [returnKeys]

theorem confirms_of_verified {poll : Poll} {answer : Except RemoteError Bool}
    {record : CredentialRecord} (hwaiting : activity.waiting? id = some (.status poll))
    (hverified : (activity.session.answerStatus activity.polling poll answer).result =
      .ok (.verified record)) :
    activity.Confirms id record (.answerStatus id answer) (activity.continuePoll id
      (activity.session.answerStatus activity.polling poll answer)) := by
  have hreturned := activity.session.returnedOf_answerStatus activity.polling poll answer
  obtain ⟨rfl, hfinished⟩ := of_answerStatus_eq_verified hverified
  obtain ⟨hepoch, user, hlooked, hrecord⟩ := of_finishVerification_eq_ok hfinished
  obtain ⟨hevents, hcached, store, hput, hstore⟩ := told_of_finishVerification hfinished
  refine .intro hwaiting hepoch hlooked hrecord hput ?_ ?_ ?_ ?_
  · rw [session_continuePoll]
    exact hstore
  · rw [session_continuePoll]
    exact hcached
  · rw [eventsOf_continuePoll]
    exact hevents
  · unfold continuePoll
    simp only [hverified, returnedOf_append, hreturned]
    rfl

theorem confirms_or_silent {poll : Poll} (hwaiting : activity.waiting? id = some (.status poll))
    (answer : Except RemoteError Bool) :
    (∃ record, activity.Confirms id record (.answerStatus id answer) (activity.continuePoll id
        (activity.session.answerStatus activity.polling poll answer))) ∨
      eventsOf (activity.continuePoll id
        (activity.session.answerStatus activity.polling poll answer)).effects = [] := by
  by_cases hverified : ∃ record,
      (activity.session.answerStatus activity.polling poll answer).result = .ok (.verified record)
  · obtain ⟨record, hverified⟩ := hverified
    exact .inl ⟨record, confirms_of_verified hwaiting hverified⟩
  · right
    rw [eventsOf_continuePoll]
    have hkept : KeptOnRefusal fun _ : σ => () := fun _ => rfl
    exact (answerStatus_untouched hkept fun record hresult => hverified ⟨record, hresult⟩).events

/-- A move tells of the epoch that it begins, or it ends a wait and tells that. -/
theorem events_of_step? (hstep : activity.step? move = some step) :
    eventsOf step.effects = (announcement? move step.result).toList ∨
      ∃ id record, activity.Confirms id record move step := by
  cases allows_of_step? hstep with
  | look => exact .inl activity.session.snapshot_onlyLogs.1
  | evict | alterStore | queueKeys | drop => exact .inl rfl
  | signIn record => exact .inl (eventsOf_signIn activity.session record)
  | signOut => exact .inl (eventsOf_signOut activity.session)
  | beginKeys => exact .inl (eventsOf_enterKeys _ _)
  | takeTurn => exact .inl (eventsOf_enterKeys _ _)
  | answerKeys hwaiting answer =>
    left
    unfold returnKeys
    rw [eventsOf_append, eventsOf_finishKeys]
    rfl
  | beginVerification hnew record =>
    left
    rw [eventsOf_continuePoll]
    exact eventsOf_beginVerification activity.session record
  | answerStatus hwaiting answer =>
    exact (confirms_or_silent hwaiting answer).symm.imp_right fun ⟨record, hconfirms⟩ =>
      ⟨_, record, hconfirms⟩
  | wake =>
    left
    rw [eventsOf_continuePoll]
    exact eventsOf_ask _ _

/-! ### What a run tells -/

theorem announcement_of_step? (hstep : activity.step? move = some step) :
    (eventsOf step.effects).filter (· ≠ .verified) = (announcement? move step.result).toList := by
  rcases events_of_step? hstep with hevents | ⟨id, record, hconfirms⟩
  · rw [hevents, List.filter_eq_self]
    intro event hevent
    have hannounced := Option.mem_toList.1 hevent
    have hne := announcement?_ne_verified move step.result
    simpa using fun hverified : event = .verified => hne (hverified ▸ hannounced)
  · cases hconfirms with
    | intro _ _ _ _ _ _ _ hevents =>
      rw [hevents]
      rfl

/-- Apart from verifications, what is sent are the announcements. -/
theorem filter_sent (run : Run step? start history finish) :
    (sent history).filter (· ≠ .verified) = announcements history := by
  unfold sent announcements
  rw [List.filter_flatMap, List.filterMap_eq_flatMap_toList]
  apply List.flatMap_congr
  intro made hmade
  obtain ⟨earlier, -, hstep⟩ := run.reached hmade
  exact announcement_of_step? hstep

theorem epoch_of_step? (hstep : activity.step? move = some step) :
    step.state.session.epoch =
      activity.session.epoch + (announcement? move step.result).toList.length := by
  cases hannounced : announcement? move step.result with
  | none =>
    refine epoch_of_not_beginsEpoch hstep fun hbegins => ?_
    rw [← isSome_announcement?, hannounced] at hbegins
    cases hbegins
  | some event => exact epoch_of_beginsEpoch hstep (isSome_announcement?.1 (by simp [hannounced]))

/-- There are as many announcements as epochs have begun. -/
theorem epoch_eq_length (run : Run step? start history finish) :
    finish.session.epoch = start.session.epoch + (announcements history).length := by
  refine run.induction (P := fun history finish =>
    finish.session.epoch = start.session.epoch + (announcements history).length) rfl ?_
  intro past made _ hstep hbefore
  have hnext := epoch_of_step? hstep
  unfold Made.after announcements at *
  rw [List.filterMap_append, List.length_append, List.filterMap_cons, List.filterMap_nil]
  cases hannounced : announcement? made.move made.step.result with
  | none =>
    rw [hannounced] at hnext
    simpa [hbefore] using hnext
  | some event =>
    rw [hannounced] at hnext
    simpa [hbefore, Nat.add_assoc] using hnext

theorem announces_iff (hopened : start.Opened) (run : Run step? start history finish)
    (hmade : made ∈ history) (event : Event) :
    announcement? made.move made.step.result = some event ↔
      made.after.session.epoch = made.before.session.epoch + 1 ∧
        (announcements history)[made.before.session.epoch]? = some event := by
  obtain ⟨past, later, rfl⟩ := List.append_of_mem hmade
  obtain ⟨hpast, hstep, -⟩ := run.cut
  have hnext : made.after.session.epoch = made.before.session.epoch + _ := epoch_of_step? hstep
  have hstart : start.session.epoch = 0 := by
    obtain ⟨store, polling, rfl⟩ := hopened
    rfl
  have hlength : made.before.session.epoch = (announcements past).length := by
    rw [epoch_eq_length hpast, hstart, Nat.zero_add]
  have hsplit : announcements (past ++ made :: later) = announcements past ++
      ((announcement? made.move made.step.result).toList ++ announcements later) := by
    unfold announcements
    rw [List.filterMap_append, List.filterMap_cons]
    cases announcement? made.move made.step.result <;> rfl
  rw [hsplit, hlength, List.getElem?_append_right (Nat.le_refl _), Nat.sub_self, hnext, hlength]
  cases announcement? made.move made.step.result with
  | none => simp
  | some other => simp

section Lawful

variable [LawfulStore σ]

/-- Why subscribers are told with a move that the address was verified: a wait ends that was begun
in this epoch, the user of the epoch is signed in, and the record that is cached and stored is that
user's and carries the mark. -/
structure TellsVerified (start : Activity σ) (past : History σ)
    (made : Made (Activity σ) (Move σ) Reply) : Prop where
  epoch : made.after.session.epoch = made.before.session.epoch
  ends : ∃ id given, made.move = .answerStatus id (.ok true) ∧
    Began past id made.before.session.epoch (.beginVerification id given)
  marked : ∃ user record, UserOf start past made.before.session.epoch user ∧
    Derived user record ∧ record.isVerified = true ∧
    made.after.session.SignedIn record ∧ made.after.session.cached = some record

theorem Sound.signedIn_of_confirms (h : activity.Sound) (hstep : activity.step? move = some step)
    {record : CredentialRecord} (hconfirms : activity.Confirms id record move step) :
    step.state.session.SignedIn record := by
  cases hconfirms with
  | intro hwaiting hepoch hlooked hrecord hput hstore =>
    have hafter := sound_step hstep trivial h
    have hwithin : ¬ BeginsEpoch (.answerStatus id (.ok true) : Move σ) step.result := nofun
    refine hafter.faithful.signedIn ?_ ?_
    · rw [hstore]
      exact contents_of_put_eq_ok hput
    · rw [(alters_of_step? hstep hwithin trivial).pendingClear]
      exact (h.seen hlooked).readable

theorem tellsVerified (hopened : start.Opened) (run : Run step? start past made.before)
    (hquiet : ∀ other ∈ past, other.move.KeepsContents)
    (hstep : made.before.step? made.move = some made.step)
    (hverified : .verified ∈ eventsOf made.step.effects) : TellsVerified start past made := by
  obtain ⟨before, move, step⟩ := made
  dsimp only at run hstep hverified
  rcases events_of_step? hstep with hevents | ⟨id, record, hconfirms⟩
  · rw [hevents, Option.mem_toList] at hverified
    exact absurd hverified (announcement?_ne_verified move step.result)
  · have hsigned := (hopened.sound.run run hquiet).signedIn_of_confirms hstep hconfirms
    cases hconfirms with
    | intro hwaiting hepoch hlooked hrecord hput hstore hcached =>
      refine ⟨epoch_of_not_beginsEpoch hstep nofun, ?_, ?_⟩
      · cases explains_of_run hopened run hwaiting with
        | status hawaits => exact ⟨id, _, rfl, hepoch ▸ hawaits.began⟩
      · obtain ⟨user, huser, hderived⟩ := (belongs_of_run hopened run hquiet).seen hlooked
        refine ⟨user, record, huser, ?_, ?_, hsigned, hcached⟩
        · rw [hrecord]
          exact hderived.verified
        · rw [hrecord]

/-- Apart from verifications, what subscribers are told is one login for each sign-in that succeeds
and one logout for each sign-out, in the order in which they begin epochs. A verification is told
when a wait ends that was begun in the same epoch, while the user of the epoch is signed in and both
the cached and the stored record carry the mark. -/
theorem events_follow_the_epochs (hopened : start.Opened) (run : Run step? start history finish)
    (hquiet : ∀ made ∈ history, made.move.KeepsContents) :
    (sent history).filter (· ≠ .verified) = announcements history ∧
    (announcements history).length = finish.session.epoch ∧
    (∀ made ∈ history, ∀ event, announcement? made.move made.step.result = some event ↔
      made.after.session.epoch = made.before.session.epoch + 1 ∧
        (announcements history)[made.before.session.epoch]? = some event) ∧
    ∀ past made later, history = past ++ made :: later →
      .verified ∈ eventsOf made.step.effects → TellsVerified start past made := by
  refine ⟨filter_sent run, ?_, fun made => announces_iff hopened run, ?_⟩
  · rw [epoch_eq_length run]
    obtain ⟨store, polling, rfl⟩ := hopened
    exact (Nat.zero_add _).symm
  · rintro past made later rfl hverified
    obtain ⟨hpast, hstep, -⟩ := run.cut
    refine tellsVerified hopened hpast (fun other hother => ?_) hstep hverified
    exact hquiet other (List.mem_append_left _ hother)

/-- Subscribers see a user come, verify the address and go. -/
theorem subscribers_see_an_epoch_pass :
    ∃ finish, ∃ history : History (BlobCredentials MemoryBlobs),
      Run step? (blank memory) history finish ∧
        sent history = [.login, .verified, .logout] ∧ announcements history = [.login, .logout] ∧
        ∃ past made later, history = past ++ made :: later ∧
          TellsVerified (blank memory) past made := by
  obtain ⟨finish, run⟩ := run_played step? (blank memory) [
    .signIn { sessionToken := some "token" },
    .beginVerification 0 { sessionToken := some "token" },
    .answerStatus 0 (.ok true),
    .signOut]
  obtain ⟨hannounced, -, -, htold⟩ :=
    @events_follow_the_epochs _ _ _ _ [_, _, _, _] _ (blank_opened memory) run
      (by simp [Move.KeepsContents])
  refine ⟨finish, [_, _, _, _], run, rfl, hannounced.symm, [_, _], _, [_], rfl, ?_⟩
  exact htold [_, _] _ [_] rfl (List.mem_singleton_self _)

end Lawful

end Activity

end AccountManager.Session
