import AccountManager.Proofs.Session.Lateness
import AccountManager.Proofs.Session.Updates

/-!
# Spending the token for the keys

The token that is exchanged for the keys can be used once. The calls take turns, each looks at the
signed-in user only when its turn has come, and keys that came are stored before the turn passes on.
So a call that queued while keys were fetched finds them, and nobody asks for them again.
-/

namespace AccountManager.Session

open Storage

variable {σ : Type} [CredentialStore σ] {session after : Session σ} {record : CredentialRecord}

theorem of_fetchKeys_mem {token : String}
    (hcall : .fetchKeys token ∈ callsOf session.beginKeys.effects) :
    ∃ user unwrapBKey, session.beginKeys.result = .ok (.fetch user token unwrapBKey) := by
  have hnone := session.snapshot_onlyLogs.2.1
  unfold beginKeys at hcall ⊢
  dsimp only at hcall ⊢
  split at hcall
  · simp [hnone] at hcall
  · simp [hnone] at hcall
  · split at hcall
    · simp [hnone] at hcall
    · simp [hnone] at hcall
    · rename_i user fetched unwrapBKey hplan
      obtain rfl : token = fetched := by simpa [hnone, debug] using hcall
      exact ⟨user, unwrapBKey, rfl⟩

section SignedIn

variable [LawfulStore σ]

theorem SignedIn.seen (h : session.SignedIn record) (hreadable : Readable session.store) :
    session.snapshot.result = .ok (some ⟨record, session.epoch⟩) := by
  obtain ⟨found, hget⟩ := hreadable
  have hfound := LawfulStore.of_get_eq_ok session.store hget
  rw [h.stored] at hfound
  obtain ⟨other, rfl, hother⟩ := Option.map_eq_some_iff.1 hfound.symm
  obtain rfl := Except.ok.inj hother
  unfold snapshot
  split
  · rename_i cached hcached
    rw [h.cached cached hcached]
  · simp [h.readable, hget]

theorem SignedIn.beginKeys (h : session.SignedIn record) (hreadable : Readable session.store)
    (hkeys : record.hasKeys = true) :
    session.beginKeys.result = .ok (.present record) ∧ callsOf session.beginKeys.effects = [] := by
  have hnone := session.snapshot_onlyLogs.2.1
  unfold Session.beginKeys
  simp [h.seen hreadable, keyPlan, hkeys, hnone]

end SignedIn

namespace Activity

variable {activity start finish : Activity σ} {move : Move σ} {step : Step (Activity σ) Reply}
  {history past later : History σ} {made : Made (Activity σ) (Move σ) Reply} {id : CallId}

theorem waiting?_of_run (run : Run step? start history finish)
    (hothers : ∀ made ∈ history, made.move.caller? ≠ some id) :
    finish.waiting? id = start.waiting? id := by
  refine run.kept (P := fun activity => activity.waiting? id = start.waiting? id) rfl ?_
  intro made hmade hstep hbefore
  exact (waiting?_of_not_caller hstep (hothers made hmade)).trans hbefore

/-! ### Asking for keys -/

/-- A call that asks the service for keys has its turn, and waits for them. -/
theorem of_fetchKeys {token : String} (hstep : activity.step? move = some step)
    (hcall : .fetchKeys token ∈ callsOf step.effects) :
    ∃ id user unwrapBKey, move.caller? = some id ∧
      (move.Begins id ∨ activity.waiting? id = some .turn) ∧
      activity.session.beginKeys.result = .ok (.fetch user token unwrapBKey) ∧
      step.state.waiting? id = some (.keys user unwrapBKey) ∧
      callsOf step.effects = [.fetchKeys token] := by
  have henter (activity : Activity σ) {id : CallId}
      (hcall : .fetchKeys token ∈ callsOf (activity.enterKeys id).effects) :
      ∃ user unwrapBKey, activity.session.beginKeys.result = .ok (.fetch user token unwrapBKey) ∧
        (activity.enterKeys id).state.waiting? id = some (.keys user unwrapBKey) ∧
        callsOf (activity.enterKeys id).effects = [.fetchKeys token] := by
    rw [callsOf_enterKeys] at hcall ⊢
    obtain ⟨user, unwrapBKey, hbegun⟩ := of_fetchKeys_mem hcall
    refine ⟨user, unwrapBKey, hbegun, ?_, (of_beginKeys_eq_fetch hbegun).2.2⟩
    rw [waiting?_enterKeys, if_pos rfl, hbegun]
    rfl
  cases allows_of_step? hstep with
  | evict | alterStore | queueKeys | drop => cases hcall
  | look =>
    rw [activity.session.snapshot_onlyLogs.2.1] at hcall
    cases hcall
  | signIn record =>
    rw [callsOf_signIn] at hcall
    cases hcall
  | signOut =>
    rw [callsOf_signOut] at hcall
    cases hcall
  | @beginKeys id hnew hfree =>
    obtain ⟨user, unwrapBKey, hbegun, hafter, hcalls⟩ :=
      henter { activity with fetching := some id } hcall
    exact ⟨id, user, unwrapBKey, rfl, .inl rfl, hbegun, hafter, hcalls⟩
  | @takeTurn id hturn hwaiting =>
    obtain ⟨user, unwrapBKey, hbegun, hafter, hcalls⟩ := henter activity hcall
    exact ⟨id, user, unwrapBKey, rfl, .inr hwaiting, hbegun, hafter, hcalls⟩
  | answerKeys => simp [returnKeys, callsOf_finishKeys] at hcall
  | beginVerification =>
    rw [callsOf_continuePoll] at hcall
    obtain ⟨status, hstatus⟩ := of_mem_callsOf_beginVerification hcall
    cases hstatus
  | answerStatus =>
    rw [callsOf_continuePoll, callsOf_answerStatus] at hcall
    cases hcall
  | wake =>
    rw [callsOf_continuePoll] at hcall
    cases of_mem_callsOf_ask hcall

/-- Whether the service was asked for keys by a call that has not gone on since. -/
def Outstanding (history : History σ) (id : CallId) : Prop :=
  ∃ made token, LastOf (fun other => other.move.caller? = some id) history made ∧
    .fetchKeys token ∈ callsOf made.step.effects

/-- A call that has asked for keys waits for them until it goes on. -/
theorem fetching_of_outstanding (run : Run step? start history finish)
    (houtstanding : Outstanding history id) : finish.Fetching id := by
  obtain ⟨made, token, ⟨past, later, rfl, hcaller, hlater⟩, hcall⟩ := houtstanding
  refine run.induction_after (P := fun _ activity => activity.Fetching id) ?_ ?_
  · obtain ⟨-, hstep, -⟩ := run.cut
    obtain ⟨asking, user, unwrapBKey, hasking, -, -, hwaiting, -⟩ := of_fetchKeys hstep hcall
    obtain rfl := Option.some.inj (hasking.symm.trans hcaller)
    exact ⟨user, unwrapBKey, hwaiting⟩
  · rintro between other hother - - hstep ⟨user, unwrapBKey, hwaiting⟩
    exact ⟨user, unwrapBKey, (waiting?_of_not_caller hstep (hlater other hother)).trans hwaiting⟩

theorem not_turn_step (hstep : activity.step? move = some step) (hbegins : ¬ move.Begins id)
    (hbefore : activity.waiting? id ≠ some .turn) : step.state.waiting? id ≠ some .turn := by
  intro hafter
  by_cases hcaller : move.caller? = some id
  · cases allows_of_step? hstep with
    | look | evict | signIn | signOut | alterStore => cases hcaller
    | beginKeys | queueKeys | beginVerification => exact hbegins (Option.some.inj hcaller)
    | takeTurn hturn hwaiting =>
      cases hcaller
      exact hbefore hwaiting
    | answerKeys =>
      cases hcaller
      simp at hafter
    | drop =>
      cases hcaller
      simp at hafter
    | answerStatus | wake =>
      cases hcaller
      obtain ⟨plan, -, hplan⟩ := of_waiting?_continuePoll hafter
      exact PollPlan.not_forKeys hplan trivial
  · rw [waiting?_of_not_caller hstep hcaller] at hafter
    exact hbefore hafter

theorem not_turn_of_run (run : Run step? start history finish)
    (hbegins : ∀ made ∈ history, ¬ made.move.Begins id)
    (hstart : start.waiting? id ≠ some .turn) : finish.waiting? id ≠ some .turn :=
  run.kept (P := fun activity => activity.waiting? id ≠ some .turn) hstart
    fun made hmade hstep => not_turn_step hstep (hbegins made hmade)

/-- Whether a call asks the service for keys with a move. -/
def AsksForKeys (made : Made (Activity σ) (Move σ) Reply) (id : CallId) : Prop :=
  made.move.caller? = some id ∧ ∃ token, .fetchKeys token ∈ callsOf made.step.effects

/-- Between two of its questions for keys a call is begun anew, if not with the second. -/
theorem begins_between {first second : Made (Activity σ) (Move σ) Reply}
    {between rest : History σ}
    (run : Run step? start (past ++ first :: (between ++ second :: rest)) finish)
    (hfirst : AsksForKeys first id) (hsecond : AsksForKeys second id) :
    ∃ made ∈ between ++ [second], made.move.Begins id := by
  obtain ⟨-, hstep, hlater⟩ := run.cut
  obtain ⟨hbetween, hagain, -⟩ := hlater.cut
  obtain ⟨hcaller, token, hcall⟩ := hfirst
  obtain ⟨hcallerAgain, tokenAgain, hcallAgain⟩ := hsecond
  by_contra hnone
  have hunbegun : ∀ made ∈ between ++ [second], ¬ made.move.Begins id := fun made hmade hbegins =>
    hnone ⟨made, hmade, hbegins⟩
  have hwaits : first.after.waiting? id ≠ some .turn := by
    have hasked : Run step? first.before [first] first.after := ⟨rfl, hstep, rfl⟩
    obtain ⟨user, unwrapBKey, hwaiting⟩ :=
      fetching_of_outstanding hasked ⟨first, token, .of_concat [] hcaller, hcall⟩
    rw [hwaiting]
    exact fun hturn => by cases hturn
  have hnext := not_turn_of_run hbetween
    (fun made hmade => hunbegun made (List.mem_append_left _ hmade)) hwaits
  obtain ⟨asking, user, unwrapBKey, hasking, hbegun, -⟩ := of_fetchKeys hagain hcallAgain
  obtain rfl := Option.some.inj (hasking.symm.trans hcallerAgain)
  exact hbegun.elim (hunbegun second (by simp)) hnext

/-! ### Once keys were stored -/

section Settled

variable [LawfulStore σ]

/-- Whether the keys of the signed-in user were fetched and nobody waits for any. -/
structure Settled (activity : Activity σ) (record : CredentialRecord) : Prop where
  sound : activity.Sound
  signedIn : activity.session.SignedIn record
  keyed : ∃ user kA kB, record = withKeys user kA kB
  none : ∀ id, ¬ activity.Fetching id

theorem Settled.hasKeys (h : activity.Settled record) : record.hasKeys = true := by
  obtain ⟨user, kA, kB, rfl⟩ := h.keyed
  rfl

theorem Settled.not_fetch (h : activity.Settled record) {user : SignedInUser}
    {token unwrapBKey : String} :
    activity.session.beginKeys.result ≠ .ok (.fetch user token unwrapBKey) := by
  intro hbegun
  obtain ⟨hlooked, -, -⟩ := of_beginKeys_eq_fetch hbegun
  have hkeyless := (tokens_of_beginKeys hbegun).1
  rw [h.signedIn.unique (h.sound.seen hlooked), h.hasKeys] at hkeyless
  cases hkeyless

theorem Settled.unasked (h : activity.Settled record) (hstep : activity.step? move = some step)
    (token : String) : .fetchKeys token ∉ callsOf step.effects := by
  intro hcall
  obtain ⟨id, user, unwrapBKey, -, -, hbegun, -⟩ := of_fetchKeys hstep hcall
  exact h.not_fetch hbegun

theorem Settled.of_step? (h : activity.Settled record) (hstep : activity.step? move = some step)
    (hepoch : ¬ BeginsEpoch move step.result) (hquiet : move.KeepsContents) :
    step.state.Settled record := by
  obtain ⟨new, hnew, hupdates⟩ := h.sound.signedIn_step hstep hepoch hquiet h.signedIn
  refine ⟨sound_step hstep hquiet h.sound, ?_, h.keyed, ?_⟩
  · obtain ⟨user, kA, kB, rfl⟩ := h.keyed
    obtain rfl := hupdates.carries.eq_of_keyed
    exact hnew
  · rintro id ⟨user, unwrapBKey, hafter⟩
    rcases planned_of_step? hstep hafter with hbefore | ⟨-, token, hbegun⟩
    · exact h.none id ⟨user, unwrapBKey, hbefore⟩
    · exact h.not_fetch hbegun

theorem Settled.run (h : start.Settled record) (run : Run step? start later finish)
    (hquiet : ∀ made ∈ later, made.move.KeepsContents)
    (hepoch : finish.session.epoch = start.session.epoch) : finish.Settled record :=
  run.kept (P := fun activity => activity.Settled record) h fun made hmade hstep hbefore =>
    hbefore.of_step? hstep (within_of_run run hepoch hmade) (hquiet made hmade)

theorem Settled.reached (h : start.Settled record)
    (run : Run step? start (past ++ made :: later) finish)
    (hquiet : ∀ other ∈ past ++ made :: later, other.move.KeepsContents)
    (hepoch : finish.session.epoch = start.session.epoch) : made.before.Settled record :=
  h.run run.cut.1 (fun other hother => hquiet other (List.mem_append_left _ hother))
    (epochs_of_run run hepoch).1

/-- Keys that came are stored before anybody else takes a turn. -/
theorem settled_of_commits (h : made.before.Sound)
    (hstep : made.before.step? made.move = some made.step) (hquiet : made.move.KeepsContents)
    (hcommits : Commits made record) :
    made.after.Settled record ∧ made.after.session.epoch = made.before.session.epoch := by
  obtain ⟨id, user, unwrapBKey, -, -, hkeyed, hsigned⟩ := h.signedIn_of_commits hstep hcommits
  obtain ⟨answered, bundle, hmove, -⟩ := hcommits
  refine ⟨⟨sound_step hstep hquiet h, hsigned, ?_, fun other hfetching => ?_⟩, ?_⟩
  · cases hkeyed with
    | intro => exact ⟨_, _, _, rfl⟩
  · rw [hmove] at hstep
    exact h.turns.none_after_answer hstep hfetching
  · refine epoch_of_not_beginsEpoch hstep ?_
    rw [hmove]
    exact fun hbegins => by cases hbegins

/-- Whether a call gets a record at its turn, without asking the service for anything. -/
structure Gets (made : Made (Activity σ) (Move σ) Reply) (id : CallId)
    (record : CredentialRecord) : Prop where
  move : made.move = .takeTurn id
  unasked : callsOf made.step.effects = []
  returned : returnedOf made.step.effects = [(id, .ok (.record record))]

/-- A call whose turn comes finds the keys. -/
theorem Settled.gets (h : activity.Settled record) (hreadable : Readable activity.session.store)
    (hstep : activity.step? (.takeTurn id) = some step) :
    Gets ⟨activity, .takeTurn id, step⟩ id record ∧ step.state.queue = activity.queue.tail := by
  obtain ⟨hpresent, hcalls⟩ := h.signedIn.beginKeys hreadable h.hasKeys
  have hnone := activity.session.returnedOf_beginKeys
  cases allows_of_step? hstep with
  | takeTurn hturn hwaiting =>
    unfold enterKeys
    simp only [hpresent]
    refine ⟨⟨rfl, ?_, ?_⟩, ?_⟩
    · simp [returnKeys, hcalls]
    · simp [returnKeys, hnone, Except.map]
    · exact queue_passTurn _

theorem Settled.gets_of_run (h : start.Settled record)
    (run : Run step? start (past ++ made :: later) finish)
    (hquiet : ∀ other ∈ past ++ made :: later, other.move.KeepsContents)
    (hepoch : finish.session.epoch = start.session.epoch)
    (hreadable : Readable made.before.session.store) (hwaiting : start.waiting? id = some .turn)
    (hothers : ∀ other ∈ past, other.move.caller? ≠ some id)
    (hcaller : made.move.caller? = some id) : made.move = .drop id ∨ Gets made id record := by
  obtain ⟨hpast, hstep, -⟩ := run.cut
  have hsettled := h.reached run hquiet hepoch
  have hturn := (waiting?_of_run hpast hothers).trans hwaiting
  rcases turn_or_drop_of_caller hstep hturn hcaller with hmove | hmove
  · right
    obtain ⟨before, move, step⟩ := made
    dsimp only at hmove
    subst hmove
    exact (hsettled.gets hreadable hstep).1
  · exact .inl hmove

/-- If a call queues, the one that holds the right to fetch keys waits for nothing else. -/
theorem Settled.holder (h : activity.Settled record)
    (hwaiting : activity.waiting? id = some .turn) :
    ∃ holder, activity.fetching = some holder ∧ activity.waiting? holder = some .turn ∧
      (id = holder ∨ id ∈ activity.queue) := by
  cases h.sound.turns with
  | idle hfree hqueue hnone => exact absurd trivial (hnone id _ hwaiting)
  | held holder waiting hbehind hholds hfor =>
    refine ⟨holder, hbehind.holds, ?_, ?_⟩
    · cases waiting with
      | turn => exact hholds
      | keys user unwrapBKey => exact absurd ⟨user, unwrapBKey, hholds⟩ (h.none holder)
      | status | timer => exact hfor.elim
    · by_cases hid : id = holder
      · exact .inl hid
      · exact .inr (hbehind.others id _ hwaiting trivial hid)

/-- The turn of each call in the queue comes, if those before it take theirs, and it gets the record
then. -/
theorem Settled.turn_comes (h : activity.Settled record)
    (hreadable : Readable activity.session.store) (hwaiting : activity.waiting? id = some .turn) :
    ∃ turns finish, Run step? activity turns finish ∧
      (∀ made ∈ turns, ∃ other, Gets made other record) ∧ ∃ made ∈ turns, Gets made id record := by
  -- Each turn shortens the queue.
  induction hlength : activity.queue.length using Nat.strongRecOn generalizing activity with
  | ind length ih =>
    obtain ⟨holder, hholds, hturn, hplace⟩ := h.holder hwaiting
    have hstep : activity.step? (.takeTurn holder) = some (activity.enterKeys holder) :=
      if_pos ⟨hholds, hturn⟩
    obtain ⟨hgets, hqueue⟩ := h.gets hreadable hstep
    by_cases hid : id = holder
    · subst hid
      refine ⟨[_], _, ⟨rfl, hstep, rfl⟩, fun made hmade => ?_, _, List.mem_singleton_self _, hgets⟩
      obtain rfl := List.mem_singleton.1 hmade
      exact ⟨id, hgets⟩
    · have hqueued := hplace.resolve_left hid
      have hnext := h.of_step? hstep (fun hbegins => by cases hbegins) trivial
      have hstays : (activity.enterKeys holder).state.waiting? id = some .turn := by
        rw [waiting?_enterKeys, if_neg hid]
        exact hwaiting
      have hreadableNext : Readable (activity.enterKeys holder).state.session.store := by
        rw [session_enterKeys, snapshot_store]
        exact hreadable
      have hshorter : (activity.enterKeys holder).state.queue.length < length := by
        have hpositive := List.length_pos_of_mem hqueued
        rw [hqueue, List.length_tail]
        omega
      obtain ⟨turns, finish, hrun, hall, hsome⟩ := ih _ hshorter hnext hreadableNext hstays rfl
      refine ⟨⟨activity, .takeTurn holder, _⟩ :: turns, finish, ⟨rfl, hstep, hrun⟩, ?_, ?_⟩
      · intro made hmade
        rcases List.mem_cons.1 hmade with rfl | hmade
        · exact ⟨holder, hgets⟩
        · exact hall made hmade
      · obtain ⟨made, hmade, hlast⟩ := hsome
        exact ⟨made, List.mem_cons_of_mem _ hmade, hlast⟩

/-- What becomes of the calls once keys were stored: the service is not asked for keys again, a call
that queued gets the record unless it is dropped, and if it still queues its turn can come. -/
structure Shared (stored : Made (Activity σ) (Move σ) Reply) (later : History σ)
    (finish : Activity σ) (record : CredentialRecord) : Prop where
  unasked : ∀ made ∈ later, ∀ token, .fetchKeys token ∉ callsOf made.step.effects
  gets : ∀ id, stored.before.waiting? id = some .turn → ∀ between made rest,
    later = between ++ made :: rest → (∀ other ∈ between, other.move.caller? ≠ some id) →
      made.move.caller? = some id → made.move = .drop id ∨ Gets made id record
  comes : ∀ id, stored.before.waiting? id = some .turn →
    (∀ made ∈ later, made.move.caller? ≠ some id) →
      ∃ turns last, Run step? finish turns last ∧
        (∀ made ∈ turns, ∃ other, Gets made other record) ∧ ∃ made ∈ turns, Gets made id record

theorem shared_of_commits {stored : Made (Activity σ) (Move σ) Reply} (h : stored.before.Sound)
    (run : Run step? stored.before (stored :: later) finish)
    (hquiet : ∀ made ∈ stored :: later, made.move.KeepsContents)
    (hreadable : ∀ made ∈ later, Readable made.before.session.store)
    (hfinish : Readable finish.session.store) (hcommits : Commits stored record)
    (hepoch : finish.session.epoch = stored.before.session.epoch) :
    Shared stored later finish record := by
  obtain ⟨-, hstep, hlater⟩ := run
  obtain ⟨hsettled, hstays⟩ :=
    settled_of_commits h hstep (hquiet stored List.mem_cons_self) hcommits
  have hquietLater : ∀ made ∈ later, made.move.KeepsContents := fun made hmade =>
    hquiet made (List.mem_cons_of_mem stored hmade)
  have hafter (id : CallId) (hwaiting : stored.before.waiting? id = some .turn) :
      stored.after.waiting? id = some .turn := by
    obtain ⟨answered, bundle, hmove, -⟩ := hcommits
    rw [hmove] at hstep
    rcases queued_step hstep hwaiting with hturn | hmoves | hmoves
    · exact hturn
    · cases hmoves
    · cases hmoves
  have hwithin := hepoch.trans hstays.symm
  constructor
  · intro made hmade token
    obtain ⟨between, rest, rfl⟩ := List.append_of_mem hmade
    exact (hsettled.reached hlater hquietLater hwithin).unasked hlater.cut.2.1 token
  · rintro id hwaiting between made rest rfl hothers hcaller
    exact hsettled.gets_of_run hlater hquietLater hwithin (hreadable made (by simp))
      (hafter id hwaiting) hothers hcaller
  · intro id hwaiting hothers
    have hturn := (waiting?_of_run hlater hothers).trans (hafter id hwaiting)
    exact (hsettled.run hlater hquietLater hwithin).turn_comes hfinish hturn

/-- How the calls of a run spend the tokens for the keys. -/
structure SpendsOnce (history : History σ) (finish : Activity σ) : Prop where
  alone : ∀ id other, Outstanding history id → Outstanding history other → other = id
  current : ∀ made ∈ history, ∀ token, .fetchKeys token ∈ callsOf made.step.effects →
    callsOf made.step.effects = [.fetchKeys token] ∧
      ∃ record, made.before.session.SignedIn record ∧ record.keyFetchToken = some token
  once : ∀ id past first between second rest,
    history = past ++ first :: (between ++ second :: rest) →
      AsksForKeys first id → AsksForKeys second id →
        ∃ made ∈ between ++ [second], made.move.Begins id
  shared : ∀ past stored later record, history = past ++ stored :: later →
    Commits stored record → finish.session.epoch = stored.before.session.epoch →
      Shared stored later finish record

/-- One question for keys at a time is under way, each with the token of whoever is signed in, and a
call asks once. Once keys were stored nobody asks for them again in the epoch: every call that
queued gets the stored record when its turn comes. -/
theorem tokens_are_spent_once (hopened : start.Opened) (run : Run step? start history finish)
    (hquiet : ∀ made ∈ history, made.move.KeepsContents)
    (hreadable : ∀ made ∈ history, Readable made.before.session.store)
    (hfinish : Readable finish.session.store) : SpendsOnce history finish where
  alone id other houtstanding hother :=
    (turns_of_run hopened run).alone (fetching_of_outstanding run houtstanding)
      (fetching_of_outstanding run hother)
  current made hmade token hcall := by
    obtain ⟨past, later, rfl⟩ := List.append_of_mem hmade
    obtain ⟨hpast, hstep, -⟩ := run.cut
    have hsound := hopened.sound.run hpast fun other hother =>
      hquiet other (List.mem_append_left _ hother)
    obtain ⟨id, user, unwrapBKey, -, -, hbegun, -, hcalls⟩ := of_fetchKeys hstep hcall
    obtain ⟨hlooked, htoken, -⟩ := of_beginKeys_eq_fetch hbegun
    exact ⟨hcalls, user.record, hsound.seen hlooked, htoken⟩
  once id past first between second rest hcut hfirst hsecond :=
    begins_between (hcut ▸ run) hfirst hsecond
  shared past stored later record hcut hcommits hepoch := by
    subst hcut
    obtain ⟨hpast, hstep, hlater⟩ := run.cut
    have hsound := hopened.sound.run hpast fun other hother =>
      hquiet other (List.mem_append_left _ hother)
    refine shared_of_commits hsound ⟨rfl, hstep, hlater⟩ ?_ ?_ hfinish hcommits hepoch
    · exact fun made hmade => hquiet made (List.mem_append_right _ hmade)
    · exact fun made hmade => hreadable made (by simp [hmade])

/-- Two calls want keys. The one that queued gets those of the first. -/
theorem queued_call_gets_the_keys :
    ∃ finish, ∃ past : History (BlobCredentials MemoryBlobs),
      ∃ stored turn : Made (Activity (BlobCredentials MemoryBlobs)) (Move _) Reply,
        Run step? (blank memory) (past ++ [stored, turn]) finish ∧
          stored.before.waiting? 1 = some .turn ∧
          Commits stored { kA := some "44", kB := some "33", isVerified := true } ∧
          Gets turn 1 { kA := some "44", kB := some "33", isVerified := true } := by
  obtain ⟨finish, run⟩ := run_played step? (blank memory) [
    .signIn { keyFetchToken := some "fetch", unwrapBKey := some "22" },
    .beginKeys 0,
    .beginKeys 1,
    .answerKeys 0 (.ok { kA := [0x44], wrapKB := [0x11] }),
    .takeTurn 1]
  have hempty : Readable (σ := BlobCredentials MemoryBlobs) memory := ⟨_, rfl⟩
  have hwritten {store after : BlobCredentials MemoryBlobs} {record : CredentialRecord}
      (hput : CredentialStore.put store record = (.ok (), after)) : Readable after :=
    readable_of_contents (contents_of_put_eq_ok hput)
  have hfinish : Readable finish.session.store := by
    obtain ⟨-, -, -, -, -, -, -, -, -, -, rfl⟩ := run
    exact hwritten rfl
  refine ⟨finish, [_, _, _], _, _, run, rfl, ⟨0, _, rfl, List.mem_singleton_self _⟩, ?_⟩
  have hspent := @tokens_are_spent_once _ _ _ _ [_, _, _, _, _] _ (blank_opened memory) run
    (by simp [Move.KeepsContents]) (by
      simp only [List.mem_cons, List.not_mem_nil, or_false]
      rintro made (rfl | rfl | rfl | rfl | rfl)
      · exact hempty
      · exact hwritten rfl
      · exact hwritten rfl
      · exact hwritten rfl
      · exact hwritten rfl) hfinish
  have hshared := hspent.shared [_, _, _] _ [_] _ rfl ⟨0, _, rfl, List.mem_singleton_self _⟩ (by
    obtain ⟨-, -, -, -, -, -, -, -, -, -, rfl⟩ := run
    rfl)
  refine (hshared.gets 1 rfl [] _ [] rfl (fun other hother => by cases hother) rfl).resolve_left ?_
  exact fun hdropped => by cases hdropped

end Settled

end Activity

end AccountManager.Session
