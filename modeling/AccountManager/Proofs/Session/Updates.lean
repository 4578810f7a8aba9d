import AccountManager.Proofs.Session.Turns

/-!
# Updates of the signed-in record

Within an epoch the record of the user changes in two ways: it is marked as verified, or its keys
come. Keys are written into the record that was read before the service was asked for them, and the
only thing that can happen to the stored record meanwhile is a mark, which the keys bring along. So
no update undoes another, whatever the order in which the calls complete.
-/

namespace AccountManager.Session

open Storage

/-- What may become of a record in one move within an epoch: it stays as it is, it is marked, or its
keys come in place of the tokens for them. -/
inductive Updates (old : CredentialRecord) : CredentialRecord → Prop
  | same : Updates old old
  | marked : Updates old { old with isVerified := true }
  | keyed {token unwrapBKey : String} (kA kB : String) (hkeyless : old.hasKeys = false)
      (htoken : old.keyFetchToken = some token) (hunwrap : old.unwrapBKey = some unwrapBKey) :
      Updates old (withKeys old kA kB)

/-- What is kept of a record for as long as an epoch lasts. -/
structure Carries (old new : CredentialRecord) : Prop where
  email : new.email = old.email
  uid : new.uid = old.uid
  sessionToken : new.sessionToken = old.sessionToken
  assertion : new.assertion = old.assertion
  verified : old.isVerified = true → new.isVerified = true
  keys : old.hasKeys = true → new.kA = old.kA ∧ new.kB = old.kB
  tokens : new.keyFetchToken = old.keyFetchToken ∧ new.unwrapBKey = old.unwrapBKey ∨
    new.keyFetchToken = none ∧ new.unwrapBKey = none ∧ new.hasKeys = true ∧ new.isVerified = true

section Carries

variable {old new newer : CredentialRecord}

theorem Carries.refl (record : CredentialRecord) : Carries record record where
  email := rfl
  uid := rfl
  sessionToken := rfl
  assertion := rfl
  verified hverified := hverified
  keys _ := ⟨rfl, rfl⟩
  tokens := .inl ⟨rfl, rfl⟩

theorem Updates.carries (h : Updates old new) : Carries old new := by
  cases h with
  | same => exact .refl old
  | marked => exact ⟨rfl, rfl, rfl, rfl, fun _ => rfl, fun _ => ⟨rfl, rfl⟩, .inl ⟨rfl, rfl⟩⟩
  | keyed kA kB hkeyless =>
    refine ⟨rfl, rfl, rfl, rfl, fun _ => rfl, fun hkeys => ?_, .inr ⟨rfl, rfl, rfl, rfl⟩⟩
    rw [hkeyless] at hkeys
    cases hkeys

theorem Carries.hasKeys (h : Carries old new) (hkeys : old.hasKeys = true) :
    new.hasKeys = true := by
  unfold CredentialRecord.hasKeys at hkeys ⊢
  rw [(h.keys hkeys).1, (h.keys hkeys).2]
  exact hkeys

theorem Carries.trans (h : Carries old new) (hnewer : Carries new newer) : Carries old newer where
  email := hnewer.email.trans h.email
  uid := hnewer.uid.trans h.uid
  sessionToken := hnewer.sessionToken.trans h.sessionToken
  assertion := hnewer.assertion.trans h.assertion
  verified hverified := hnewer.verified (h.verified hverified)
  keys hkeys :=
    ⟨(hnewer.keys (h.hasKeys hkeys)).1.trans (h.keys hkeys).1,
      (hnewer.keys (h.hasKeys hkeys)).2.trans (h.keys hkeys).2⟩
  tokens := by
    rcases hnewer.tokens with ⟨htoken, hunwrap⟩ | herased
    · rw [htoken, hunwrap]
      refine h.tokens.imp_right fun ⟨hnone, hnoneToo, hkeys, hverified⟩ => ?_
      exact ⟨hnone, hnoneToo, hnewer.hasKeys hkeys, hnewer.verified hverified⟩
    · exact .inr herased

theorem Carries.eq_of_keyed {user : CredentialRecord} {kA kB : String}
    (h : Carries (withKeys user kA kB) new) : new = withKeys user kA kB := by
  obtain ⟨hkA, hkB⟩ := h.keys rfl
  have htokens : new.keyFetchToken = none ∧ new.unwrapBKey = none :=
    h.tokens.elim (fun hkept => hkept) fun herased => ⟨herased.1, herased.2.1⟩
  have hverified := h.verified rfl
  have hemail := h.email
  have huid := h.uid
  have hsessionToken := h.sessionToken
  have hassertion := h.assertion
  cases new
  simp_all [withKeys]

theorem Carries.withKeys_eq (h : Carries old new) (kA kB : String) :
    withKeys new kA kB = withKeys old kA kB := by
  unfold withKeys
  rw [h.email, h.uid, h.sessionToken, h.assertion]

end Carries

variable {σ : Type} [CredentialStore σ] [LawfulStore σ] {session : Session σ}
  {old new record : CredentialRecord}

/-- Whether a record is that of the signed-in user: the store holds it and may be read, and no other
is cached. -/
structure SignedIn (session : Session σ) (record : CredentialRecord) : Prop where
  readable : session.pendingClear = false
  stored : contents session.store = some (.ok record)
  cached : ∀ other, session.cached = some other → other = record

theorem SignedIn.unique (h : session.SignedIn old) (hnew : session.SignedIn new) : new = old :=
  Except.ok.inj (Option.some.inj (hnew.stored.symm.trans h.stored))

/-- Whether the keys of a user are to be fetched who had none when the call looked, and who is still
the one who is signed in, if the epoch is the same, perhaps marked by now. -/
structure Fetches (session : Session σ) (user : SignedInUser) (unwrapBKey : String) : Prop where
  keyless : user.record.hasKeys = false
  token : ∃ token, user.record.keyFetchToken = some token
  unwrapBKey : user.record.unwrapBKey = some unwrapBKey
  current : user.generation = session.epoch → ∀ record, session.SignedIn record →
    record = user.record ∨ record = { user.record with isVerified := true }

omit [LawfulStore σ] in
theorem tokens_of_beginKeys {user : SignedInUser} {token unwrapBKey : String}
    (hbegun : session.beginKeys.result = .ok (.fetch user token unwrapBKey)) :
    user.record.hasKeys = false ∧ user.record.unwrapBKey = some unwrapBKey := by
  unfold beginKeys at hbegun
  dsimp only at hbegun
  split at hbegun
  · cases hbegun
  · cases hbegun
  · split at hbegun
    · cases hbegun
    · cases hbegun
    · rename_i hplan
      cases hbegun
      unfold keyPlan at hplan
      split at hplan
      · cases hplan
      · rename_i hkeyless
        split at hplan
        · cases hplan
        · cases hplan
        · rename_i hunwrap
          cases hplan
          exact ⟨by simpa using hkeyless, hunwrap⟩

omit [LawfulStore σ] in
/-- A fetch that succeeds has derived the keys and stored the record. -/
theorem keyed_of_finishKeys {user : SignedInUser} {unwrapBKey : String} {bundle : KeyBundle}
    (hfinished : (session.finishKeys user unwrapBKey (.ok bundle)).result = .ok record) :
    ∃ kB, KeyDerivation.deriveKB bundle.wrapKB unwrapBKey = .ok kB ∧
      record = withKeys user.record (Hex.encode bundle.kA) kB ∧
      user.generation = session.epoch ∧
      ∃ store, CredentialStore.put session.store record = (.ok (), store) ∧
        (session.finishKeys user unwrapBKey (.ok bundle)).state =
          { session with store, cached := some record } := by
  unfold finishKeys at hfinished ⊢
  cases hderived : KeyDerivation.deriveKB bundle.wrapKB unwrapBKey with
  | error error => simp [hderived] at hfinished
  | ok kB =>
    simp only [hderived] at hfinished ⊢
    split at hfinished
    · cases hfinished
    · rename_i hcommitted
      cases hfinished
      obtain ⟨hepoch, store, hput, hstate⟩ := of_commit_eq_ok hcommitted
      exact ⟨kB, rfl, rfl, hepoch.symm, store, hput, hstate⟩

namespace Activity

variable {activity start middle finish : Activity σ} {move : Move σ}
  {step : Step (Activity σ) Reply} {history past later : History σ}
  {made : Made (Activity σ) (Move σ) Reply} {id : CallId}

theorem Faithful.signedIn (h : activity.Faithful)
    (hcontents : contents activity.session.store = some (.ok record))
    (hreadable : activity.session.pendingClear = false) : activity.session.SignedIn record := by
  refine ⟨hreadable, hcontents, fun other hcached => ?_⟩
  have hother := (h.cached other hcached).2
  rw [hcontents] at hother
  exact (Except.ok.inj (Option.some.inj hother)).symm

/-- What holds of the calls and of the record in every state of a run. -/
structure Sound (activity : Activity σ) : Prop where
  turns : activity.Turns
  faithful : activity.Faithful
  fetches : ∀ id user unwrapBKey, activity.waiting? id = some (.keys user unwrapBKey) →
    activity.session.Fetches user unwrapBKey

theorem Sound.seen (h : activity.Sound) {user : SignedInUser}
    (hlooked : activity.session.snapshot.result = .ok (some user)) :
    activity.session.SignedIn user.record := by
  obtain ⟨hreadable, hcontents⟩ := h.faithful.seen hlooked
  exact h.faithful.signedIn hcontents hreadable

/-- What is written over the record of the signed-in user is an update of it. -/
theorem Sound.updates (h : activity.Sound) (hwrites : activity.Writes move new)
    (hold : activity.session.SignedIn old) : Updates old new := by
  cases hwrites with
  | @keys _ user _ kB bundle hwaiting hepoch =>
    have hfetches := h.fetches _ _ _ hwaiting
    obtain ⟨token, htoken⟩ := hfetches.token
    rcases hfetches.current hepoch old hold with rfl | rfl
    · exact .keyed _ _ hfetches.keyless htoken hfetches.unwrapBKey
    · -- The mark that was set meanwhile comes with the keys.
      change Updates _ (withKeys { user.record with isVerified := true } (Hex.encode bundle.kA) kB)
      exact .keyed _ _ hfetches.keyless htoken hfetches.unwrapBKey
  | verified hwaiting hepoch hlooked =>
    obtain rfl := (h.seen hlooked).unique hold
    exact .marked

theorem Sound.signedIn_before (h : activity.Sound) {after : Session σ}
    (halters : activity.Alters move after) (hnew : after.SignedIn new) :
    activity.session.SignedIn new ∨ activity.Writes move new := by
  refine (halters.shows (.stored hnew.readable hnew.stored)).imp_left fun hshows => ?_
  cases hshows with
  | cached hcached =>
    obtain ⟨hreadable, hcontents⟩ := h.faithful.cached _ hcached
    exact h.faithful.signedIn hcontents hreadable
  | stored hreadable hcontents => exact h.faithful.signedIn hcontents hreadable

omit [LawfulStore σ] in
/-- A call that waits for keys has waited before, or it has just looked at the user. -/
theorem planned_of_step? {user : SignedInUser} {unwrapBKey : String}
    (hstep : activity.step? move = some step)
    (hafter : step.state.waiting? id = some (.keys user unwrapBKey)) :
    activity.waiting? id = some (.keys user unwrapBKey) ∨
      (move = .beginKeys id ∨ move = .takeTurn id) ∧
        ∃ token, activity.session.beginKeys.result = .ok (.fetch user token unwrapBKey) := by
  have henter (activity : Activity σ)
      (hafter : (activity.enterKeys id).state.waiting? id = some (.keys user unwrapBKey)) :
      ∃ token, activity.session.beginKeys.result = .ok (.fetch user token unwrapBKey) := by
    rw [waiting?_enterKeys, if_pos rfl] at hafter
    obtain ⟨plan, hresult, hplan⟩ := Option.bind_eq_some_iff.1 hafter
    cases plan with
    | present record => cases hplan
    | fetch planned token key =>
      cases hplan
      exact ⟨token, of_toOption_eq_some hresult⟩
  by_cases hcaller : move.caller? = some id
  · right
    cases allows_of_step? hstep with
    | look | evict | signIn | signOut | alterStore => cases hcaller
    | beginKeys =>
      cases hcaller
      exact ⟨.inl rfl, henter { activity with fetching := some id } hafter⟩
    | takeTurn =>
      cases hcaller
      exact ⟨.inr rfl, henter activity hafter⟩
    | queueKeys hnew hheld =>
      cases hcaller
      simp at hafter
    | answerKeys hwaiting answer =>
      cases hcaller
      simp at hafter
    | drop hwaiting =>
      cases hcaller
      simp at hafter
    | beginVerification | answerStatus | wake =>
      cases hcaller
      obtain ⟨plan, -, hplan⟩ := of_waiting?_continuePoll hafter
      cases plan <;> cases hplan
  · rw [waiting?_of_not_caller hstep hcaller] at hafter
    exact .inl hafter

/-- The user whose keys are fetched stays the one who is signed in, perhaps marked, until the keys
come or the epoch ends. -/
theorem Sound.fetches_step (h : activity.Sound) (hstep : activity.step? move = some step)
    (hquiet : move.KeepsContents) {user : SignedInUser} {unwrapBKey : String}
    (hafter : step.state.waiting? id = some (.keys user unwrapBKey)) :
    step.state.session.Fetches user unwrapBKey := by
  rcases planned_of_step? hstep hafter with hbefore | ⟨hmove, token, hbegun⟩
  · have hfetches := h.fetches id user unwrapBKey hbefore
    refine ⟨hfetches.keyless, hfetches.token, hfetches.unwrapBKey, fun hgeneration new hnew => ?_⟩
    by_cases hepoch : BeginsEpoch move step.result
    · -- A call of an earlier epoch says nothing about the new user.
      have hnext := epoch_of_beginsEpoch hstep hepoch
      have hearlier := (h.faithful.fetching id user unwrapBKey hbefore).1
      omega
    · rw [epoch_of_not_beginsEpoch hstep hepoch] at hgeneration
      rcases h.signedIn_before (alters_of_step? hstep hepoch hquiet) hnew with hsame | hwrites
      · exact hfetches.current hgeneration new hsame
      · cases hwrites with
        | keys => exact absurd ⟨user, unwrapBKey, hafter⟩ (h.turns.none_after_answer hstep)
        | verified hwaiting hcurrent hlooked =>
          rcases hfetches.current hgeneration _ (h.seen hlooked) with hsame | hsame <;>
            exact .inr (by rw [hsame])
  · obtain ⟨hlooked, htoken, -⟩ := of_beginKeys_eq_fetch hbegun
    obtain ⟨hkeyless, hunwrap⟩ := tokens_of_beginKeys hbegun
    refine ⟨hkeyless, ⟨token, htoken⟩, hunwrap, fun _ new hnew => .inl ?_⟩
    have hepoch : ¬ BeginsEpoch move step.result := fun hepoch => by
      have hnone := hepoch.caller?_eq_none
      rcases hmove with rfl | rfl <;> cases hnone
    rcases h.signedIn_before (alters_of_step? hstep hepoch hquiet) hnew with hsame | hwrites
    · exact (h.seen hlooked).unique hsame
    · rcases hmove with rfl | rfl <;> cases hwrites

theorem sound_step (hstep : activity.step? move = some step) (hquiet : move.KeepsContents)
    (h : activity.Sound) : step.state.Sound where
  turns := turns_step hstep h.turns
  faithful := h.faithful.of_step? hstep hquiet
  fetches _ _ _ hafter := h.fetches_step hstep hquiet hafter

theorem Opened.sound (hopened : start.Opened) : start.Sound := by
  have hrun : Run step? start [] start := rfl
  refine ⟨turns_of_run hopened hrun, faithful_of_run hopened hrun fun made hmade => ?_, ?_⟩
  · cases hmade
  · obtain ⟨store, polling, rfl⟩ := hopened
    exact fun id user unwrapBKey hwaiting => by cases hwaiting

theorem Sound.run (h : start.Sound) (run : Run step? start history finish)
    (hquiet : ∀ made ∈ history, made.move.KeepsContents) : finish.Sound :=
  run.kept h fun made hmade hstep hbefore => sound_step hstep (hquiet made hmade) hbefore

/-! ### Within an epoch -/

theorem Sound.signedIn_step (h : activity.Sound) (hstep : activity.step? move = some step)
    (hepoch : ¬ BeginsEpoch move step.result) (hquiet : move.KeepsContents)
    (hold : activity.session.SignedIn old) :
    ∃ new, step.state.session.SignedIn new ∧ Updates old new := by
  have halters := alters_of_step? hstep hepoch hquiet
  have hreadable := halters.pendingClear.trans hold.readable
  have hfaithful := h.faithful.of_step? hstep hquiet
  rcases halters.contents with hsame | ⟨new, hcontents, hwrites⟩
  · exact ⟨old, hfaithful.signedIn (hsame.trans hold.stored) hreadable, .same⟩
  · exact ⟨new, hfaithful.signedIn hcontents hreadable, h.updates hwrites hold⟩

omit [LawfulStore σ] in
theorem epoch_le_of_run (run : Run step? start history finish) :
    start.session.epoch ≤ finish.session.epoch := by
  refine run.le (fun activity => activity.session.epoch) fun made hmade => ?_
  obtain ⟨earlier, -, hstep⟩ := run.reached hmade
  exact epoch_le_of_step? hstep

omit [LawfulStore σ] in
theorem epochs_of_run (run : Run step? start (past ++ made :: later) finish)
    (hepoch : finish.session.epoch = start.session.epoch) :
    made.before.session.epoch = start.session.epoch ∧
      made.after.session.epoch = start.session.epoch := by
  obtain ⟨hpast, hstep, hlater⟩ := run.cut
  have hfirst := epoch_le_of_run hpast
  have hmove := epoch_le_of_step? hstep
  have hlast := epoch_le_of_run hlater
  unfold Made.after at hlast ⊢
  omega

omit [LawfulStore σ] in
theorem within_of_run (run : Run step? start later finish)
    (hepoch : finish.session.epoch = start.session.epoch) (hmade : made ∈ later) :
    ¬ BeginsEpoch made.move made.step.result := by
  obtain ⟨past, rest, rfl⟩ := List.append_of_mem hmade
  obtain ⟨hbefore, hafter⟩ := epochs_of_run run hepoch
  intro hbegins
  have hnext := epoch_of_beginsEpoch run.cut.2.1 hbegins
  unfold Made.after at hafter
  omega

theorem Sound.signedIn_of_run (h : start.Sound) (run : Run step? start later finish)
    (hquiet : ∀ made ∈ later, made.move.KeepsContents)
    (hepoch : finish.session.epoch = start.session.epoch) (hold : start.session.SignedIn old) :
    ∃ new, finish.session.SignedIn new ∧ Carries old new := by
  refine (run.kept (P := fun activity => activity.Sound ∧
    ∃ record, activity.session.SignedIn record ∧ Carries old record)
      ⟨h, old, hold, .refl old⟩ ?_).2
  rintro made hmade hstep ⟨hsound, between, hbetween, hcarries⟩
  have hkeeps := hquiet made hmade
  obtain ⟨new, hnew, hupdates⟩ :=
    hsound.signedIn_step hstep (within_of_run run hepoch hmade) hkeeps hbetween
  exact ⟨sound_step hstep hkeeps hsound, new, hnew, hcarries.trans hupdates.carries⟩

theorem Sound.updates_of_run (h : start.Sound) (run : Run step? start later finish)
    (hquiet : ∀ made ∈ later, made.move.KeepsContents)
    (hepoch : finish.session.epoch = start.session.epoch) (hold : start.session.SignedIn old)
    (hmade : made ∈ later) :
    ∃ before after, made.before.session.SignedIn before ∧ made.after.session.SignedIn after ∧
      Updates before after := by
  have hwithin := within_of_run run hepoch hmade
  obtain ⟨past, rest, rfl⟩ := List.append_of_mem hmade
  obtain ⟨hpast, hstep, -⟩ := run.cut
  have hquietPast : ∀ other ∈ past, other.move.KeepsContents := fun other hother =>
    hquiet other (List.mem_append_left _ hother)
  obtain ⟨before, hbefore, -⟩ :=
    h.signedIn_of_run hpast hquietPast (epochs_of_run run hepoch).1 hold
  obtain ⟨after, hafter, hupdates⟩ :=
    (h.run hpast hquietPast).signedIn_step hstep hwithin (hquiet made hmade) hbefore
  exact ⟨before, after, hbefore, hafter, hupdates⟩

/-! ### Keys that have come -/

/-- Whether a call has got keys with a move, has stored them and returns the record. -/
def Commits (made : Made (Activity σ) (Move σ) Reply) (record : CredentialRecord) : Prop :=
  ∃ id bundle, made.move = .answerKeys id (.ok bundle) ∧
    (id, .ok (.record record)) ∈ returnedOf made.step.effects

/-- The record of a user with the keys that the service handed out in a move. -/
inductive Keyed (made : Made (Activity σ) (Move σ) Reply) (user : CredentialRecord) :
    CredentialRecord → Prop
  | intro {id : CallId} {bundle : KeyBundle} {unwrapBKey kB : String}
      (hmove : made.move = .answerKeys id (.ok bundle))
      (hunwrap : user.unwrapBKey = some unwrapBKey)
      (hderived : KeyDerivation.deriveKB bundle.wrapKB unwrapBKey = .ok kB) :
      Keyed made user (withKeys user (Hex.encode bundle.kA) kB)

theorem Sound.signedIn_of_commits (h : made.before.Sound)
    (hstep : made.before.step? made.move = some made.step) (hcommits : Commits made record) :
    ∃ id user unwrapBKey, made.before.waiting? id = some (.keys user unwrapBKey) ∧
      user.generation = made.before.session.epoch ∧ Keyed made user.record record ∧
      made.after.session.SignedIn record := by
  obtain ⟨id, bundle, hmove, hreturned⟩ := hcommits
  obtain ⟨before, move, step⟩ := made
  dsimp only [Made.after] at *
  subst hmove
  cases allows_of_step? hstep with
  | @answerKeys _ user unwrapBKey hwaiting =>
    obtain ⟨-, stored, hresult, hsame⟩ :=
      of_returned_returnKeys (returnedOf_finishKeys _ _ _ _) hreturned
    obtain rfl := Answer.record.inj hsame
    obtain ⟨kB, hderived, rfl, hepoch, store, hput, hstate⟩ := keyed_of_finishKeys hresult
    have hfetches := h.fetches id user unwrapBKey hwaiting
    refine ⟨id, user, unwrapBKey, hwaiting, hepoch, .intro rfl hfetches.unwrapBKey hderived, ?_⟩
    rw [session_returnKeys]
    dsimp only
    rw [hstate]
    refine ⟨(h.faithful.fetching id user unwrapBKey hwaiting).2 hepoch,
      contents_of_put_eq_ok hput, fun other hcached => (Option.some.inj hcached).symm⟩

omit [CredentialStore σ] [LawfulStore σ] in
/-- The keys that were fetched for a user are those of whoever it was when the epoch began. -/
theorem Keyed.of_carries {user seen : CredentialRecord} (h : Keyed made seen record)
    (hcarries : Carries user seen) : Keyed made user record := by
  cases h with
  | intro hmove hunwrap hderived =>
    rw [hcarries.withKeys_eq]
    refine .intro hmove ?_ hderived
    rcases hcarries.tokens with ⟨-, hsame⟩ | ⟨-, hnone, -⟩
    · rw [← hsame]
      exact hunwrap
    · rw [hnone] at hunwrap
      cases hunwrap

/-- A record that a fetch has stored is that of the user of the epoch, and nothing changes it any
more. -/
theorem Sound.committed {user : CredentialRecord} (h : start.Sound)
    (run : Run step? start later finish) (hquiet : ∀ made ∈ later, made.move.KeepsContents)
    (hepoch : finish.session.epoch = start.session.epoch) (hold : start.session.SignedIn old)
    (hcarries : Carries user old) (hmade : made ∈ later) (hcommits : Commits made record) :
    Keyed made user record ∧ finish.session.SignedIn record := by
  obtain ⟨before, after, rfl⟩ := List.append_of_mem hmade
  obtain ⟨hbefore, hstep, hafter⟩ := run.cut
  obtain ⟨hepochBefore, hepochAfter⟩ := epochs_of_run run hepoch
  have hquietBefore : ∀ other ∈ before, other.move.KeepsContents := fun other hother =>
    hquiet other (List.mem_append_left _ hother)
  have hquietAfter : ∀ other ∈ after, other.move.KeepsContents := fun other hother =>
    hquiet other (List.mem_append_right _ (List.mem_cons_of_mem made hother))
  have hsound := h.run hbefore hquietBefore
  obtain ⟨seen, hseen, hsofar⟩ := h.signedIn_of_run hbefore hquietBefore hepochBefore hold
  obtain ⟨id, planned, unwrapBKey, hwaiting, hcurrent, hkeyed, hstored⟩ :=
    hsound.signedIn_of_commits hstep hcommits
  have hrecord : Keyed made seen record := by
    rcases (hsound.fetches id planned unwrapBKey hwaiting).current hcurrent seen hseen with
      rfl | rfl
    · exact hkeyed
    · -- The mark that was set meanwhile comes with the keys.
      cases hkeyed with
      | intro hanswer hunwrap hderived =>
        exact @Keyed.intro _ _ { planned.record with isVerified := true } _ _ _ _ hanswer hunwrap
          hderived
  obtain ⟨new, hnew, hrest⟩ :=
    (sound_step hstep (hquiet made hmade) hsound).signedIn_of_run hafter hquietAfter
      (hepoch.trans hepochAfter.symm) hstored
  refine ⟨hrecord.of_carries (hcarries.trans hsofar), ?_⟩
  cases hrecord with
  | intro =>
    obtain rfl := hrest.eq_of_keyed
    exact hnew

theorem signedIn_of_userOf {user : CredentialRecord} (hopened : start.Opened)
    (run : Run step? start history finish) (hquiet : ∀ made ∈ history, made.move.KeepsContents)
    (huser : UserOf start history finish.session.epoch user) :
    ∃ record, finish.session.SignedIn record ∧ Carries user record := by
  rcases huser with ⟨hzero, hstored⟩ | ⟨made, hmade, hmove, hresult, hsame⟩
  · have hsigned : start.session.SignedIn user := by
      have hfaithful := hopened.sound.faithful
      obtain ⟨store, polling, rfl⟩ := hopened
      exact hfaithful.signedIn hstored rfl
    have hfirst : start.session.epoch ≤ 0 := hzero ▸ epoch_le_of_run run
    exact hopened.sound.signedIn_of_run run hquiet (by omega) hsigned
  · obtain ⟨past, later, rfl⟩ := List.append_of_mem hmade
    obtain ⟨hpast, hstep, hlater⟩ := run.cut
    have hsound := sound_step hstep (hquiet made hmade)
      (hopened.sound.run hpast fun other hother => hquiet other (List.mem_append_left _ hother))
    have hbegins : BeginsEpoch made.move made.step.result := by
      rw [hmove, hresult]
      exact .signIn user
    rcases presents_of_beginsEpoch hstep hbegins with ⟨signed, hsigned, -, hpresents⟩ | ⟨hout, -⟩
    · obtain rfl := Move.signIn.inj (hmove.symm.trans hsigned)
      have hold := hsound.faithful.signedIn hpresents.stored hpresents.readable
      exact hsound.signedIn_of_run hlater (fun other hother => hquiet other (by simp [hother]))
        hsame.symm hold
    · cases hmove.symm.trans hout

/-- As long as an epoch lasts its user stays signed in, whatever the calls do in which order and
whichever writes fail. Each move leaves the record as it is, marks it, or brings its keys in place
of the tokens for them; so what is there stays, no mark is taken back, and once keys were fetched
and stored the record is that of the user as it was at the beginning of the epoch, with these
keys. -/
theorem no_update_is_lost {user : CredentialRecord} (hopened : start.Opened)
    (hpast : Run step? start past middle) (hlater : Run step? middle later finish)
    (hquiet : ∀ made ∈ past ++ later, made.move.KeepsContents)
    (hepoch : finish.session.epoch = middle.session.epoch)
    (huser : UserOf start past middle.session.epoch user) :
    ∃ old new, middle.session.SignedIn old ∧ finish.session.SignedIn new ∧
      Carries user old ∧ Carries old new ∧
      (∀ made ∈ later, ∃ before after, made.before.session.SignedIn before ∧
        made.after.session.SignedIn after ∧ Updates before after) ∧
      ∀ made ∈ later, ∀ record, Commits made record → Keyed made user record ∧ new = record := by
  have hpastQuiet : ∀ made ∈ past, made.move.KeepsContents := fun made hmade =>
    hquiet made (List.mem_append_left _ hmade)
  have hlaterQuiet : ∀ made ∈ later, made.move.KeepsContents := fun made hmade =>
    hquiet made (List.mem_append_right _ hmade)
  have hsound := hopened.sound.run hpast hpastQuiet
  obtain ⟨old, hold, hsofar⟩ := signedIn_of_userOf hopened hpast hpastQuiet huser
  obtain ⟨new, hnew, hcarries⟩ := hsound.signedIn_of_run hlater hlaterQuiet hepoch hold
  refine ⟨old, new, hold, hnew, hsofar, hcarries, fun made hmade => ?_,
    fun made hmade record hcommits => ?_⟩
  · exact hsound.updates_of_run hlater hlaterQuiet hepoch hold hmade
  · obtain ⟨hkeyed, hrecord⟩ :=
      hsound.committed hlater hlaterQuiet hepoch hold hsofar hmade hcommits
    exact ⟨hkeyed, hrecord.unique hnew⟩

/-- The address is verified and the record evicted while the keys are fetched. -/
theorem verified_user_gets_keys :
    ∃ middle finish, ∃ past later : History (BlobCredentials MemoryBlobs),
      Run step? (blank memory) past middle ∧ Run step? middle later finish ∧
        UserOf (blank memory) past middle.session.epoch
          { sessionToken := some "token", keyFetchToken := some "fetch", unwrapBKey := some "22" } ∧
        (∃ made ∈ later, ∃ id, made.move = .answerStatus id (.ok true)) ∧
        (∃ made ∈ later, made.move = .evict) ∧
        finish.session.SignedIn { sessionToken := some "token", kA := some "44", kB := some "33"
                                  isVerified := true } := by
  obtain ⟨middle, hpast⟩ := run_played step? (blank memory) [.signIn
    { sessionToken := some "token", keyFetchToken := some "fetch", unwrapBKey := some "22" }]
  obtain ⟨finish, hlater⟩ := run_played step? middle [
    .beginKeys 0,
    .beginVerification 1 { sessionToken := some "token" },
    .answerStatus 1 (.ok true),
    .evict,
    .answerKeys 0 (.ok { kA := [0x44], wrapKB := [0x11] })]
  obtain ⟨-, -, rfl⟩ := id hpast
  refine ⟨_, finish, [_], [_, _, _, _, _], hpast, hlater, ?_, ?_, ?_, ?_⟩
  · exact .inr ⟨_, List.mem_singleton_self _, rfl, rfl, rfl⟩
  · exact ⟨_, .tail _ (.tail _ (.head _)), 1, rfl⟩
  · exact ⟨_, .tail _ (.tail _ (.tail _ (.head _))), rfl⟩
  · obtain ⟨-, -, -, -, -, -, -, -, -, -, rfl⟩ := id hlater
    obtain ⟨old, new, -, hnew, -, -, -, hcommitted⟩ :=
      @no_update_is_lost _ _ _ _ _ _ [_] [_, _, _, _, _] _ (blank_opened memory) hpast hlater
        (by simp [Move.KeepsContents]) (by decide)
        (.inr ⟨_, List.mem_singleton_self _, rfl, rfl, rfl⟩)
    obtain ⟨-, rfl⟩ := hcommitted _ (List.mem_of_mem_getLast? rfl) _
      ⟨0, _, rfl, List.mem_singleton_self _⟩
    exact hnew

end Activity

end AccountManager.Session
