import AccountManager.Proofs.Session.Announcements

/-!
# Who tells of the mark

A user's record is marked once in an epoch, by whichever call comes first. Subscribers are told by
every wait that ends, whether or not it found the mark there, and by no call that got the keys,
although the keys bring the mark along. So the mark may be set untold, and it may be told twice.
-/

namespace AccountManager.Session

open Storage

variable {σ : Type} [CredentialStore σ] [LawfulStore σ]

theorem SignedIn.of_cached {session : Session σ} {record : CredentialRecord}
    (hreadable : session.pendingClear = false)
    (hstored : contents session.store = some (.ok record))
    (hcached : session.cached = some record) : session.SignedIn record :=
  ⟨hreadable, hstored, fun _ hother => Option.some.inj (hother.symm.trans hcached)⟩

namespace Activity

variable {activity start finish : Activity σ} {move : Move σ} {step : Step (Activity σ) Reply}
  {past between later history : History σ} {made other : Made (Activity σ) (Move σ) Reply}
  {id : CallId} {answer : Answer}

/-- Whether a move marks the record of the user who is signed in. -/
structure MarksUser (made : Made (Activity σ) (Move σ) Reply) : Prop where
  epoch : made.after.session.epoch = made.before.session.epoch
  unmarked : ∃ old, made.before.session.SignedIn old ∧ old.isVerified = false
  marked : ∃ new, made.after.session.SignedIn new ∧ new.isVerified = true

def EndsWait (made : Made (Activity σ) (Move σ) Reply) : Prop :=
  ∃ id answer, made.move = .answerStatus id (.ok true) ∧
    (id, .ok answer) ∈ returnedOf made.step.effects

omit [LawfulStore σ] in
theorem confirms_of_endsWait (hstep : made.before.step? made.move = some made.step)
    (hends : EndsWait made) :
    ∃ id record, made.before.Confirms id record made.move made.step := by
  obtain ⟨before, move, step⟩ := made
  obtain ⟨id, answer, hmove, hreturned⟩ := hends
  dsimp only at *
  subst hmove
  cases allows_of_step? hstep with
  | answerStatus hwaiting =>
    obtain ⟨-, record, hresult, -⟩ :=
      of_returned_continuePoll (returnedOf_answerStatus _ _ _ _) hreturned
    exact ⟨id, record, confirms_of_verified hwaiting hresult⟩

omit [LawfulStore σ] in
theorem endsWait_of_confirms {record : CredentialRecord}
    (hconfirms : made.before.Confirms id record made.move made.step) :
    EndsWait made ∧ eventsOf made.step.effects = [.verified] := by
  obtain ⟨before, move, step⟩ := made
  cases hconfirms with
  | intro _ _ _ _ _ _ _ hevents hreturned =>
    refine ⟨⟨id, .record record, rfl, ?_⟩, hevents⟩
    rw [hreturned]
    exact List.mem_singleton_self _

omit [LawfulStore σ] in
/-- A verification is told by a wait that ends, and by every such wait. -/
theorem verified_mem_iff (hstep : made.before.step? made.move = some made.step) :
    .verified ∈ eventsOf made.step.effects ↔ EndsWait made := by
  constructor
  · intro hverified
    rcases events_of_step? hstep with hevents | ⟨id, record, hconfirms⟩
    · rw [hevents, Option.mem_toList] at hverified
      exact absurd hverified (announcement?_ne_verified made.move made.step.result)
    · exact (endsWait_of_confirms hconfirms).1
  · intro hends
    obtain ⟨id, record, hconfirms⟩ := confirms_of_endsWait hstep hends
    rw [(endsWait_of_confirms hconfirms).2]
    exact List.mem_singleton_self _

/-- A write that changes what the store holds ends its call well. -/
theorem returned_of_changed (hstep : activity.step? move = some step)
    (hcaller : move.caller? = some id)
    (hchanged : contents step.state.session.store ≠ contents activity.session.store) :
    ∃ record, (id, .ok (.record record)) ∈ returnedOf step.effects := by
  have hkept : KeptOnRefusal (contents (σ := σ)) := contents_of_put_eq_error
  rcases untouched_or_succeeds hkept hstep hcaller with huntouched | ⟨answer, hreturned⟩
  · exact absurd huntouched.held hchanged
  · have hmem : (id, .ok answer) ∈ returnedOf step.effects := by
      rw [hreturned]
      exact List.mem_singleton_self _
    obtain ⟨record, rfl, -⟩ := returns_of_step? hstep hmem
    exact ⟨record, hmem⟩

omit [LawfulStore σ] in
theorem eventsOf_commits {record : CredentialRecord}
    (hstep : made.before.step? made.move = some made.step) (hcommits : Commits made record) :
    eventsOf made.step.effects = [] := by
  obtain ⟨before, move, step⟩ := made
  obtain ⟨id, bundle, hmove, -⟩ := hcommits
  dsimp only at *
  subst hmove
  rcases events_of_step? hstep with hevents | ⟨_, _, hconfirms⟩
  · exact hevents
  · cases hconfirms

theorem MarksUser.by_call (h : MarksUser made)
    (hstep : made.before.step? made.move = some made.step) (hkeeps : made.move.KeepsContents) :
    EndsWait made ∨ ∃ record, Commits made record := by
  obtain ⟨before, move, step⟩ := made
  obtain ⟨hepoch, ⟨old, hold, hunmarked⟩, ⟨new, hnew, hmarked⟩⟩ := h
  dsimp only [Made.after] at *
  have hchanged : contents step.state.session.store ≠ contents before.session.store := by
    rw [hnew.stored, hold.stored]
    intro hsame
    obtain rfl := Except.ok.inj (Option.some.inj hsame)
    rw [hunmarked] at hmarked
    cases hmarked
  have hwithin : ¬ BeginsEpoch move step.result := fun hbegins => by
    have hnext := epoch_of_beginsEpoch hstep hbegins
    omega
  rcases (alters_of_step? hstep hwithin hkeeps).contents with hsame | ⟨written, -, hwrites⟩
  · exact absurd hsame hchanged
  cases hwrites with
  | keys =>
    obtain ⟨record, hreturned⟩ := returned_of_changed hstep rfl hchanged
    exact .inr ⟨record, _, _, rfl, hreturned⟩
  | verified =>
    obtain ⟨record, hreturned⟩ := returned_of_changed hstep rfl hchanged
    exact .inl ⟨_, _, rfl, hreturned⟩

theorem marked_of_endsWait (hsound : made.before.Sound)
    (hstep : made.before.step? made.move = some made.step) (hends : EndsWait made) :
    made.after.session.epoch = made.before.session.epoch ∧
      ∃ record, made.after.session.SignedIn record ∧ record.isVerified = true := by
  obtain ⟨before, move, step⟩ := made
  obtain ⟨id, record, hconfirms⟩ := confirms_of_endsWait hstep hends
  have hsigned := hsound.signedIn_of_confirms hstep hconfirms
  cases hconfirms with
  | intro _ _ _ hrecord =>
    refine ⟨epoch_of_not_beginsEpoch hstep nofun, record, hsigned, ?_⟩
    rw [hrecord]

theorem marked_of_commits (hsound : made.before.Sound)
    (hstep : made.before.step? made.move = some made.step) {record : CredentialRecord}
    (hcommits : Commits made record) :
    made.after.session.epoch = made.before.session.epoch ∧
      ∃ record, made.after.session.SignedIn record ∧ record.isVerified = true := by
  obtain ⟨id, user, unwrapBKey, -, -, hkeyed, hsigned⟩ := hsound.signedIn_of_commits hstep hcommits
  obtain ⟨before, move, step⟩ := made
  obtain ⟨_, _, hmove, -⟩ := hcommits
  dsimp only at hmove
  subst hmove
  refine ⟨epoch_of_not_beginsEpoch hstep nofun, record, hsigned, ?_⟩
  cases hkeyed
  rfl

/-- A user is marked who carried no mark when a wait ended or a call got the keys. -/
theorem marksUser_iff (hsound : made.before.Sound)
    (hstep : made.before.step? made.move = some made.step) (hkeeps : made.move.KeepsContents) :
    MarksUser made ↔
      (∃ old, made.before.session.SignedIn old ∧ old.isVerified = false) ∧
        (EndsWait made ∨ ∃ record, Commits made record) := by
  constructor
  · exact fun h => ⟨h.unmarked, h.by_call hstep hkeeps⟩
  · rintro ⟨hunmarked, hends | ⟨record, hcommits⟩⟩
    · obtain ⟨hepoch, hmarked⟩ := marked_of_endsWait hsound hstep hends
      exact ⟨hepoch, hunmarked, hmarked⟩
    · obtain ⟨hepoch, hmarked⟩ := marked_of_commits hsound hstep hcommits
      exact ⟨hepoch, hunmarked, hmarked⟩

/-- Once marked, the record of the user is not marked again in the epoch. -/
theorem not_marked_again (hsound : start.Sound)
    (run : Run step? start (past ++ made :: (between ++ other :: later)) finish)
    (hquiet : ∀ each ∈ past ++ made :: (between ++ other :: later), each.move.KeepsContents)
    (hmarks : MarksUser made)
    (hepoch : other.before.session.epoch = made.before.session.epoch) : ¬ MarksUser other := by
  rintro ⟨-, ⟨old, hold, hunmarked⟩, -⟩
  obtain ⟨new, hnew, hmarked⟩ := hmarks.marked
  obtain ⟨hpast, hstep, hafter⟩ := run.cut
  have hmade := sound_step hstep (hquiet made (by simp))
    (hsound.run hpast fun before hbefore => hquiet before (by simp [hbefore]))
  obtain ⟨seen, hseen, hcarries⟩ := hmade.signedIn_of_run hafter.cut.1
    (fun later hlater => hquiet later (by simp [hlater])) (hepoch.trans hmarks.epoch.symm) hnew
  obtain rfl := hseen.unique hold
  rw [hcarries.verified hmarked] at hunmarked
  cases hunmarked

/-- A verification is told by each wait that ends, exactly once and when the record of the user
carries the mark, and by nothing else; a call that gets the keys tells nobody. The record of a user
is marked by the first of these calls that ends, whichever it is, and not again in the epoch. -/
theorem waits_tell_of_the_mark (hopened : start.Opened) (run : Run step? start history finish)
    (hquiet : ∀ made ∈ history, made.move.KeepsContents) :
    (∀ made ∈ history,
      (.verified ∈ eventsOf made.step.effects ↔ EndsWait made) ∧
      (EndsWait made → eventsOf made.step.effects = [.verified] ∧
        ∃ record, made.after.session.SignedIn record ∧ record.isVerified = true) ∧
      ((∃ record, Commits made record) → eventsOf made.step.effects = []) ∧
      (MarksUser made ↔
        (∃ old, made.before.session.SignedIn old ∧ old.isVerified = false) ∧
          (EndsWait made ∨ ∃ record, Commits made record))) ∧
    ∀ past made later, history = past ++ made :: later → MarksUser made →
      ∀ other ∈ past ++ later, other.before.session.epoch = made.before.session.epoch →
        ¬ MarksUser other := by
  constructor
  · intro made hmade
    have hkeeps := hquiet made hmade
    obtain ⟨past, later, rfl⟩ := List.append_of_mem hmade
    obtain ⟨hpast, hstep, -⟩ := run.cut
    have hsound := hopened.sound.run hpast fun other hother => hquiet other (by simp [hother])
    refine ⟨verified_mem_iff hstep, fun hends => ⟨?_, (marked_of_endsWait hsound hstep hends).2⟩,
      fun ⟨record, hcommits⟩ => eventsOf_commits hstep hcommits, marksUser_iff hsound hstep hkeeps⟩
    obtain ⟨id, record, hconfirms⟩ := confirms_of_endsWait hstep hends
    exact (endsWait_of_confirms hconfirms).2
  · rintro past made later rfl hmarks other hother hepoch hagain
    rcases List.mem_append.1 hother with hother | hother
    · obtain ⟨earlier, between, rfl⟩ := List.append_of_mem hother
      rw [List.append_assoc, List.cons_append] at run hquiet
      exact not_marked_again hopened.sound run hquiet hagain hepoch.symm hmarks
    · obtain ⟨between, rest, rfl⟩ := List.append_of_mem hother
      exact not_marked_again hopened.sound run hquiet hmarks hepoch hagain

/-- The keys of a user come, who then waits for the verification of the address, and waits again. -/
theorem marked_user_is_told_about_twice :
    ∃ finish, ∃ history : History (BlobCredentials MemoryBlobs),
      Run step? (blank memory) history finish ∧
        sent history = [.login, .verified, .verified] ∧
        (∃ past made later, history = past ++ made :: later ∧ MarksUser made ∧
          eventsOf made.step.effects = [] ∧ ∀ other ∈ past ++ later,
            other.before.session.epoch = made.before.session.epoch → ¬ MarksUser other) := by
  obtain ⟨finish, run⟩ := run_played step? (blank memory) [
    .signIn
      { sessionToken := some "token", keyFetchToken := some "fetch", unwrapBKey := some "22" },
    .beginVerification 1 { sessionToken := some "token" },
    .beginVerification 2 { sessionToken := some "token" },
    .beginKeys 0,
    .answerKeys 0 (.ok { kA := [0x44], wrapKB := [0x11] }),
    .answerStatus 1 (.ok true),
    .answerStatus 2 (.ok true)]
  obtain ⟨htold, hmarked⟩ := @waits_tell_of_the_mark _ _ _ _ _ [_, _, _, _, _, _, _]
    (blank_opened memory) run (by simp [Move.KeepsContents])
  obtain ⟨-, -, hsilent, hmarks⟩ := htold _ (.tail _ (.tail _ (.tail _ (.tail _ (.head _)))))
  have hfirst := hmarks.2 ⟨⟨_, .of_cached rfl (contents_of_put_eq_ok rfl) rfl, rfl⟩,
    .inr ⟨_, 0, _, rfl, List.mem_singleton_self _⟩⟩
  exact ⟨finish, [_, _, _, _, _, _, _], run, rfl, [_, _, _, _], _, [_, _], rfl, hfirst,
    hsilent ⟨_, 0, _, rfl, List.mem_singleton_self _⟩, hmarked [_, _, _, _] _ [_, _] rfl hfirst⟩

/-- A mark that comes with the keys is told to nobody; one that is set while two calls wait is told
twice. -/
theorem mark_is_untold_or_told_twice :
    (∃ finish, ∃ history : History (BlobCredentials MemoryBlobs),
      Run step? (blank memory) history finish ∧ (∃ made ∈ history, MarksUser made) ∧
        sent history = [.login]) ∧
    ∃ finish, ∃ history : History (BlobCredentials MemoryBlobs),
      Run step? (blank memory) history finish ∧ (∃ made ∈ history, MarksUser made) ∧
        sent history = [.login, .verified, .verified] ∧ finish.session.epoch = 1 := by
  constructor
  · obtain ⟨finish, run⟩ := run_played step? (blank memory) [
      .signIn { keyFetchToken := some "fetch", unwrapBKey := some "22" },
      .beginKeys 0,
      .answerKeys 0 (.ok { kA := [0x44], wrapKB := [0x11] })]
    obtain ⟨hpast, hstep, -⟩ := @Run.cut _ _ _ _ _ _ [_, _] [] _ run
    have hsound := (blank_opened memory).sound.run hpast (by simp [Move.KeepsContents])
    refine ⟨finish, [_, _, _], run, ⟨_, .tail _ (.tail _ (.head _)), ?_⟩, rfl⟩
    exact (marksUser_iff hsound hstep trivial).2
      ⟨⟨_, .of_cached rfl (contents_of_put_eq_ok rfl) rfl, rfl⟩,
        .inr ⟨_, 0, _, rfl, List.mem_singleton_self _⟩⟩
  · obtain ⟨finish, run⟩ := run_played step? (blank memory) [
      .signIn { sessionToken := some "token" },
      .beginVerification 1 { sessionToken := some "token" },
      .beginVerification 2 { sessionToken := some "token" },
      .answerStatus 1 (.ok true),
      .answerStatus 2 (.ok true)]
    have hepoch := epoch_eq_length run
    obtain ⟨hpast, hstep, -⟩ := @Run.cut _ _ _ _ _ _ [_, _, _] [_] _ run
    have hsound := (blank_opened memory).sound.run hpast (by simp [Move.KeepsContents])
    refine ⟨finish, [_, _, _, _, _], run, ⟨_, .tail _ (.tail _ (.tail _ (.head _))), ?_⟩, rfl,
      hepoch⟩
    exact (marksUser_iff hsound hstep trivial).2
      ⟨⟨_, .of_cached rfl (contents_of_put_eq_ok rfl) rfl, rfl⟩,
        .inl ⟨1, _, rfl, List.mem_singleton_self _⟩⟩

end Activity

end AccountManager.Session
