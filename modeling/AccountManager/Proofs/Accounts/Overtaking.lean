import AccountManager.Proofs.Accounts.Staleness
import AccountManager.Proofs.Accounts.Waiting

/-!
# Calls that an epoch overtakes

A call that is still under way when somebody signs in or out is tied to the epoch it was begun in,
unless it queues for the right to fetch keys: then it is tied to the epoch in which its turn comes.
A call for an assertion that is overtaken reports that nobody is signed in, whatever is answered to
its request. The calls of the session look at the late answer first and report what they find there.
-/

namespace AccountManager.Accounts

open Storage

variable {σ : Type} [CredentialStore σ]

namespace Activity

variable {activity : Activity σ} {move : Move σ} {step : Step (Activity σ) Session.Reply}
  {id other : CallId} {epoch : Nat} {later : History σ}
  {made : Made (Activity σ) (Move σ) Session.Reply} {result : Except AccountError Answer}

/-! ### The epoch of a call -/

/-- What the epoch of a call is that began in one: it still queues, it goes on with that epoch, or
its turn has come in another. -/
inductive Tied (activity : Activity σ) (id : CallId) (epoch : Nat) (later : History σ) : Prop
  | queued (hwaiting : activity.waiting? id = some .turn)
  | begun (hgoesOn : activity.GoesOnWith id epoch)
  | turned {turn : Made (Activity σ) (Move σ) Session.Reply} (hturn : turn ∈ later)
      (hmove : turn.move = .session (.takeTurn id))
      (hgoesOn : activity.GoesOnWith id turn.before.session.epoch)

theorem tied_of_begins (horderly : activity.Orderly) (hstep : activity.step? move = some step)
    (hbegins : move.Begins id) : step.state.Tied id activity.session.epoch [] := by
  by_cases hcaptures : activity.Captures id move
  · exact .begun (goesOnWith_of_captures horderly hstep hcaptures)
  · cases allows_of_step? horderly.settled hstep with
    | setClock | answerCertificate | resume | drop => exact hbegins.elim
    | newEpoch hinner hepoch => exact absurd hbegins hepoch.not_begins
    | beginAssertion => exact absurd hbegins hcaptures
    | session hfree hinner hepoch =>
      rcases Session.Activity.queues_of_begins hinner hbegins hcaptures with hqueued | hover
      · exact .queued hqueued
      · refine .begun ⟨Session.Activity.goesOnWith_of_waiting?_eq_none hover, fun wait hwait => ?_⟩
        have hnew := hfree id hbegins
        rw [show activity.wait? id = some wait from hwait] at hnew
        cases hnew

theorem tied_of_queued (horderly : activity.Orderly) (hstep : activity.step? move = some step)
    (hwaiting : activity.waiting? id = some .turn) :
    step.state.Tied id epoch (later ++ [⟨activity, move, step⟩]) := by
  have hnone (wait : CertificateWait) : activity.wait? id ≠ some wait := fun hwait => by
    rw [show activity.waiting? id = none from horderly.alone id wait hwait] at hwaiting
    cases hwaiting
  cases allows_of_step? horderly.settled hstep with
  | setClock | answerCertificate | resume | drop => exact .queued hwaiting
  | beginAssertion hnew hfree hbegins => cases hbegins <;> exact .queued hwaiting
  | newEpoch hinner hepoch hextra =>
    refine .queued ((Session.Activity.waiting?_of_not_caller hinner ?_).trans hwaiting)
    rw [hepoch.caller?_eq_none]
    exact fun hcaller => by cases hcaller
  | session hfree hinner hepoch =>
    rcases Session.Activity.queued_step hinner hwaiting with hqueued | rfl | rfl
    · exact .queued hqueued
    · exact .turned (List.mem_append_right _ (List.mem_singleton_self _)) rfl
        (goesOnWith_of_captures horderly hstep rfl)
    · refine .begun ⟨Session.Activity.goesOnWith_of_waiting?_eq_none ?_, fun wait hwait => ?_⟩
      · cases Session.Activity.allows_of_step? hinner with
        | drop =>
          change (activity.accounts.activity.dropCall id).waiting? id = none
          rw [Session.Activity.waiting?_dropCall, if_pos rfl]
      · exact absurd hwait (hnone wait)

/-- A call that queues does not return before its turn comes. -/
theorem turn_of_returned (horderly : activity.Orderly) (hstep : activity.step? move = some step)
    (hwaiting : activity.waiting? id = some .turn)
    (hreturned : (id, result) ∈ returnedOf step.effects) : move = .session (.takeTurn id) := by
  have hcaller := caller_of_returned horderly hstep hreturned
  cases allows_of_step? horderly.settled hstep with
  | setClock | answerCertificate | drop => cases hreturned
  | newEpoch hinner hepoch hextra =>
    rw [show Move.caller? (.session _) = none from hepoch.caller?_eq_none] at hcaller
    cases hcaller
  | beginAssertion hnew hfree hbegins =>
    obtain rfl := Option.some.inj hcaller
    rw [hwaiting] at hfree
    cases hfree
  | resume hwait hanswer =>
    obtain rfl := Option.some.inj hcaller
    rw [show activity.waiting? _ = none from horderly.alone _ _ hwait] at hwaiting
    cases hwaiting
  | session hfree hinner hepoch =>
    rcases Session.Activity.turn_or_drop_of_caller hinner hwaiting hcaller with rfl | rfl
    · rfl
    · cases Session.Activity.allows_of_step? hinner with
      | drop => cases hreturned

theorem Tied.concat (horderly : made.before.Orderly)
    (hstep : made.before.step? made.move = some made.step) (hbegins : ¬ made.move.Begins id)
    (htied : made.before.Tied id epoch later) : made.after.Tied id epoch (later ++ [made]) := by
  cases htied with
  | queued hwaiting => exact tied_of_queued horderly hstep hwaiting
  | begun hgoesOn => exact .begun (goesOnWith_step horderly hstep hbegins hgoesOn)
  | turned hturn hmove hgoesOn =>
    exact .turned (List.mem_append_left _ hturn) hmove
      (goesOnWith_step horderly hstep hbegins hgoesOn)

/-- In every state of a run a call is tied to an epoch or queues. -/
theorem tied_of_run {start finish : Activity σ} {past later : History σ}
    {begun : Made (Activity σ) (Move σ) Session.Reply} (hopened : start.Opened)
    (run : Run step? start (past ++ begun :: later) finish) (hbegun : begun.move.Begins id)
    (hsame : ∀ other ∈ later, ¬ other.move.Begins id) :
    finish.Tied id begun.before.session.epoch later := by
  obtain ⟨hpast, hstep, -⟩ := run.cut
  refine run.induction_after
    (P := fun later activity => activity.Tied id begun.before.session.epoch later)
    (tied_of_begins (orderly_of_run hopened hpast) hstep hbegun) ?_
  intro between made hmade hsofar hcut hstep htied
  exact htied.concat (orderly_of_run hopened hcut) hstep (hsame made hmade)

/-! ### What is returned late -/

/-- What a call of another epoch returns, by the last thing that happened to it. -/
inductive ReturnsLate (activity : Activity σ) (id : CallId) : Move σ → AccountError → Prop
  | session {move : Session.Move σ} {error : AccountError}
      (hlate : activity.accounts.activity.ReturnsLate id move error) :
      activity.ReturnsLate id (.session move) error
  | assertion {wait : CertificateWait} (hwait : activity.wait? id = some wait) :
      activity.ReturnsLate id (.resume id) .notSignedIn

/-- A call that goes on with another epoch than that of the session returns late. -/
theorem returnsLate_of_stale {generation : Nat} (horderly : activity.Orderly)
    (hstep : activity.step? move = some step) (hbegins : ¬ move.Begins id)
    (hgoesOn : activity.GoesOnWith id generation) (hstale : activity.session.epoch ≠ generation)
    (hreadable : Readable activity.session.store)
    (hreturned : (id, result) ∈ returnedOf step.effects) :
    ∃ error, result = .error error ∧ activity.ReturnsLate id move error := by
  have hcaller := caller_of_returned horderly hstep hreturned
  cases allows_of_step? horderly.settled hstep with
  | setClock | answerCertificate | drop => cases hreturned
  | beginAssertion => exact absurd (Option.some.inj hcaller) hbegins
  | newEpoch hinner hepoch hextra =>
    rw [show Move.caller? (.session _) = none from hepoch.caller?_eq_none] at hcaller
    cases hcaller
  | session hfree hinner hepoch =>
    obtain ⟨-, error, hresult, hlate⟩ := Session.Activity.returnsLate_of_stale hinner hcaller
      hbegins hgoesOn.calls hstale hreadable hreturned
    exact ⟨error, hresult, .session hlate⟩
  | @resume _ wait answer hwait hanswer =>
    obtain rfl := Option.some.inj hcaller
    have hresumes := resume_resumes horderly hwait answer
    generalize activity.resume _ wait answer = step at hresumes hreturned
    cases hresumes with
    | stale hother hlogs =>
      obtain rfl : result = .error .notSignedIn := by simpa [hlogs.2.2] using hreturned
      exact ⟨_, rfl, .assertion hwait⟩
    | finished hepoch => exact absurd (hepoch.trans (hgoesOn.waits wait hwait)) hstale

/-- A call that was begun in one epoch and returns in another, over a store that can be read,
returns late, unless it queued for the right to fetch keys and its turn has come in the epoch in
which it returns. -/
theorem overtaken_calls_return_late {start finish : Activity σ} {past later : History σ}
    {begun made : Made (Activity σ) (Move σ) Session.Reply} (hopened : start.Opened)
    (run : Run step? start (past ++ begun :: (later ++ [made])) finish)
    (hbegun : begun.move.Begins id) (hsame : ∀ other ∈ later ++ [made], ¬ other.move.Begins id)
    (hovertaken : made.before.session.epoch ≠ begun.before.session.epoch)
    (hreadable : Readable made.before.session.store)
    (hreturned : (id, result) ∈ returnedOf made.step.effects) :
    (∃ error, result = .error error ∧ made.before.ReturnsLate id made.move error) ∨
      ∃ turn ∈ later ++ [made], turn.move = .session (.takeTurn id) ∧
        turn.before.session.epoch = made.before.session.epoch := by
  obtain ⟨hpast, hbegin, hrest⟩ := run.cut
  obtain ⟨hlater, hmade, -⟩ := run_concat.1 hrest
  have hcut : Run step? start (past ++ begun :: later) made.before :=
    run_append.2 ⟨begun.before, hpast, rfl, hbegin, hlater⟩
  have horderly := orderly_of_run hopened hcut
  have hbegins := hsame made (by simp)
  cases tied_of_run hopened hcut hbegun fun other hother =>
      hsame other (List.mem_append_left _ hother) with
  | begun hgoesOn =>
    exact .inl (returnsLate_of_stale horderly hmade hbegins hgoesOn hovertaken hreadable hreturned)
  | @turned turn hturn hmove hgoesOn =>
    by_cases hepoch : made.before.session.epoch = turn.before.session.epoch
    · exact .inr ⟨turn, List.mem_append_left _ hturn, hmove, hepoch.symm⟩
    · left
      exact returnsLate_of_stale horderly hmade hbegins hgoesOn hepoch hreadable hreturned
  | queued hwaiting =>
    -- Only its turn makes a call return that queues.
    refine .inr ⟨made, by simp, ?_, rfl⟩
    exact turn_of_returned horderly hmade hwaiting hreturned

/-- A user signs out while the keys are fetched, and the service refuses them after that. -/
theorem refused_keys_return_late :
    ∃ finish past later,
      ∃ begun made : Made (Activity (BlobCredentials MemoryBlobs)) (Move _) Session.Reply,
        Run step? (blank memory) (past ++ begun :: (later ++ [made])) finish ∧
          begun.move = .session (.beginKeys 0) ∧
          made.before.session.epoch ≠ begun.before.session.epoch ∧
          Readable made.before.session.store ∧
          made.before.ReturnsLate 0 made.move (.remoteCall (.invalidResponse "late")) := by
  obtain ⟨finish, run⟩ := run_played step? (blank memory) [
    .session (.signIn { sessionToken := some "one", keyFetchToken := some "token",
                        unwrapBKey := some "44" }),
    .session (.beginKeys 0),
    .session .signOut,
    .session (.answerKeys 0 (.error (.invalidResponse "late")))]
  have hreadable : Readable (σ := BlobCredentials MemoryBlobs) memory := ⟨_, rfl⟩
  refine ⟨finish, [_], [_], _, _, run, rfl, by decide, hreadable, ?_⟩
  rcases @overtaken_calls_return_late _ _ 0 (.error (.remoteCall (.invalidResponse "late"))) _ _
      [_] [_] _ _ (blank_opened _) run rfl (by simp [Move.Begins, Session.Move.Begins])
      (by decide) hreadable (List.mem_singleton_self _) with
    ⟨error, hresult, hlate⟩ | ⟨turn, hturn, hmove, -⟩
  · cases hresult
    exact hlate
  · simp only [List.cons_append, List.nil_append, List.mem_cons, List.not_mem_nil,
      or_false] at hturn
    rcases hturn with rfl | rfl <;> cases hmove

/-- Two calls ask for the keys of a user, and another user signs in before the service answers. The
call that has asked reports the late error of the service, and the call that has queued returns the
record of the other user. -/
theorem queued_call_returns_the_next_user :
    ∃ finish past between begun queued,
      ∃ refused turned : Made (Activity (BlobCredentials MemoryBlobs)) (Move _) Session.Reply,
        Run step? (blank memory) (past ++ begun :: queued :: (between ++ [refused, turned]))
            finish ∧
          begun.move = .session (.beginKeys 0) ∧ begun.before.session.epoch = 1 ∧
          queued.move = .session (.beginKeys 1) ∧ queued.before.session.epoch = 1 ∧
          refused.before.session.epoch = 2 ∧ turned.before.session.epoch = 2 ∧
          Readable refused.before.session.store ∧ Readable turned.before.session.store ∧
          (0, .error (.remoteCall (.invalidResponse "late"))) ∈ returnedOf refused.step.effects ∧
          (1, .ok (.record { sessionToken := some "two", kA := some "aa", kB := some "bb" })) ∈
            returnedOf turned.step.effects := by
  obtain ⟨finish, run⟩ := run_played step? (blank memory) [
    .session (.signIn { sessionToken := some "one", keyFetchToken := some "token",
                        unwrapBKey := some "44" }),
    .session (.beginKeys 0),
    .session (.beginKeys 1),
    .session (.signIn { sessionToken := some "two", kA := some "aa", kB := some "bb" }),
    .session (.answerKeys 0 (.error (.invalidResponse "late"))),
    .session (.takeTurn 1)]
  refine ⟨finish, [_], [_], _, _, _, _, run, rfl, rfl, rfl, rfl, rfl, rfl, ?_, ?_, ?_, ?_⟩
  · exact readable_of_contents (contents_of_put_eq_ok rfl)
  · exact readable_of_contents (contents_of_put_eq_ok rfl)
  · exact List.mem_singleton_self _
  · exact List.mem_singleton_self _

end Activity

end AccountManager.Accounts
