import AccountManager.Proofs.Accounts.Epochs
import AccountManager.Proofs.Session.Lateness

/-!
# Calls that wait for a certificate

A call that waits for a certificate remembers the key and the request that were at hand when it
began, and nothing that happens to the provisioner meanwhile changes what it remembers. While time
goes forward, the key of a call of the current epoch is still at hand unless it has expired.
-/

namespace AccountManager.Accounts

open Storage

variable {σ : Type} [CredentialStore σ]

/-- What a call remembers that has begun to wait for a certificate. -/
structure BeginsToWait (made : Made (Activity σ) (Move σ) Session.Reply) (id : CallId)
    (wait : CertificateWait) : Prop where
  move : made.move = .beginAssertion id wait.audience
  generation : wait.generation = made.before.session.epoch
  fresh : ∃ fresh, made.before.provisioner.GetsKey made.before.accounts.setting fresh ∧
    fresh.result = wait.key
  key : made.after.provisioner.key = some wait.key
  inFlight : made.after.provisioner.inFlight = some ⟨wait.key.id, wait.requestId⟩

/-- Whether a move does not turn the clock back. -/
def Forward (made : Made (Activity σ) (Move σ) Session.Reply) : Prop :=
  made.before.accounts.clock ≤ made.after.accounts.clock

omit [CredentialStore σ] in
instance (made : Made (Activity σ) (Move σ) Session.Reply) : Decidable (Forward made) :=
  inferInstanceAs (Decidable (_ ≤ _))

namespace Activity

variable {activity start finish : Activity σ} {move : Move σ} {history : History σ}
  {step : Step (Activity σ) Session.Reply} {id other : CallId} {wait : CertificateWait}
  {key : EphemeralKey} {result : Except AccountError Answer}

/-! ### Who returns -/

theorem id_of_beginsAssertion {audience : String}
    (hbegins : activity.BeginsAssertion id audience step)
    (hreturned : (other, result) ∈ returnedOf step.effects) : other = id := by
  have hlooks := activity.session.snapshot_onlyLogs.2.2
  cases hbegins with
  | refused error => exact (by simpa [hlooks] using hreturned : _ ∧ _).1
  | ready hlooked hfresh hcertificate hkey hvalid hlogs =>
    exact (by simpa [hlogs.2.2] using hreturned : _ ∧ _).1
  | joined hlooked hfresh hrequest hkey hlogs => simp [hlogs.2.2] at hreturned
  | requested hlooked htoken hfresh hlogs => simp [hlogs.2.2] at hreturned

theorem caller_of_returned (horderly : activity.Orderly) (hstep : activity.step? move = some step)
    (hreturned : (id, result) ∈ returnedOf step.effects) : move.caller? = some id := by
  cases allows_of_step? horderly.settled hstep with
  | session hfree hinner hepoch => exact (Session.Activity.of_returned hinner hreturned).1
  | newEpoch hinner hepoch hextra =>
    rw [returnedOf_append, hextra.2.2, List.append_nil] at hreturned
    exact (Session.Activity.of_returned hinner hreturned).1
  | setClock | answerCertificate | drop => cases hreturned
  | beginAssertion hnew hfree hbegins =>
    exact congrArg some (id_of_beginsAssertion hbegins hreturned).symm
  | @resume other wait answer hwait hanswer =>
    have hresumes := resume_resumes horderly hwait answer
    generalize activity.resume other wait answer = step at hresumes hreturned
    have hid : id = other := by
      cases hresumes with
      | stale hstale hlogs => exact (by simpa [hlogs.2.2] using hreturned : _ ∧ _).1
      | finished hepoch hfinishes =>
        rw [returnedOf_append, hfinishes.onlyLogs.2.2] at hreturned
        exact (by simpa using hreturned : _ ∧ _).1
    exact congrArg some hid.symm

/-! ### What a move does to a call -/

def IsOver (activity : Activity σ) (id : CallId) : Prop :=
  activity.wait? id = none ∧ activity.waiting? id = none

theorem same_of_not_caller (horderly : activity.Orderly) (hstep : activity.step? move = some step)
    (hcaller : move.caller? ≠ some id) :
    step.state.wait? id = activity.wait? id ∧ step.state.waiting? id = activity.waiting? id := by
  have hforget {other : CallId} (hother : some other ≠ some id) (activity : Activity σ) :
      (activity.forget other).wait? id = activity.wait? id := by
    rw [wait?_forget, if_neg fun hsame => hother (congrArg some hsame.symm)]
  have hawait {other : CallId} (hother : some other ≠ some id) {activity : Activity σ}
      (hnew : activity.wait? other = none) (wait : CertificateWait) :
      (activity.await other wait).wait? id = activity.wait? id := by
    rw [wait?_await hnew, if_neg fun hsame => hother (congrArg some hsame.symm)]
  cases allows_of_step? horderly.settled hstep with
  | setClock | answerCertificate => exact ⟨rfl, rfl⟩
  | session hfree hinner => exact ⟨rfl, Session.Activity.waiting?_of_not_caller hinner hcaller⟩
  | newEpoch hinner => exact ⟨rfl, Session.Activity.waiting?_of_not_caller hinner hcaller⟩
  | resume => exact ⟨hforget hcaller _, rfl⟩
  | drop => exact ⟨hforget hcaller _, rfl⟩
  | beginAssertion hnew hfree hbegins =>
    cases hbegins with
    | refused | ready => exact ⟨hforget hcaller _, rfl⟩
    | joined | requested => exact ⟨hawait hcaller hnew _, rfl⟩

theorem begins_of_over (horderly : activity.Orderly) (hstep : activity.step? move = some step)
    (hover : activity.IsOver id) (hcaller : move.caller? = some id) : move.Begins id := by
  obtain ⟨hwait, hwaiting⟩ := hover
  cases allows_of_step? horderly.settled hstep with
  | setClock | answerCertificate => cases hcaller
  | beginAssertion => exact Option.some.inj hcaller
  | session hfree hinner => exact Session.Activity.begins_of_caller hinner hcaller hwaiting
  | newEpoch hinner => exact Session.Activity.begins_of_caller hinner hcaller hwaiting
  | resume hheld =>
    obtain rfl := Option.some.inj hcaller
    rw [hwait] at hheld
    cases hheld
  | drop hheld =>
    obtain rfl := Option.some.inj hcaller
    rw [hwait] at hheld
    cases hheld

theorem waits_or_over_step (horderly : activity.Orderly) (hstep : activity.step? move = some step)
    (hbegins : ¬ move.Begins id) (h : activity.wait? id = some wait ∨ activity.IsOver id) :
    step.state.wait? id = some wait ∨ step.state.IsOver id := by
  by_cases hcaller : move.caller? = some id
  · rcases h with hwait | hover
    · have hfree := horderly.alone id wait hwait
      have hforgotten : (activity.forget id).wait? id = none := by rw [wait?_forget, if_pos rfl]
      cases allows_of_step? horderly.settled hstep with
      | setClock | answerCertificate => cases hcaller
      | beginAssertion => exact absurd (Option.some.inj hcaller) hbegins
      | session _ hinner =>
        exact absurd (Session.Activity.begins_of_caller hinner hcaller hfree) hbegins
      | newEpoch hinner =>
        exact absurd (Session.Activity.begins_of_caller hinner hcaller hfree) hbegins
      | resume | drop =>
        obtain rfl := Option.some.inj hcaller
        exact .inr ⟨hforgotten, hfree⟩
    · exact absurd (begins_of_over horderly hstep hover hcaller) hbegins
  · obtain ⟨hsame, hsameToo⟩ := same_of_not_caller horderly hstep hcaller
    unfold IsOver
    rw [hsame, hsameToo]
    exact h

/-! ### What is remembered -/

/-- A call that waits has waited before, or it has just begun. -/
theorem waited_of_step? (horderly : activity.Orderly) (hstep : activity.step? move = some step)
    (hafter : step.state.wait? id = some wait) :
    activity.wait? id = some wait ∨ BeginsToWait ⟨activity, move, step⟩ id wait := by
  cases allows_of_step? horderly.settled hstep with
  | session | newEpoch | setClock | answerCertificate => exact .inl hafter
  | resume | drop => exact .inl (wait?_of_forget hafter)
  | beginAssertion hnew hfree hbegins =>
    cases hbegins with
    | refused | ready => exact .inl (wait?_of_forget hafter)
    | joined hlooked hfresh hrequest hkey =>
      rcases wait?_of_await hnew hafter with ⟨rfl, rfl⟩ | hbefore
      · refine .inr ⟨rfl, rfl, ⟨_, hfresh, rfl⟩, hfresh.key, ?_⟩
        rw [← hkey]
        exact hrequest
      · exact .inl hbefore
    | requested hlooked htoken hfresh =>
      rcases wait?_of_await hnew hafter with ⟨rfl, rfl⟩ | hbefore
      · exact .inr ⟨rfl, rfl, ⟨_, hfresh, rfl⟩, hfresh.key, rfl⟩
      · exact .inl hbefore

theorem begun_of_wait (hopened : start.Opened) (run : Run step? start history finish)
    (hwait : finish.wait? id = some wait) :
    ∃ begun, LastOf (fun other => other.move.Begins id) history begun ∧
      BeginsToWait begun id wait := by
  induction history using List.reverseRecOn generalizing finish with
  | nil =>
    obtain rfl : start = finish := run
    obtain ⟨config, seeds, clock, store, rfl⟩ := hopened.eq
    cases hwait
  | append_singleton past made ih =>
    obtain ⟨hpast, hstep, rfl⟩ := run_concat.1 run
    have horderly := orderly_of_run hopened hpast
    rcases waited_of_step? horderly hstep hwait with hbefore | hbegins
    · obtain ⟨begun, hlast, hbegun⟩ := ih hpast hbefore
      exact ⟨begun, hlast.concat (not_begins_of_wait horderly.settled hstep hbefore), hbegun⟩
    · refine ⟨made, .of_concat past ?_, hbegins⟩
      rw [hbegins.move]
      rfl

/-! ### What stays at hand -/

/-- Whether a key is at hand as long as it may be used. -/
def Retains (activity : Activity σ) (key : EphemeralKey) : Prop :=
  activity.accounts.clock < key.validUntil → activity.provisioner.key = some key

theorem retains_step (horderly : activity.Orderly) (hstep : activity.step? move = some step)
    (hforward : activity.accounts.clock ≤ step.state.accounts.clock)
    (hsame : step.state.session.epoch = activity.session.epoch)
    (hretains : activity.Retains key) : step.state.Retains key := by
  intro hafter
  have hvalid : activity.accounts.clock < key.validUntil := UInt64.lt_of_le_of_lt hforward hafter
  have hkey := hretains hvalid
  cases allows_of_step? horderly.settled hstep with
  | session | setClock | answerCertificate | drop => exact hkey
  | newEpoch hinner hepoch =>
    have hnext := Session.Activity.epoch_of_beginsEpoch hinner hepoch
    exact absurd (hsame.symm.trans hnext).symm (Nat.succ_ne_self _)
  | beginAssertion hnew hfree hbegins =>
    cases hbegins with
    | refused => exact hkey
    | ready hlooked hfresh => exact hfresh.kept_of_valid hkey hvalid
    | joined hlooked hfresh => exact hfresh.kept_of_valid hkey hvalid
    | requested hlooked htoken hfresh => exact hfresh.kept_of_valid hkey hvalid
  | @resume id wait answer hwait hanswer =>
    obtain ⟨certificate, hfinished⟩ := activity.provisioner.finish_state activity.accounts.setting
      activity.session.epoch wait.generation wait.key wait.requestId answer
    change (activity.provisioner.finish activity.accounts.setting activity.session.epoch
      wait.generation wait.key wait.requestId answer).state.key = some key
    rw [hfinished]
    exact (Provisioner.key_withoutRequest _ _).trans hkey

/-- The key of a call that waits in the current epoch is at hand, unless it has expired. -/
theorem retains_of_wait (hopened : start.Opened) (run : Run step? start history finish)
    (hforward : ∀ made ∈ history, Forward made) (hwait : finish.wait? id = some wait)
    (hcurrent : wait.generation = finish.session.epoch) : finish.Retains wait.key := by
  induction history using List.reverseRecOn generalizing finish with
  | nil =>
    obtain rfl : start = finish := run
    obtain ⟨config, seeds, clock, store, rfl⟩ := hopened.eq
    cases hwait
  | append_singleton past made ih =>
    obtain ⟨hpast, hstep, rfl⟩ := run_concat.1 run
    have horderly := orderly_of_run hopened hpast
    rcases waited_of_step? horderly hstep hwait with hbefore | hbegins
    · -- No call waits yet in an epoch that begins only now.
      have hearlier := (lookedBefore_of_run hopened hpast).waits id wait hbefore
      have hsame : made.after.session.epoch = made.before.session.epoch := by
        rcases epoch_of_step? horderly hstep with hsame | hnext
        · exact hsame
        · rw [hcurrent] at hearlier
          exact absurd hearlier (Nat.not_lt.2 (Nat.le_of_eq hnext.symm))
      refine retains_step horderly hstep (hforward made (by simp)) hsame (ih hpast ?_ hbefore ?_)
      · exact fun other hother => hforward other (List.mem_append_left _ hother)
      · exact hcurrent.trans hsame
    · exact fun _ => hbegins.key

end Activity

end AccountManager.Accounts
