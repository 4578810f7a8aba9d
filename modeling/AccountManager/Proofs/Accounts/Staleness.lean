import AccountManager.Proofs.Accounts.Epochs
import AccountManager.Proofs.Session.Staleness

/-!
# Stale calls of an account manager

A call captures the epoch when it first looks at the user. Once the epoch has moved on, nothing that
the call still does can be seen: not in the store, the session or the provisioner, nor by
subscribers, and the call does not succeed.
-/

namespace AccountManager.Accounts

open Storage

variable {σ : Type}

/-- What a move of a stale call comes to. -/
structure Inert [CredentialStore σ] (before after : Activity σ) (effects : List Effect) :
    Prop where
  session : Session.Inert before.session after.session effects
  provisioner : after.provisioner = before.provisioner

namespace Activity

/-- Whether a call captures the epoch with a move. -/
def Captures (activity : Activity σ) (id : CallId) : Move σ → Prop
  | .session move => activity.accounts.activity.Captures id move
  | .beginAssertion other _ => other = id
  | _ => False

/-- Whether a call that is still under way goes on with an epoch. -/
structure GoesOnWith (activity : Activity σ) (id : CallId) (generation : Nat) : Prop where
  calls : activity.accounts.activity.GoesOnWith id generation
  waits : ∀ wait, activity.wait? id = some wait → wait.generation = generation

theorem GoesOnWith.forget {activity : Activity σ} {id : CallId} {generation : Nat}
    (h : activity.GoesOnWith id generation) (other : CallId) :
    (activity.forget other).GoesOnWith id generation :=
  ⟨h.calls, fun wait hwait => h.waits wait (wait?_of_forget hwait)⟩

theorem GoesOnWith.withProvisioner {activity : Activity σ} {id : CallId} {generation : Nat}
    (h : activity.GoesOnWith id generation) (provisioner : Provisioner) :
    (activity.withProvisioner provisioner).GoesOnWith id generation := ⟨h.calls, h.waits⟩

theorem GoesOnWith.signing {activity : Activity σ} {id : CallId} {generation : Nat}
    (h : activity.GoesOnWith id generation) (requestId : Nat) :
    (activity.signing requestId).GoesOnWith id generation := ⟨h.calls, h.waits⟩

theorem GoesOnWith.await {activity : Activity σ} {id other : CallId} {generation : Nat}
    (h : activity.GoesOnWith id generation) (hnew : activity.wait? other = none)
    {wait : CertificateWait} (hown : other = id → wait.generation = generation) :
    (activity.await other wait).GoesOnWith id generation := by
  refine ⟨h.calls, fun found hfound => ?_⟩
  rcases wait?_of_await hnew hfound with ⟨hother, rfl⟩ | hold
  · exact hown hother.symm
  · exact h.waits found hold

variable [CredentialStore σ] {activity : Activity σ} {move : Move σ}
  {step : Step (Activity σ) Session.Reply} {id : CallId} {generation : Nat}

theorem goesOnWith_of_beginsAssertion {other : CallId} {audience : String}
    (hnew : activity.wait? other = none) (hbegins : activity.BeginsAssertion other audience step)
    (hgoesOn : activity.GoesOnWith id generation)
    (hown : other = id → activity.session.epoch = generation) :
    step.state.GoesOnWith id generation := by
  have hlooked : activity.looked.GoesOnWith id generation := ⟨hgoesOn.calls, hgoesOn.waits⟩
  have hprovisioned (provisioner : Provisioner) := hlooked.withProvisioner provisioner
  cases hbegins with
  | refused error => exact hlooked.forget other
  | ready => exact (hprovisioned _).forget other
  | joined => exact (hprovisioned _).await hnew fun hother => hown hother
  | requested =>
    exact ((hprovisioned _).await hnew fun hother => hown hother).signing _

theorem goesOnWith_of_captures (horderly : activity.Orderly)
    (hstep : activity.step? move = some step) (hcaptures : activity.Captures id move) :
    step.state.GoesOnWith id activity.session.epoch := by
  cases allows_of_step? horderly.settled hstep with
  | setClock | answerCertificate | resume | drop => exact hcaptures.elim
  | newEpoch hinner hepoch =>
    have hcaller := Session.Activity.Captures.caller? hcaptures
    rw [hepoch.caller?_eq_none] at hcaller
    cases hcaller
  | beginAssertion hnew hfree hbegins =>
    cases hcaptures
    refine goesOnWith_of_beginsAssertion hnew hbegins ⟨?_, ?_⟩ fun _ => rfl
    · exact Session.Activity.goesOnWith_of_waiting?_eq_none hfree
    · intro wait hwait
      rw [hnew] at hwait
      cases hwait
  | session hfree hinner hepoch =>
    refine ⟨Session.Activity.goesOnWith_of_captures hinner hcaptures, fun wait hwait => ?_⟩
    have hnone : activity.accounts.activity.waiting? id = none := horderly.alone id wait hwait
    have hcaller := Session.Activity.Captures.caller? hcaptures
    have hnew := hfree id (Session.Activity.begins_of_caller hinner hcaller hnone)
    rw [show activity.wait? id = some wait from hwait] at hnew
    cases hnew

theorem goesOnWith_step (horderly : activity.Orderly) (hstep : activity.step? move = some step)
    (hbegins : ¬ move.Begins id) (hgoesOn : activity.GoesOnWith id generation) :
    step.state.GoesOnWith id generation := by
  cases allows_of_step? horderly.settled hstep with
  | setClock | answerCertificate => exact ⟨hgoesOn.calls, hgoesOn.waits⟩
  | drop hwait => exact hgoesOn.forget _
  | resume hwait hanswer => exact (hgoesOn.withProvisioner _).forget _
  | beginAssertion hnew hfree hbegun =>
    exact goesOnWith_of_beginsAssertion hnew hbegun hgoesOn fun hother => absurd hother hbegins
  | session hfree hinner hepoch =>
    exact ⟨Session.Activity.goesOnWith_step hinner hbegins hgoesOn.calls, hgoesOn.waits⟩
  | newEpoch hinner hepoch hextra =>
    exact ⟨Session.Activity.goesOnWith_step hinner hbegins hgoesOn.calls, hgoesOn.waits⟩

/-- A call that goes on with another epoch than the current one makes inert moves only. -/
theorem inert_of_stale (horderly : activity.Orderly) (hstep : activity.step? move = some step)
    (hcaller : move.caller? = some id) (hbegins : ¬ move.Begins id)
    (hgoesOn : activity.GoesOnWith id generation) (hstale : activity.session.epoch ≠ generation) :
    Inert activity step.state step.effects := by
  cases allows_of_step? horderly.settled hstep with
  | setClock | answerCertificate => cases hcaller
  | beginAssertion => exact absurd (Option.some.inj hcaller) hbegins
  | drop hwait => exact ⟨Session.Activity.inert_of_onlyLogs (.inl rfl) onlyLogs_nil, rfl⟩
  | newEpoch hinner hepoch hextra =>
    rw [show Move.caller? (.session _) = none from hepoch.caller?_eq_none] at hcaller
    cases hcaller
  | session hfree hinner hepoch =>
    exact ⟨Session.Activity.inert_of_stale hinner hcaller hbegins hgoesOn.calls hstale, rfl⟩
  | @resume _ wait answer hwait hanswer =>
    cases hcaller
    have hresumes := resume_resumes horderly hwait answer
    generalize activity.resume id wait answer = step at hresumes ⊢
    cases hresumes with
    | stale _ hlogs => exact ⟨Session.Activity.inert_of_failed (.inl rfl) hlogs, rfl⟩
    | finished hepoch => exact absurd (hepoch.trans (hgoesOn.waits wait hwait)) hstale

/-! ### Runs -/

/-- A call keeps the epoch that it captured until another call takes its name. -/
theorem goesOnWith_of_run {finish : Activity σ} {history : History σ}
    (run : Run step? activity history finish) (horderly : activity.Orderly)
    (hbegins : ∀ made ∈ history, ¬ made.move.Begins id)
    (hgoesOn : activity.GoesOnWith id generation) :
    finish.GoesOnWith id generation ∧ finish.Orderly := by
  induction history generalizing activity with
  | nil =>
    obtain rfl : activity = finish := run
    exact ⟨hgoesOn, horderly⟩
  | cons made rest ih =>
    obtain ⟨rfl, hstep, hrest⟩ := run
    have hfirst := hbegins made List.mem_cons_self
    exact ih hrest (orderly_step hstep horderly)
      (fun other hother => hbegins other (List.mem_cons_of_mem made hother))
      (goesOnWith_step horderly hstep hfirst hgoesOn)

/-- Whatever a call still does once the epoch is no longer the one it captured has no effect that
could be seen, and the call does not succeed. -/
theorem stale_moves_are_inert {start finish : Activity σ} {past later : History σ}
    {captured made : Made (Activity σ) (Move σ) Session.Reply} (hopened : start.Opened)
    (run : Run step? start (past ++ captured :: (later ++ [made])) finish)
    (hcaptures : captured.before.Captures id captured.move)
    (hsame : ∀ other ∈ later ++ [made], ¬ other.move.Begins id)
    (hcaller : made.move.caller? = some id)
    (hstale : made.before.session.epoch ≠ captured.before.session.epoch) :
    Inert made.before made.after made.step.effects := by
  obtain ⟨hpast, hcaptured, hrest⟩ := run.cut
  obtain ⟨hlater, hmade, -⟩ := run_concat.1 hrest
  have horderly := orderly_of_run hopened hpast
  obtain ⟨hgoesOn, hreached⟩ := goesOnWith_of_run hlater (orderly_step hcaptured horderly)
    (fun other hother => hsame other (List.mem_append_left _ hother))
    (goesOnWith_of_captures horderly hcaptured hcaptures)
  exact inert_of_stale hreached hmade hcaller (hsame made (by simp)) hgoesOn hstale

/-- A user signs out while the service is asked about the address, and the answer comes late. -/
theorem late_verification_is_inert :
    ∃ finish past later,
      ∃ captured made : Made (Activity (BlobCredentials MemoryBlobs)) (Move _) Session.Reply,
        Run step? (blank memory) (past ++ captured :: (later ++ [made])) finish ∧
          captured.move = .session (.beginVerification 0 { sessionToken := some "token" }) ∧
          made.move = .session (.answerStatus 0 (.ok true)) ∧
          made.before.session.epoch ≠ captured.before.session.epoch ∧
          Inert made.before made.after made.step.effects := by
  obtain ⟨finish, run⟩ := run_played step? (blank memory) [
    .session (.signIn { sessionToken := some "token" }),
    .session (.beginVerification 0 { sessionToken := some "token" }),
    .session .signOut,
    .session (.answerStatus 0 (.ok true))]
  refine ⟨finish, [_], [_], _, _, run, rfl, rfl, by decide, ?_⟩
  refine @stale_moves_are_inert _ _ 0 _ _ [_] [_] _ _ (blank_opened _) run ⟨rfl, rfl⟩ ?_ rfl
    (by decide)
  intro other hother
  rcases List.mem_append.1 hother with hother | hother
  · obtain rfl := List.mem_singleton.1 hother
    exact fun hbegins => hbegins
  · obtain rfl := List.mem_singleton.1 hother
    exact fun hbegins => hbegins

end Activity

end AccountManager.Accounts
