import AccountManager.Proofs.Accounts.Calls

/-!
# What belongs to which epoch

The provisioner always belongs to the epoch of the session, and a request that it still holds was
not joined in another one. This is the invariant behind everything that is said about calls that an
epoch has left behind.
-/

namespace AccountManager.Accounts

abbrev History (σ : Type) := List (Made (Activity σ) (Move σ) Session.Reply)

namespace Activity

open Storage

variable {σ : Type}

/-- A call waits for one thing, the provisioner belongs to the current epoch, and so do the calls
that wait for the request it holds. -/
structure Orderly (activity : Activity σ) : Prop where
  settled : activity.provisioner.generation = activity.session.epoch
  alone : ∀ id wait, activity.wait? id = some wait → activity.waiting? id = none
  numbered : ∀ id wait, activity.wait? id = some wait →
    wait.requestId ≤ activity.provisioner.lastId
  outstanding : ∀ request, activity.provisioner.inFlight = some request →
    request.requestId ≤ activity.provisioner.lastId
  current : ∀ id wait request, activity.wait? id = some wait →
    activity.provisioner.inFlight = some request → request.requestId = wait.requestId →
      wait.generation = activity.session.epoch

variable [CredentialStore σ] {activity : Activity σ} {move : Move σ}
  {step : Step (Activity σ) Session.Reply} {id : CallId}

omit [CredentialStore σ] in
theorem Orderly.forget (h : activity.Orderly) (id : CallId) : (activity.forget id).Orderly where
  settled := h.settled
  alone other wait hwait := h.alone other wait (wait?_of_forget hwait)
  numbered other wait hwait := h.numbered other wait (wait?_of_forget hwait)
  outstanding := h.outstanding
  current other wait request hwait := h.current other wait request (wait?_of_forget hwait)

omit [CredentialStore σ] in
theorem Orderly.withProvisioner (h : activity.Orderly) {provisioner : Provisioner}
    (hgeneration : provisioner.generation = activity.provisioner.generation)
    (hlastId : activity.provisioner.lastId ≤ provisioner.lastId)
    (hinFlight : ∀ request, provisioner.inFlight = some request →
      activity.provisioner.inFlight = some request) :
    (activity.withProvisioner provisioner).Orderly where
  settled := hgeneration.trans h.settled
  alone := h.alone
  numbered other wait hwait := Nat.le_trans (h.numbered other wait hwait) hlastId
  outstanding request hrequest :=
    Nat.le_trans (h.outstanding request (hinFlight request hrequest)) hlastId
  current other wait request hwait hrequest :=
    h.current other wait request hwait (hinFlight request hrequest)

omit [CredentialStore σ] in
theorem Orderly.await (h : activity.Orderly) {wait : CertificateWait}
    (hnew : activity.wait? id = none) (hfree : activity.waiting? id = none)
    (hgeneration : wait.generation = activity.session.epoch)
    (hrequestId : wait.requestId ≤ activity.provisioner.lastId) :
    (activity.await id wait).Orderly := by
  refine ⟨h.settled, ?_, ?_, h.outstanding, ?_⟩
  · intro other found hfound
    rcases wait?_of_await hnew hfound with ⟨rfl, rfl⟩ | hold
    · exact hfree
    · exact h.alone other found hold
  · intro other found hfound
    rcases wait?_of_await hnew hfound with ⟨rfl, rfl⟩ | hold
    · exact hrequestId
    · exact h.numbered other found hold
  · intro other found request hfound hrequest heq
    rcases wait?_of_await hnew hfound with ⟨rfl, rfl⟩ | hold
    · exact hgeneration
    · exact h.current other found request hold hrequest heq

omit [CredentialStore σ] in
theorem Orderly.requesting (h : activity.Orderly) (keyId : Nat) :
    (activity.withProvisioner (activity.provisioner.requesting keyId)).Orderly where
  settled := h.settled
  alone := h.alone
  numbered other wait hwait := Nat.le_succ_of_le (h.numbered other wait hwait)
  outstanding request hrequest := by
    obtain rfl := Option.some.inj hrequest
    exact Nat.le_refl _
  current other wait request hwait hrequest heq := by
    obtain rfl := Option.some.inj hrequest
    have hnumbered := h.numbered other wait hwait
    rw [← heq] at hnumbered
    exact absurd hnumbered (Nat.not_succ_le_self _)

omit [CredentialStore σ] in
theorem Orderly.signing (h : activity.Orderly) (requestId : Nat) :
    (activity.signing requestId).Orderly :=
  ⟨h.settled, h.alone, h.numbered, h.outstanding, h.current⟩

theorem Orderly.looked (h : activity.Orderly) : activity.looked.Orderly where
  settled := h.settled.trans (Session.snapshot_epoch activity.session).symm
  alone := h.alone
  numbered := h.numbered
  outstanding := h.outstanding
  current other wait request hwait hrequest heq :=
    (h.current other wait request hwait hrequest heq).trans
      (Session.snapshot_epoch activity.session).symm

theorem Orderly.beginsAssertion (h : activity.Orderly) {audience : String}
    (hnew : activity.wait? id = none) (hfree : activity.waiting? id = none)
    (hbegins : activity.BeginsAssertion id audience step) : step.state.Orderly := by
  have hfresh {fresh : Step Provisioner EphemeralKey}
      (hgets : activity.provisioner.GetsKey activity.accounts.setting fresh) :
      (activity.looked.withProvisioner fresh.state).Orderly :=
    h.looked.withProvisioner hgets.generation hgets.lastId_le fun _ => hgets.inFlight
  have hepoch : activity.session.epoch = activity.looked.session.epoch :=
    (Session.snapshot_epoch activity.session).symm
  cases hbegins with
  | refused error => exact h.looked.forget id
  | ready hlooked hgets hcertificate hkey hvalid hlogs => exact (hfresh hgets).forget id
  | joined hlooked hgets hrequest hkey hlogs =>
    exact (hfresh hgets).await hnew hfree hepoch ((hfresh hgets).outstanding _ hrequest)
  | requested hlooked htoken hgets hlogs =>
    exact (((hfresh hgets).requesting _).await hnew hfree hepoch (Nat.le_refl _)).signing _

/-- The calls of the session move on without getting in each other's way. -/
theorem Orderly.alone_session (h : activity.Orderly) {move : Session.Move σ}
    {inner : Step (Session.Activity σ) Session.Reply}
    (hfree : ∀ id, move.Begins id → activity.wait? id = none)
    (hinner : activity.accounts.activity.step? move = some inner) {wait : CertificateWait}
    (hwait : activity.wait? id = some wait) : inner.state.waiting? id = none := by
  have hnone : activity.accounts.activity.waiting? id = none := h.alone id wait hwait
  by_cases hcaller : move.caller? = some id
  · have hbegins := Session.Activity.begins_of_caller hinner hcaller hnone
    rw [hfree id hbegins] at hwait
    cases hwait
  · rw [Session.Activity.waiting?_of_not_caller hinner hcaller]
    exact hnone

/-- Every move keeps everything in order. -/
theorem orderly_step (hstep : activity.step? move = some step) (h : activity.Orderly) :
    step.state.Orderly := by
  cases allows_of_step? h.settled hstep with
  | setClock now => exact ⟨h.settled, h.alone, h.numbered, h.outstanding, h.current⟩
  | answerCertificate hheld answer =>
    exact ⟨h.settled, h.alone, h.numbered, h.outstanding, h.current⟩
  | drop hwait => exact h.forget _
  | beginAssertion hnew hfree hbegins => exact h.beginsAssertion hnew hfree hbegins
  | session hfree hinner hepoch =>
    have hsame := Session.Activity.epoch_of_not_beginsEpoch hinner hepoch
    refine ⟨h.settled.trans hsame.symm, ?_, h.numbered, h.outstanding, ?_⟩
    · exact fun other wait hwait => h.alone_session hfree hinner hwait
    · exact fun other wait request hwait hrequest heq =>
        (h.current other wait request hwait hrequest heq).trans hsame.symm
  | newEpoch hinner hepoch hextra =>
    refine ⟨rfl, ?_, h.numbered, ?_, ?_⟩
    · exact fun other wait hwait =>
        h.alone_session (fun id hbegins => absurd hbegins hepoch.not_begins) hinner hwait
    · exact fun request hrequest => by cases hrequest
    · exact fun other wait request hwait hrequest => by cases hrequest
  | @resume other wait answer hwait hanswer =>
    obtain ⟨certificate, hfinished⟩ := activity.provisioner.finish_state activity.accounts.setting
      activity.session.epoch wait.generation wait.key wait.requestId answer
    have hkept : (activity.withProvisioner
        { activity.provisioner.withoutRequest wait.requestId with certificate }).Orderly :=
      h.withProvisioner (Provisioner.generation_withoutRequest _ _)
        (Nat.le_of_eq (Provisioner.lastId_withoutRequest _ _).symm)
        fun request => Provisioner.inFlight_of_withoutRequest
    rw [← hfinished] at hkept
    exact hkept.forget other

/-- What comes of a call that takes the answer it waited for: it fails if the epoch has moved on,
and otherwise the provisioner takes the answer for it. -/
inductive Resumes (activity : Activity σ) (id : CallId) (wait : CertificateWait)
    (answer : Except RemoteError String) : Step (Activity σ) Session.Reply → Prop
  | stale {effects : List Effect} (hstale : activity.session.epoch ≠ wait.generation)
      (hlogs : OnlyLogs effects) :
      Resumes activity id wait answer
        ⟨.none, activity.forget id, effects ++ [.returned id (.error .notSignedIn)]⟩
  | finished {finished : Step Provisioner (Except AccountError String)}
      (hepoch : activity.session.epoch = wait.generation)
      (hfinishes : activity.provisioner.Finishes activity.accounts.setting wait.key wait.requestId
        answer finished) :
      Resumes activity id wait answer
        ⟨.none, (activity.withProvisioner finished.state).forget id,
          finished.effects ++ [.returned id ((finished.result.map
            (assertionOf activity.accounts wait.key wait.audience)).map .assertion)]⟩

omit [CredentialStore σ] in
theorem resume_resumes (horderly : activity.Orderly) {wait : CertificateWait}
    (hwait : activity.wait? id = some wait) (answer : Except RemoteError String) :
    activity.Resumes id wait answer (activity.resume id wait answer) := by
  by_cases hepoch : activity.session.epoch = wait.generation
  · apply Resumes.finished hepoch
    change activity.provisioner.Finishes activity.accounts.setting wait.key wait.requestId answer
      (activity.provisioner.finish activity.accounts.setting activity.session.epoch wait.generation
        wait.key wait.requestId answer)
    rw [hepoch]
    exact Provisioner.finish_finishes (horderly.settled.trans hepoch) activity.accounts.setting
      wait.key wait.requestId answer
  · -- The request of a stale call cannot be the outstanding one.
    have hother : activity.provisioner.inFlight.map InFlight.requestId ≠ some wait.requestId := by
      intro hrequest
      obtain ⟨request, hheld, heq⟩ := Option.map_eq_some_iff.1 hrequest
      exact hepoch (horderly.current id wait request hwait hheld heq).symm
    obtain ⟨effects, hlogs, hfinish⟩ := Provisioner.finish_of_stale hepoch hother
      activity.accounts.setting wait.key answer
    change activity.accounts.provisioner.finish activity.accounts.setting activity.accounts.epoch
      wait.generation wait.key wait.requestId answer = _ at hfinish
    have hresumed : activity.resume id wait answer =
        ⟨.none, activity.forget id, effects ++ [.returned id (.error .notSignedIn)]⟩ := by
      unfold resume
      simp only [hfinish]
      rfl
    rw [hresumed]
    exact .stale hepoch hlogs

/-! ### Generations -/

theorem awaited_of_beginsAssertion {other : CallId} {audience : String} {wait : CertificateWait}
    (hnew : activity.wait? other = none) (hbegins : activity.BeginsAssertion other audience step)
    (hafter : step.state.wait? id = some wait) :
    activity.wait? id = some wait ∨
      wait.generation = activity.session.epoch ∧
        ∃ user, activity.session.snapshot.result = .ok (some user) := by
  cases hbegins with
  | refused error => exact .inl (wait?_of_forget hafter)
  | ready => exact .inl (wait?_of_forget hafter)
  | @joined user fresh request effects hlooked hfresh hrequest hkey hlogs =>
    rcases wait?_of_await hnew hafter with ⟨-, rfl⟩ | hbefore
    · exact .inr ⟨rfl, user, hlooked⟩
    · exact .inl hbefore
  | @requested user token fresh effects hlooked htoken hfresh hlogs =>
    rcases wait?_of_await hnew hafter with ⟨-, rfl⟩ | hbefore
    · exact .inr ⟨rfl, user, hlooked⟩
    · exact .inl hbefore

theorem awaited_of_step? (horderly : activity.Orderly) {wait : CertificateWait}
    (hstep : activity.step? move = some step) (hafter : step.state.wait? id = some wait) :
    activity.wait? id = some wait ∨
      wait.generation = activity.session.epoch ∧
        ∃ user, activity.session.snapshot.result = .ok (some user) := by
  cases allows_of_step? horderly.settled hstep with
  | session | newEpoch | setClock | answerCertificate => exact .inl hafter
  | beginAssertion hnew hfree hbegins => exact awaited_of_beginsAssertion hnew hbegins hafter
  | resume | drop => exact .inl (wait?_of_forget hafter)

/-- Whether the calls under way looked at the user before an epoch began. -/
structure LookedBefore (activity : Activity σ) (epoch : Nat) : Prop where
  calls : ∀ id user unwrapBKey, activity.waiting? id = some (.keys user unwrapBKey) →
    user.generation < epoch
  waits : ∀ id wait, activity.wait? id = some wait → wait.generation < epoch

/-- Looking at the user is all that makes a call remember an epoch. -/
theorem lookedBefore_step (horderly : activity.Orderly) (hstep : activity.step? move = some step)
    {epoch : Nat} (h : activity.LookedBefore epoch)
    (hseen : ∀ user, activity.session.snapshot.result = .ok (some user) →
      activity.session.epoch < epoch) : step.state.LookedBefore epoch := by
  constructor
  · intro id user unwrapBKey hafter
    have hsession {move : Session.Move σ} {inner : Step (Session.Activity σ) Session.Reply}
        (hinner : activity.accounts.activity.step? move = some inner)
        (hafter : inner.state.waiting? id = some (.keys user unwrapBKey)) :
        user.generation < epoch := by
      rcases Session.Activity.remembered_of_step? hinner hafter with hbefore | hlooked
      · exact h.calls id user unwrapBKey hbefore
      · rw [(Session.of_snapshot_eq_some hlooked).1]
        exact hseen user hlooked
    cases allows_of_step? horderly.settled hstep with
    | session hfree hinner hepoch => exact hsession hinner hafter
    | newEpoch hinner hepoch hextra => exact hsession hinner hafter
    | setClock | answerCertificate | resume | drop => exact h.calls id user unwrapBKey hafter
    | beginAssertion hnew hfree hbegins =>
      cases hbegins <;> exact h.calls id user unwrapBKey hafter
  · intro id wait hafter
    rcases awaited_of_step? horderly hstep hafter with hbefore | ⟨hgeneration, user, hlooked⟩
    · exact h.waits id wait hbefore
    · rw [hgeneration]
      exact hseen user hlooked

omit [CredentialStore σ] in
theorem LookedBefore.mono {epoch later : Nat} (h : activity.LookedBefore epoch)
    (hlater : epoch ≤ later) : activity.LookedBefore later where
  calls id user unwrapBKey hwaiting :=
    Nat.lt_of_lt_of_le (h.calls id user unwrapBKey hwaiting) hlater
  waits id wait hwait := Nat.lt_of_lt_of_le (h.waits id wait hwait) hlater

/-- A move begins the next epoch or stays in this one. -/
theorem epoch_of_step? (horderly : activity.Orderly) (hstep : activity.step? move = some step) :
    step.state.session.epoch = activity.session.epoch ∨
      step.state.session.epoch = activity.session.epoch + 1 := by
  cases allows_of_step? horderly.settled hstep with
  | session hfree hinner hepoch =>
    exact .inl (Session.Activity.epoch_of_not_beginsEpoch hinner hepoch)
  | newEpoch hinner hepoch hextra =>
    exact .inr (Session.Activity.epoch_of_beginsEpoch hinner hepoch)
  | setClock | answerCertificate | resume | drop => exact .inl rfl
  | beginAssertion hnew hfree hbegins =>
    cases hbegins <;> exact .inl (Session.snapshot_epoch activity.session)

/-! ### Runs -/

omit [CredentialStore σ] in
/-- Whether an account manager was just set up. -/
def Opened (activity : Activity σ) : Prop :=
  ∃ config seeds clock store accounts, Accounts.new config seeds clock store = .ok accounts ∧
    activity = ⟨accounts, [], []⟩

omit [CredentialStore σ] in
/-- An account manager over a store as it is set up by default, with the same random bytes for every
key pair. -/
def blank (store : σ) : Activity σ :=
  ⟨⟨{}, fun _ => List.replicate 32 1, 0, newActivity {} store, {}⟩, [], []⟩

omit [CredentialStore σ] in
theorem blank_opened (store : σ) : (blank store).Opened :=
  ⟨{}, fun _ => List.replicate 32 1, 0, store, _, rfl, rfl⟩

omit [CredentialStore σ] in
theorem Opened.eq {start : Activity σ} (hopened : start.Opened) :
    ∃ config seeds clock store,
      start = ⟨⟨config, seeds, clock, newActivity config store, {}⟩, [], []⟩ := by
  obtain ⟨config, seeds, clock, store, accounts, hnew, rfl⟩ := hopened
  unfold Accounts.new at hnew
  split at hnew
  · cases hnew
  · cases hnew
    exact ⟨config, seeds, clock, store, rfl⟩

omit [CredentialStore σ] in
theorem Opened.lifetimes {start : Activity σ} (hopened : start.Opened) :
    0 < start.accounts.config.certificateLifetime ∧
      start.accounts.config.certificateLifetime < start.accounts.config.keyLifetime := by
  obtain ⟨config, seeds, clock, store, accounts, hnew, rfl⟩ := hopened
  unfold Accounts.new at hnew
  split at hnew
  · cases hnew
  · rename_i hvalidated
    cases hnew
    unfold Config.validate at hvalidated
    split at hvalidated
    · cases hvalidated
    · rename_i hpositive
      split at hvalidated
      · cases hvalidated
      · rename_i houtlives
        obtain ⟨hcertificate, -⟩ := not_or.1 hpositive
        exact ⟨UInt64.pos_iff_ne_zero.2 hcertificate, UInt64.not_le.1 houtlives⟩

omit [CredentialStore σ] in
theorem Opened.orderly {start : Activity σ} (hopened : start.Opened) : start.Orderly := by
  obtain ⟨config, seeds, clock, store, rfl⟩ := hopened.eq
  refine ⟨rfl, ?_, ?_, ?_, ?_⟩
  · exact fun other wait hwait => by cases hwait
  · exact fun other wait hwait => by cases hwait
  · exact fun request hrequest => by cases hrequest
  · exact fun other wait request hwait => by cases hwait

theorem orderly_of_run {start finish : Activity σ}
    {history : History σ} (hopened : start.Opened)
    (run : Run step? start history finish) : finish.Orderly :=
  run.invariant hopened.orderly orderly_step

theorem lookedBefore_of_run {start finish : Activity σ} {history : History σ}
    (hopened : start.Opened) (run : Run step? start history finish) :
    finish.LookedBefore (finish.session.epoch + 1) := by
  refine run.induction (P := fun _ activity => activity.LookedBefore (activity.session.epoch + 1))
    ?_ fun past made hpast hstep hbefore => ?_
  · obtain ⟨config, seeds, clock, store, rfl⟩ := hopened.eq
    exact ⟨fun id user unwrapBKey hwaiting => (by cases hwaiting),
      fun id wait hwait => (by cases hwait)⟩
  · have horderly := orderly_of_run hopened hpast
    refine (lookedBefore_step horderly hstep hbefore fun user hlooked => Nat.lt_succ_self _).mono ?_
    change _ ≤ made.step.state.session.epoch + 1
    have hepoch := epoch_of_step? horderly hstep
    omega

end Activity

end AccountManager.Accounts
