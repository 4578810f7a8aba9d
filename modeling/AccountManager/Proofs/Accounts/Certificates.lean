import AccountManager.Proofs.Accounts.Provenance
import AccountManager.Proofs.Accounts.Waiting
import AccountManager.Proofs.Provisioning.State

/-!
# The key, the certificate and the request at hand

Where each of the three comes from, one move back: a key is kept or new, a request is kept or new,
and a certificate is kept or installed by a call that takes the answer it waited for. From this
follows what the three have to do with each other and with the calls that wait.
-/

namespace AccountManager.Accounts

open Storage

variable {σ : Type} [CredentialStore σ]

/-- Whether a move starts a request for a certificate for a key. -/
structure Starts (made : Made (Activity σ) (Move σ) Session.Reply) (key : EphemeralKey)
    (requestId : Nat) : Prop where
  call : ∃ token, callsOf made.step.effects = [.signCertificate token key.pair.publicKey]
  held : made.after.provisioner.key = some key
  inFlight : made.after.provisioner.inFlight = some ⟨key.id, requestId⟩

namespace Activity

variable {activity start finish : Activity σ} {move : Move σ} {history : History σ}
  {step : Step (Activity σ) Session.Reply} {id : CallId} {key : EphemeralKey}
  {certificate : Certificate} {request : InFlight}

/-! ### One move back -/

theorem key_of_step? (horderly : activity.Orderly) (hstep : activity.step? move = some step)
    (hkey : step.state.provisioner.key = some key) :
    activity.provisioner.key = some key ∨
      activity.provisioner.lastId < key.id ∧ key.id ≤ step.state.provisioner.lastId := by
  have hfresh {fresh : Step Provisioner EphemeralKey}
      (hgets : activity.provisioner.GetsKey activity.accounts.setting fresh)
      (hlastId : fresh.state.lastId ≤ step.state.provisioner.lastId)
      (hkey : fresh.state.key = some key) :
      activity.provisioner.key = some key ∨
        activity.provisioner.lastId < key.id ∧ key.id ≤ step.state.provisioner.lastId := by
    obtain rfl := Option.some.inj (hgets.key.symm.trans hkey)
    rcases hgets.kept_or_new with ⟨hkept, -⟩ | ⟨hnew, hnumbered⟩
    · exact .inl hkept
    · exact .inr ⟨hnew, Nat.le_trans hnumbered hlastId⟩
  cases allows_of_step? horderly.settled hstep with
  | session | setClock | answerCertificate | drop => exact .inl hkey
  | newEpoch => cases hkey
  | beginAssertion hnew hfree hbegins =>
    cases hbegins with
    | refused => exact .inl hkey
    | ready hlooked hgets => exact hfresh hgets (Nat.le_refl _) hkey
    | joined hlooked hgets => exact hfresh hgets (Nat.le_refl _) hkey
    | requested hlooked htoken hgets => exact hfresh hgets (Nat.le_succ _) hkey
  | @resume id wait answer hwait hanswer =>
    obtain ⟨certificate, hfinished⟩ := activity.provisioner.finish_state activity.accounts.setting
      activity.session.epoch wait.generation wait.key wait.requestId answer
    change (activity.provisioner.finish activity.accounts.setting activity.session.epoch
      wait.generation wait.key wait.requestId answer).state.key = some key at hkey
    rw [hfinished] at hkey
    exact .inl ((Provisioner.key_withoutRequest _ _).symm.trans hkey)

/-- The request at hand was at hand before and is not the one that was answered to the call of this
move, or it has a new number. -/
theorem inFlight_of_step? (horderly : activity.Orderly) (hstep : activity.step? move = some step)
    (hrequest : step.state.provisioner.inFlight = some request) :
    (activity.provisioner.inFlight = some request ∧
        ∀ id wait, move = .resume id → activity.wait? id = some wait →
          request.requestId ≠ wait.requestId) ∨
      activity.provisioner.lastId < request.requestId ∧
        ∃ key, Starts ⟨activity, move, step⟩ key request.requestId ∧ key.id = request.keyId := by
  cases allows_of_step? horderly.settled hstep with
  | session | setClock | answerCertificate | drop =>
    exact .inl ⟨hrequest, fun id wait hmove => by cases hmove⟩
  | newEpoch => cases hrequest
  | beginAssertion hnew hfree hbegins =>
    cases hbegins with
    | refused => exact .inl ⟨hrequest, fun id wait hmove => by cases hmove⟩
    | ready hlooked hgets =>
      exact .inl ⟨hgets.inFlight hrequest, fun id wait hmove => by cases hmove⟩
    | joined hlooked hgets =>
      exact .inl ⟨hgets.inFlight hrequest, fun id wait hmove => by cases hmove⟩
    | @requested user token fresh effects hlooked htoken hgets hlogs =>
      obtain rfl := Option.some.inj hrequest
      have hcalls : callsOf (effects ++ [.call (.signCertificate token
          fresh.result.pair.publicKey)]) =
            [.signCertificate token fresh.result.pair.publicKey] := by
        simp [hlogs.2.1]
      exact .inr ⟨Nat.lt_succ_of_le hgets.lastId_le, fresh.result,
        ⟨⟨token, hcalls⟩, hgets.key, rfl⟩, rfl⟩
  | @resume id wait answer hwait hanswer =>
    obtain ⟨certificate, hfinished⟩ := activity.provisioner.finish_state activity.accounts.setting
      activity.session.epoch wait.generation wait.key wait.requestId answer
    change (activity.provisioner.finish activity.accounts.setting activity.session.epoch
      wait.generation wait.key wait.requestId answer).state.inFlight = some request at hrequest
    rw [hfinished] at hrequest
    refine .inl ⟨Provisioner.inFlight_of_withoutRequest hrequest,
      fun other found hmove hfound => ?_⟩
    obtain rfl : id = other := Move.resume.inj hmove
    obtain rfl := Option.some.inj (hwait.symm.trans hfound)
    exact Provisioner.requestId_ne_of_withoutRequest hrequest

/-- The time up to which a certificate may be used that is installed now. -/
def renewal (activity : Activity σ) : UInt64 :=
  saturatingAdd activity.accounts.clock activity.accounts.config.certificateLifetime

/-- Whether a call installs a certificate with a move: the call takes the answer to its request, and
the key it waited with is at hand. -/
structure Installing (activity : Activity σ) (move : Move σ) (id : CallId) (wait : CertificateWait)
    (certificate : Certificate) : Prop where
  resumed : move = .resume id
  waited : activity.wait? id = some wait
  answer : (activity.signing? wait.requestId).bind Signing.answer = some (.ok certificate.text)
  epoch : activity.session.epoch = wait.generation
  current : activity.provisioner.key.map EphemeralKey.id = some wait.key.id
  new : activity.provisioner.certificate.map Certificate.requestId ≠ some wait.requestId
  keyId : certificate.keyId = wait.key.id
  requestId : certificate.requestId = wait.requestId
  validUntil : certificate.validUntil = activity.renewal

/-- The certificate at hand was at hand before, or a call installs it. -/
theorem certificate_of_step? (horderly : activity.Orderly)
    (hstep : activity.step? move = some step)
    (hcertificate : step.state.provisioner.certificate = some certificate) :
    activity.provisioner.certificate = some certificate ∨
      ∃ id wait, activity.Installing move id wait certificate := by
  cases allows_of_step? horderly.settled hstep with
  | session | setClock | answerCertificate | drop => exact .inl hcertificate
  | newEpoch => cases hcertificate
  | beginAssertion hnew hfree hbegins =>
    cases hbegins with
    | refused => exact .inl hcertificate
    | ready hlooked hgets => exact .inl (hgets.certificate hcertificate)
    | joined hlooked hgets => exact .inl (hgets.certificate hcertificate)
    | requested hlooked htoken hgets => exact .inl (hgets.certificate hcertificate)
  | @resume id wait answer hwait hanswer =>
    have hresumes := resume_resumes horderly hwait answer
    generalize activity.resume id wait answer = step at hresumes hcertificate
    cases hresumes with
    | stale => exact .inl hcertificate
    | finished hepoch hfinishes =>
      cases hfinishes with
      | refused | kept =>
        exact .inl ((Provisioner.certificate_withoutRequest _ _).symm.trans hcertificate)
      | installed hnew hcurrent =>
        obtain rfl := Option.some.inj hcertificate
        exact .inr ⟨id, wait, rfl, hwait, hanswer, hepoch, hcurrent, hnew, rfl, rfl, rfl⟩

/-! ### What is at hand together -/

/-- Keys and requests get their numbers in turn, the request of a certificate is settled, and the
calls that wait for the request at hand wait with its key. -/
structure Coherent (activity : Activity σ) : Prop where
  keyed : ∀ key, activity.provisioner.key = some key → key.id ≤ activity.provisioner.lastId
  certified : ∀ certificate, activity.provisioner.certificate = some certificate →
    certificate.requestId ≤ activity.provisioner.lastId
  settled : ∀ certificate request, activity.provisioner.certificate = some certificate →
    activity.provisioner.inFlight = some request → certificate.requestId ≠ request.requestId
  joined : ∀ id wait request, activity.wait? id = some wait →
    activity.provisioner.inFlight = some request → request.requestId = wait.requestId →
      request.keyId = wait.key.id

theorem coherent_step (horderly : activity.Orderly) (hstep : activity.step? move = some step)
    (h : activity.Coherent) : step.state.Coherent := by
  have hlastId := (advances_of_step? horderly hstep).lastId
  refine ⟨fun key hkey => ?_, fun certificate hcertificate => ?_,
    fun certificate request hcertificate hrequest => ?_,
    fun id wait request hwait hrequest heq => ?_⟩
  · rcases key_of_step? horderly hstep hkey with hbefore | ⟨-, hnumbered⟩
    · exact Nat.le_trans (h.keyed key hbefore) hlastId
    · exact hnumbered
  · rcases certificate_of_step? horderly hstep hcertificate with hbefore | ⟨id, wait, hinstalling⟩
    · exact Nat.le_trans (h.certified certificate hbefore) hlastId
    · rw [hinstalling.requestId]
      exact Nat.le_trans (horderly.numbered id wait hinstalling.waited) hlastId
  · have hcase := certificate_of_step? horderly hstep hcertificate
    rcases inFlight_of_step? horderly hstep hrequest with ⟨hbefore, hother⟩ | ⟨hnew, -⟩
    · rcases hcase with hheld | ⟨id, wait, hinstalling⟩
      · exact h.settled certificate request hheld hbefore
      · rw [hinstalling.requestId]
        exact (hother id wait hinstalling.resumed hinstalling.waited).symm
    · have hnumbered : certificate.requestId ≤ activity.provisioner.lastId := by
        rcases hcase with hheld | ⟨id, wait, hinstalling⟩
        · exact h.certified certificate hheld
        · rw [hinstalling.requestId]
          exact horderly.numbered id wait hinstalling.waited
      exact Nat.ne_of_lt (Nat.lt_of_le_of_lt hnumbered hnew)
  · rcases waited_of_step? horderly hstep hwait with hbefore | hbegins
    · rcases inFlight_of_step? horderly hstep hrequest with ⟨hheld, -⟩ | ⟨hnew, -⟩
      · exact h.joined id wait request hbefore hheld heq
      · rw [heq] at hnew
        exact absurd (horderly.numbered id wait hbefore) (Nat.not_le.2 hnew)
    · obtain rfl := Option.some.inj (hbegins.inFlight.symm.trans hrequest)
      rfl

theorem coherent_of_run (hopened : start.Opened) (run : Run step? start history finish) :
    finish.Coherent := by
  refine run.induction (P := fun _ activity => activity.Coherent) ?_
    fun past made hpast hstep hbefore => coherent_step (orderly_of_run hopened hpast) hstep hbefore
  obtain ⟨config, seeds, clock, store, rfl⟩ := hopened.eq
  refine ⟨fun key hkey => ?_, fun certificate hcertificate => ?_,
    fun certificate request hcertificate => ?_, fun id wait request hwait => ?_⟩
  · cases hkey
  · cases hcertificate
  · cases hcertificate
  · cases hwait

/-- The certificate and the request at hand stay those of the key at hand. -/
theorem matched_step (horderly : activity.Orderly) (hstep : activity.step? move = some step)
    (h : activity.provisioner.Matched) : step.state.provisioner.Matched := by
  cases allows_of_step? horderly.settled hstep with
  | session | setClock | answerCertificate | drop => exact h
  | newEpoch => exact Provisioner.matched_of_none rfl rfl
  | beginAssertion hnew hfree hbegins =>
    cases hbegins with
    | refused => exact h
    | ready hlooked hgets => exact hgets.matched h
    | joined hlooked hgets => exact hgets.matched h
    | requested hlooked htoken hgets => exact (hgets.matched h).requesting hgets.key
  | @resume id wait answer hwait hanswer =>
    have hresumes := resume_resumes horderly hwait answer
    generalize activity.resume id wait answer = step at hresumes
    cases hresumes with
    | stale => exact h
    | finished hepoch hfinishes => exact hfinishes.matched h

theorem matched_of_run (hopened : start.Opened) (run : Run step? start history finish) :
    finish.provisioner.Matched := by
  refine run.induction (P := fun _ activity => activity.provisioner.Matched) ?_
    fun past made hpast hstep hbefore => matched_step (orderly_of_run hopened hpast) hstep hbefore
  obtain ⟨config, seeds, clock, store, rfl⟩ := hopened.eq
  exact Provisioner.matched_of_none rfl rfl

theorem lastId_le_of_run {past later : History σ}
    {made : Made (Activity σ) (Move σ) Session.Reply} (hopened : start.Opened)
    (run : Run step? start (past ++ made :: later) finish) :
    made.after.provisioner.lastId ≤ finish.provisioner.lastId := by
  refine run.cut.2.2.le (fun activity => activity.provisioner.lastId) fun other hother => ?_
  exact (advances_of_mem hopened run (by simp [hother])).2.lastId

theorem lastId_before_le_of_run {past later : History σ}
    {made : Made (Activity σ) (Move σ) Session.Reply} (hopened : start.Opened)
    (run : Run step? start (past ++ made :: later) finish) :
    made.before.provisioner.lastId ≤ finish.provisioner.lastId := by
  obtain ⟨hpast, hstep, -⟩ := run.cut
  exact Nat.le_trans (advances_of_step? (orderly_of_run hopened hpast) hstep).lastId
    (lastId_le_of_run hopened run)

theorem numbered_of_starts {past later : History σ}
    {first : Made (Activity σ) (Move σ) Session.Reply} {requestId : Nat} (hopened : start.Opened)
    (run : Run step? start (past ++ first :: later) finish) (hstarts : Starts first key requestId) :
    key.id ≤ finish.provisioner.lastId := by
  obtain ⟨hpast, hstep, -⟩ := run.cut
  have hreached : Run step? start (past ++ [first]) first.after :=
    run_concat.2 ⟨hpast, hstep, rfl⟩
  exact Nat.le_trans ((coherent_of_run hopened hreached).keyed key hstarts.held)
    (lastId_le_of_run hopened run)

theorem key_of_numbered (horderly : activity.Orderly) (hstep : activity.step? move = some step)
    (hkey : step.state.provisioner.key = some key)
    (hnumbered : key.id ≤ activity.provisioner.lastId) : activity.provisioner.key = some key := by
  rcases key_of_step? horderly hstep hkey with hbefore | ⟨hnew, -⟩
  · exact hbefore
  · exact absurd hnumbered (Nat.not_le.2 hnew)

/-! ### How long certificates last -/

theorem renewal_le (horderly : activity.Orderly) (hstep : activity.step? move = some step)
    (hforward : activity.accounts.clock ≤ step.state.accounts.clock) :
    activity.renewal ≤ step.state.renewal := by
  unfold renewal
  rw [(advances_of_step? horderly hstep).config]
  exact saturatingAdd_mono hforward _

/-- A certificate at hand may be used for no longer than one that is installed now. -/
theorem validUntil_le_renewal (hopened : start.Opened) (run : Run step? start history finish)
    (hforward : ∀ made ∈ history, Forward made)
    (hcertificate : finish.provisioner.certificate = some certificate) :
    certificate.validUntil ≤ finish.renewal := by
  induction history using List.reverseRecOn generalizing finish with
  | nil =>
    obtain rfl : start = finish := run
    obtain ⟨config, seeds, clock, store, rfl⟩ := hopened.eq
    cases hcertificate
  | append_singleton past made ih =>
    obtain ⟨hpast, hstep, rfl⟩ := run_concat.1 run
    have horderly := orderly_of_run hopened hpast
    have hlater := renewal_le horderly hstep (hforward made (by simp))
    rcases certificate_of_step? horderly hstep hcertificate with hbefore | ⟨id, wait, hinstalling⟩
    · refine UInt64.le_trans (ih hpast (fun other hother => ?_) hbefore) hlater
      exact hforward other (List.mem_append_left _ hother)
    · rw [hinstalling.validUntil]
      exact hlater

end Activity

end AccountManager.Accounts
