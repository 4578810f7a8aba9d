import AccountManager.Proofs.Accounts.Certificates
import AccountManager.Proofs.Assertion

/-!
# What a call for an assertion is about to do

The reported state and a call for an assertion look at the key and the certificate separately, at
the same time of the same clock. In every state that can be reached they agree: the report says
whether the call returns at once, waits with the key at hand, or makes a new key.
-/

namespace AccountManager.Accounts

open Storage

variable {σ : Type} [CredentialStore σ]

namespace Activity

variable {activity start : Activity σ} {history : History σ}
  {step : Step (Activity σ) Session.Reply} {id : CallId} {audience token : String}

/-- Whether a call has begun to wait, with a key and for a request. -/
structure Pauses (activity : Activity σ) (id : CallId) (audience : String)
    (step : Step (Activity σ) Session.Reply) (key : EphemeralKey) (requestId : Nat) : Prop where
  silent : returnedOf step.effects = []
  waits : step.state.wait? id = some ⟨activity.session.epoch, key, requestId, audience⟩

/-- What the report tells in advance of a call for an assertion, made with the token of the user:
with a certificate the call returns at once an assertion that carries this certificate and was
signed with its key; with a key alone it joins the request for this key, or makes one if there is
none; with neither it makes a key, which leaves no older certificate or request behind, and a
request for it. -/
inductive Foretold (activity : Activity σ) (id : CallId) (audience token : String)
    (step : Step (Activity σ) Session.Reply) : ProvisioningState → Prop
  | returns {key : EphemeralKey} {certificate : Certificate} {text : String}
      {assertion : Assertion}
      (hkey : activity.provisioner.key = some key)
      (hcertificate : activity.provisioner.certificate = some certificate)
      (hown : certificate.keyId = key.id)
      (hcurrent : activity.accounts.clock < key.validUntil ∧
        activity.accounts.clock < certificate.validUntil)
      (hreturned : returnedOf step.effects = [(id, .ok (.assertion text))])
      (hparsed : Assertion.parse text = .ok assertion)
      (hcarries : assertion.certificate = certificate.text)
      (hpayload : assertion.payload = ⟨audience, saturatingAdd activity.accounts.clock
        activity.accounts.config.assertionLifetime⟩)
      (hsigned : assertion.signature = key.pair.sign (Utf8.encode assertion.signedText))
      (hcalls : callsOf step.effects = [])
      (hsame : step.state.provisioner = activity.provisioner) :
      Foretold activity id audience token step .provisioned
  | joins {key : EphemeralKey} {request : InFlight} (hkey : activity.provisioner.key = some key)
      (hrequest : activity.provisioner.inFlight = some request) (hown : request.keyId = key.id)
      (hpauses : activity.Pauses id audience step key request.requestId)
      (hcalls : callsOf step.effects = [])
      (hsame : step.state.provisioner = activity.provisioner) :
      Foretold activity id audience token step .keyOnly
  | requests {key : EphemeralKey} {requestId : Nat} (hkey : activity.provisioner.key = some key)
      (hidle : activity.provisioner.inFlight = none)
      (hpauses : activity.Pauses id audience step key requestId)
      (hrequests : Requests ⟨activity, .beginAssertion id audience, step⟩ requestId token
        key.pair.publicKey)
      (hstate : step.state.provisioner = activity.provisioner.requesting key.id) :
      Foretold activity id audience token step .keyOnly
  | renews {key : EphemeralKey} {requestId : Nat}
      (hgenerates : Generates ⟨activity, .beginAssertion id audience, step⟩ key)
      (hends : key.validUntil =
        saturatingAdd activity.accounts.clock activity.accounts.config.keyLifetime)
      (hpauses : activity.Pauses id audience step key requestId)
      (hrequests : Requests ⟨activity, .beginAssertion id audience, step⟩ requestId token
        key.pair.publicKey)
      (hkey : step.state.provisioner.key = some key)
      (hcertificate : step.state.provisioner.certificate = none)
      (hinFlight : step.state.provisioner.inFlight = some ⟨key.id, requestId⟩)
      (hnew : key.id < requestId) :
      Foretold activity id audience token step .absent

omit [CredentialStore σ] in
theorem pauses_of_waits {key : EphemeralKey} {requestId : Nat} (hnew : activity.wait? id = none)
    (hsilent : returnedOf step.effects = [])
    (hwaits : step.state.waits =
      activity.waits ++ [(id, ⟨activity.session.epoch, key, requestId, audience⟩)]) :
    activity.Pauses id audience step key requestId := by
  refine ⟨hsilent, ?_⟩
  have hawait := wait?_await hnew ⟨activity.session.epoch, key, requestId, audience⟩ id
  rw [if_pos rfl] at hawait
  rw [← hawait, wait?, wait?, hwaits]
  rfl

theorem beginAssertion_of_asker (horderly : activity.Orderly) (hasks : activity.MayAsk token)
    (id : CallId) (audience : String) :
    ∃ planned, Provisioner.GetsCertificate activity.accounts.setting token
        (activity.provisioner.freshKey activity.accounts.setting) planned ∧
      activity.beginAssertion id audience = activity.looked.certified id activity.session.epoch
        audience activity.session.snapshot.effects planned := by
  obtain ⟨user, hlooked, hverified, htoken⟩ := hasks
  exact ⟨_, Provisioner.certify_getsCertificate horderly.settled activity.accounts.setting token,
    beginAssertion_of_user hlooked hverified htoken id audience⟩

/-- The report agrees with what a call does that begins now. -/
theorem foretold_of_asker (horderly : activity.Orderly) (hmatched : activity.provisioner.Matched)
    (hasks : activity.MayAsk token) (hnew : activity.wait? id = none) (audience : String) :
    activity.Foretold id audience token (activity.beginAssertion id audience)
      activity.accounts.state := by
  obtain ⟨-, hlooksCalls, hlooksReturned⟩ := activity.session.snapshot_onlyLogs
  have hgets := activity.provisioner.freshKey_getsKey activity.accounts.setting
  have hreports := activity.provisioner.reports_state activity.accounts.clock
  obtain ⟨planned, hplanned, hbegins⟩ := beginAssertion_of_asker horderly hasks id audience
  rw [hbegins]
  change activity.Foretold id audience token _
    (activity.provisioner.state activity.accounts.clock)
  generalize activity.provisioner.freshKey activity.accounts.setting = fresh at hgets hplanned
  generalize activity.provisioner.state activity.accounts.clock = state at hreports
  cases hreports with
  | absent hnone =>
    obtain ⟨effects, hlogs, rfl⟩ := hgets.eq_of_expired hnone
    cases hplanned with
    | ready hcertificate => cases hcertificate
    | joined _ hrequest => cases hrequest
    | requested =>
      refine .renews ⟨rfl, rfl, Nat.le_succ _⟩ rfl (pauses_of_waits hnew ?_ rfl) ⟨?_, rfl⟩ rfl
        rfl rfl (Nat.lt_succ_self _)
      · simp [certified, hlooksReturned, hlogs.2.2]
      · simp [certified, hlooksCalls, hlogs.2.1]
  | @keyOnly key hkey hnone =>
    obtain rfl := hgets.eq_of_valid hkey
    have hheld := (Provisioner.validKey?_eq_some_iff.1 hkey).1
    cases hplanned with
    | ready hcertificate hown hvalid =>
      have hfound := Provisioner.validCertificate?_eq_some_iff.2 ⟨hcertificate, hown, hvalid⟩
      cases hnone.symm.trans hfound
    | joined _ hrequest hown hlogs =>
      refine .joins hheld hrequest hown (pauses_of_waits hnew ?_ rfl) ?_ rfl
      · simp [certified, hlooksReturned, hlogs.2.2]
      · simp [certified, hlooksCalls, hlogs.2.1]
    | requested _ hidle =>
      refine .requests hheld (hmatched.inFlight_eq_none hheld hidle) (pauses_of_waits hnew ?_ rfl)
        ⟨?_, rfl⟩ rfl
      · simp [certified, hlooksReturned]
      · simp [certified, hlooksCalls]
  | @provisioned key certificate hkey hcertificate =>
    obtain rfl := hgets.eq_of_valid hkey
    obtain ⟨hheld, hlasts⟩ := Provisioner.validKey?_eq_some_iff.1 hkey
    cases hplanned with
    | @ready found hfound hown hvalid =>
      have hparsed := Assertion.parse_build found.text key.pair audience
        (saturatingAdd activity.accounts.clock activity.accounts.config.assertionLifetime)
      refine .returns hheld hfound hown ⟨hlasts, hvalid⟩ ?_ hparsed rfl rfl rfl ?_ rfl
      · simp [certified, returnAssertion, hlooksReturned]
        rfl
      · simp [certified, returnAssertion, hlooksCalls]
    | joined hnone => cases hnone.symm.trans hcertificate
    | requested hnone => cases hnone.symm.trans hcertificate

/-- In every state that can be reached the report tells what a call for an assertion does that
begins then, for a verified user with a token. For anybody else such a call fails at once and
nothing is done. -/
theorem state_foretells_assertion (hopened : start.Opened)
    (run : Run step? start history activity) (hfree : activity.isBusy id = false)
    (audience : String) :
    ∃ step, activity.step? (.beginAssertion id audience) = some step ∧
      (∀ token, activity.MayAsk token →
        activity.Foretold id audience token step activity.accounts.state) ∧
      ((∀ token, ¬ activity.MayAsk token) →
        callsOf step.effects = [] ∧ step.state.provisioner = activity.provisioner ∧
          ∃ error, returnedOf step.effects = [(id, .error error)]) := by
  have horderly := orderly_of_run hopened run
  have hmatched := matched_of_run hopened run
  refine ⟨activity.beginAssertion id audience, ?_, fun token hasks => ?_, fun hnobody => ?_⟩
  · simp [step?, hfree]
  · exact foretold_of_asker horderly hmatched hasks (isBusy_eq_false.1 hfree).1 audience
  · obtain ⟨error, -, hrefused⟩ := beginAssertion_of_nobody hnobody id audience
    obtain ⟨-, hcalls, hreturned⟩ := activity.session.snapshot_onlyLogs
    rw [hrefused]
    exact ⟨by simp [hcalls], rfl, error, by simp [hreturned]⟩

/-- A certificate that has expired is at hand again once the clock was turned back. -/
theorem assertion_foretold_after_turning_back :
    ∃ finish history,
      Run step? (blank memory) history finish ∧ finish.isBusy 2 = false ∧
        finish.MayAsk "token" ∧ finish.accounts.state = .provisioned ∧
        ∃ step, finish.step? (.beginAssertion 2 "https://example.net") = some step ∧
          finish.Foretold 2 "https://example.net" "token" step .provisioned := by
  obtain ⟨finish, run⟩ := run_played step? (blank memory) [
    .session (.signIn { sessionToken := some "token", isVerified := true }),
    .beginAssertion 0 "https://example.com",
    .answerCertificate 2 (.ok "first"),
    .resume 0,
    .setClock 21600000,
    .beginAssertion 1 "https://example.org",
    .setClock 100]
  have hreached : finish.isBusy 2 = false ∧ finish.MayAsk "token" ∧
      finish.accounts.state = .provisioned := by
    obtain ⟨-, -, -, -, -, -, -, -, -, -, -, -, -, -, rfl⟩ := run
    exact ⟨rfl,
      ⟨⟨{ sessionToken := some "token", isVerified := true }, 1⟩, rfl, rfl, rfl⟩, rfl⟩
  obtain ⟨hfree, hasks, hstate⟩ := hreached
  obtain ⟨step, hstep, hforetold, -⟩ :=
    state_foretells_assertion (blank_opened memory) run hfree "https://example.net"
  exact ⟨_, _, run, hfree, hasks, hstate, step, hstep, hstate ▸ hforetold "token" hasks⟩

end Activity

end AccountManager.Accounts
