import AccountManager.Proofs.Accounts.Certificates

/-!
# How the reported state passes

The state of the provisioner is not kept anywhere: it is worked out from the ends of the key and
of the certificate whenever somebody asks. Still it follows the diagram, whatever the calls and the
service do, as long as the clock is not turned back: each move leaves it alone or takes it along one
arrow, and each arrow has one cause. Signing in or out drops what is at hand within the same move.
-/

namespace AccountManager.Accounts

open Storage

variable {σ : Type} [CredentialStore σ]

/-- The arrows of the diagram, each with what a move must have done to go along it. -/
inductive Passes (made : Made (Activity σ) (Move σ) Session.Reply) :
    ProvisioningState → ProvisioningState → Prop
  | stays (state : ProvisioningState) : Passes made state state
  | generates {key : EphemeralKey} (hgenerates : Generates made key)
      (hheld : made.after.provisioner.key = some key) : Passes made .absent .keyOnly
  | installs {id : CallId} {wait : CertificateWait} {certificate : Certificate}
      (hinstalling : made.before.Installing made.move id wait certificate)
      (hheld : made.after.provisioner.certificate = some certificate) :
      Passes made .keyOnly .provisioned
  | certificateExpires {now : UInt64} {certificate : Certificate}
      (hmove : made.move = .setClock now)
      (hheld : made.before.provisioner.certificate = some certificate)
      (hvalid : made.before.accounts.clock < certificate.validUntil)
      (hends : certificate.validUntil ≤ now) : Passes made .provisioned .keyOnly
  | keyExpires {now : UInt64} {key : EphemeralKey} (state : ProvisioningState)
      (hmove : made.move = .setClock now) (hheld : made.before.provisioner.key = some key)
      (hvalid : made.before.accounts.clock < key.validUntil) (hends : key.validUntil ≤ now) :
      Passes made state .absent
  | epochBegins {move : Session.Move σ} (state : ProvisioningState)
      (hmove : made.move = .session move)
      (hbegins : Session.Activity.BeginsEpoch move made.step.result) : Passes made state .absent

namespace Activity

variable {activity start finish : Activity σ} {move : Move σ} {history : History σ}
  {step : Step (Activity σ) Session.Reply} {id : CallId}
  {made : Made (Activity σ) (Move σ) Session.Reply}

/-! ### One move -/

omit [CredentialStore σ] in
theorem passes_of_same (hkey : made.after.provisioner.key = made.before.provisioner.key)
    (hcertificate : made.after.provisioner.certificate = made.before.provisioner.certificate)
    (hclock : made.after.accounts.clock = made.before.accounts.clock) :
    Passes made made.before.accounts.state made.after.accounts.state := by
  have hsame : made.after.accounts.state = made.before.accounts.state := by
    change made.after.provisioner.state made.after.accounts.clock = _
    rw [hclock]
    exact Provisioner.state_congr hkey hcertificate
  rw [hsame]
  exact .stays _

omit [CredentialStore σ] in
theorem passes_of_getsKey {fresh : Step Provisioner EphemeralKey}
    (hgets : made.before.provisioner.GetsKey made.before.accounts.setting fresh)
    (hkey : made.after.provisioner.key = fresh.state.key)
    (hcertificate : made.after.provisioner.certificate = fresh.state.certificate)
    (hgenerated : made.after.provisioner.generated = fresh.state.generated)
    (hlastId : fresh.state.lastId ≤ made.after.provisioner.lastId)
    (hclock : made.after.accounts.clock = made.before.accounts.clock) :
    Passes made made.before.accounts.state made.after.accounts.state := by
  cases hgets with
  | kept => exact passes_of_same hkey hcertificate hclock
  | made hexpired =>
    have habsent : made.before.accounts.state = .absent := Provisioner.state_of_no_key hexpired
    have hlater : made.after.accounts.state = .absent ∨ made.after.accounts.state = .keyOnly :=
      Provisioner.state_of_no_certificate hcertificate
    rw [habsent]
    rcases hlater with hlater | hlater
    · rw [hlater]
      exact .stays _
    · rw [hlater]
      exact .generates ⟨rfl, hgenerated, hlastId⟩ hkey

theorem passes_of_beginsAssertion {audience : String}
    (hbegins : activity.BeginsAssertion id audience step) :
    Passes ⟨activity, .beginAssertion id audience, step⟩ activity.accounts.state
      step.state.accounts.state := by
  cases hbegins with
  | refused => exact .stays _
  | ready hlooked hgets | joined hlooked hgets =>
    exact passes_of_getsKey hgets rfl rfl rfl (Nat.le_refl _) rfl
  | requested hlooked htoken hgets =>
    exact passes_of_getsKey hgets rfl rfl rfl (Nat.le_succ _) rfl

omit [CredentialStore σ] in
/-- A call that installs a certificate has it reported, unless the key has expired. -/
theorem passes_of_installing {wait : CertificateWait} {certificate : Certificate}
    (hinstalling : made.before.Installing made.move id wait certificate)
    (hkey : made.after.provisioner.key = made.before.provisioner.key)
    (hheld : made.after.provisioner.certificate = some certificate)
    (hclock : made.after.accounts.clock = made.before.accounts.clock)
    (hpositive : 0 < made.before.accounts.config.certificateLifetime) :
    Passes made made.before.accounts.state made.after.accounts.state := by
  have hown := hinstalling.current
  rw [← hinstalling.keyId] at hown
  have hlasts (key : EphemeralKey)
      (hvalid : made.before.provisioner.validKey? made.before.accounts.clock = some key) :
      made.before.accounts.clock < certificate.validUntil := by
    rw [hinstalling.validUntil]
    exact lt_saturatingAdd_of_lt (Provisioner.validKey?_eq_some_iff.1 hvalid).2 hpositive
  have hstates : made.before.accounts.state = .absent ∧ made.after.accounts.state = .absent ∨
      made.before.accounts.state ≠ .absent ∧ made.after.accounts.state = .provisioned := by
    change _ ∧ made.after.provisioner.state made.after.accounts.clock = _ ∨
      _ ∧ made.after.provisioner.state made.after.accounts.clock = _
    rw [hclock]
    exact Provisioner.state_of_installed hkey hheld hown hlasts
  rcases hstates with ⟨hbefore, hafter⟩ | ⟨hbefore, hafter⟩
  · rw [hbefore, hafter]
    exact .stays _
  · rw [hafter]
    cases hstate : made.before.accounts.state with
    | absent => exact absurd hstate hbefore
    | keyOnly => exact .installs hinstalling hheld
    | provisioned => exact .stays _

omit [CredentialStore σ] in
theorem passes_of_resumes {wait : CertificateWait} {answer : Except RemoteError String}
    (hwait : activity.wait? id = some wait)
    (hanswer : (activity.signing? wait.requestId).bind Signing.answer = some answer)
    (hpositive : 0 < activity.accounts.config.certificateLifetime)
    (hresumes : activity.Resumes id wait answer step) :
    Passes ⟨activity, .resume id, step⟩ activity.accounts.state step.state.accounts.state := by
  cases hresumes with
  | stale => exact .stays _
  | finished hepoch hfinishes =>
    cases hfinishes with
    | refused | kept =>
      exact passes_of_same (Provisioner.key_withoutRequest _ _)
        (Provisioner.certificate_withoutRequest _ _) rfl
    | installed hnew hcurrent =>
      exact passes_of_installing ⟨rfl, hwait, hanswer, hepoch, hcurrent, hnew, rfl, rfl, rfl⟩
        (Provisioner.key_withoutRequest _ _) rfl rfl hpositive

omit [CredentialStore σ] in
theorem passes_of_ages {now : UInt64} {state later : ProvisioningState}
    (hmove : made.move = .setClock now)
    (hages : made.before.provisioner.Ages made.before.accounts.clock now state later) :
    Passes made state later := by
  cases hages with
  | stays => exact .stays _
  | keyEnds _ hkey hvalid hends => exact .keyExpires _ hmove hkey hvalid hends
  | certificateEnds hcertificate hvalid hends =>
    exact .certificateExpires hmove hcertificate hvalid hends

/-- A move that does not turn the clock back goes along an arrow, or it stays where it is. -/
theorem passes_of_step? (horderly : activity.Orderly)
    (hpositive : 0 < activity.accounts.config.certificateLifetime)
    (hstep : activity.step? move = some step)
    (hforward : activity.accounts.clock ≤ step.state.accounts.clock) :
    Passes ⟨activity, move, step⟩ activity.accounts.state step.state.accounts.state := by
  cases allows_of_step? horderly.settled hstep with
  | session | answerCertificate | drop => exact .stays _
  | newEpoch hinner hbegins => exact .epochBegins _ rfl hbegins
  | setClock now => exact passes_of_ages rfl (activity.provisioner.state_ages hforward)
  | beginAssertion hnew hfree hbegins => exact passes_of_beginsAssertion hbegins
  | resume hwait hanswer =>
    exact passes_of_resumes hwait hanswer hpositive (resume_resumes horderly hwait _)

/-! ### Runs -/

/-- Each move of a run that does not turn the clock back goes along an arrow of the diagram, or it
leaves the state alone; none leads from absent to provisioned at once. -/
theorem state_follows_diagram (hopened : start.Opened) (run : Run step? start history finish)
    (hmade : made ∈ history) (hforward : Forward made) :
    Passes made made.before.accounts.state made.after.accounts.state ∧
      ¬ (made.before.accounts.state = .absent ∧ made.after.accounts.state = .provisioned) := by
  obtain ⟨earlier, hearlier, hstep⟩ := run.reached hmade
  have hpositive := hopened.lifetimes.1
  rw [← (setup_of_run hopened hearlier).1] at hpositive
  have hpasses := passes_of_step? (orderly_of_run hopened hearlier) hpositive hstep hforward
  refine ⟨hpasses, fun ⟨hbefore, hafter⟩ => ?_⟩
  change Passes made made.before.accounts.state made.after.accounts.state at hpasses
  rw [hbefore, hafter] at hpasses
  cases hpasses

/-- A user signs in and gets a certificate, which expires before its key does. -/
theorem states_of_one_key :
    ∃ finish history,
      Run step? (blank memory) history finish ∧ (∀ made ∈ history, Forward made) ∧
        history.map (fun made => made.after.accounts.state) =
          [.absent, .keyOnly, .keyOnly, .provisioned, .keyOnly, .absent] ∧
        ∀ made ∈ history, Passes made made.before.accounts.state made.after.accounts.state := by
  obtain ⟨finish, run⟩ := run_played step? (blank memory) [
    .session (.signIn { sessionToken := some "token", isVerified := true }),
    .beginAssertion 0 "https://example.com",
    .answerCertificate 2 (.ok "certificate"),
    .resume 0,
    .setClock 21600000,
    .setClock 43200000]
  refine (fun hforward => ⟨_, _, run, hforward, rfl, fun made hmade => ?_⟩) (by decide)
  exact (state_follows_diagram (blank_opened memory) run hmade (hforward made hmade)).1

end Activity

end AccountManager.Accounts
