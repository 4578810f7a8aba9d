import AccountManager.Proofs.Accounts.Provenance
import AccountManager.Proofs.Assertion

/-!
# What an assertion is bound to

The key, the request and the certificate of an assertion travel separately: through the provisioner,
through the calls that wait, and through the answers of the service. In every state of a run each of
them can be traced back to moves of one epoch, and a call that succeeds joins only what belongs to
its own.
-/

namespace AccountManager.Accounts

open Storage

variable {σ : Type} [CredentialStore σ] [LawfulStore σ]

/-- Whether a text is a certificate for a key that was asked for in an epoch. -/
def CertifiedIn (start : Activity σ) (history : History σ) (epoch : Nat) (key : PublicKey)
    (text : String) : Prop :=
  ∃ requestId, RequestedIn start history epoch requestId key ∧ Answered history requestId text

/-- Whether what the provisioner holds comes from moves of an epoch. -/
structure Holds (start : Activity σ) (history : History σ) (epoch : Nat)
    (provisioner : Provisioner) : Prop where
  key : ∀ key, provisioner.key = some key → GeneratedIn history epoch key
  inFlight : ∀ key request, provisioner.key = some key → provisioner.inFlight = some request →
    request.keyId = key.id →
      RequestedIn start history epoch request.requestId key.pair.publicKey
  certificate : ∀ key certificate, provisioner.key = some key →
    provisioner.certificate = some certificate → certificate.keyId = key.id →
      CertifiedIn start history epoch key.pair.publicKey certificate.text

/-- Whether what a call remembers comes from moves of the epoch that it goes on with. -/
structure Remembers (start : Activity σ) (history : History σ) (id : CallId)
    (wait : CertificateWait) : Prop where
  key : GeneratedIn history wait.generation wait.key
  request : RequestedIn start history wait.generation wait.requestId wait.key.pair.publicKey
  audience : Asked history id wait.audience

/-- Whether everything that goes into an assertion can be traced back. -/
structure Activity.Traced (activity start : Activity σ) (history : History σ) : Prop where
  held : Holds start history activity.session.epoch activity.provisioner
  waits : ∀ id wait, activity.wait? id = some wait → Remembers start history id wait
  signings : ∀ signing ∈ activity.signings, ∀ text, signing.answer = some (.ok text) →
    Answered history signing.requestId text

variable {start finish activity : Activity σ} {history longer : History σ} {epoch : Nat}
  {provisioner : Provisioner} {key : EphemeralKey} {id : CallId}
  {made : Made (Activity σ) (Move σ) Session.Reply}

/-! ### What is held -/

theorem CertifiedIn.mono {key : PublicKey} {text : String}
    (h : CertifiedIn start history epoch key text) (hlonger : ∀ made ∈ history, made ∈ longer) :
    CertifiedIn start longer epoch key text := by
  obtain ⟨requestId, hrequested, hanswered⟩ := h
  exact ⟨requestId, hrequested.mono hlonger, hanswered.mono hlonger⟩

namespace Holds

theorem mono (h : Holds start history epoch provisioner)
    (hlonger : ∀ made ∈ history, made ∈ longer) : Holds start longer epoch provisioner where
  key key hkey := (h.key key hkey).mono hlonger
  inFlight key request hkey hrequest hid := (h.inFlight key request hkey hrequest hid).mono hlonger
  certificate key certificate hkey hcertificate hid :=
    (h.certificate key certificate hkey hcertificate hid).mono hlonger

theorem fresh {fresh : Step Provisioner EphemeralKey} {setting : Provisioner.Setting}
    (h : Holds start history epoch provisioner) (hgets : provisioner.GetsKey setting fresh)
    (hnew : fresh.state.generated = provisioner.generated + 1 →
      provisioner.lastId + 1 ≤ fresh.state.lastId →
        GeneratedIn history epoch (provisioner.newKey setting)) :
    Holds start history epoch fresh.state := by
  cases hgets with
  | kept hkey hvalid => exact h
  | made hexpired hlogs =>
    refine ⟨fun key hkey => ?_, fun key request hkey hrequest => ?_,
      fun key certificate hkey hcertificate => ?_⟩
    · obtain rfl := Option.some.inj hkey
      exact hnew rfl (Nat.le_refl _)
    · cases hrequest
    · cases hcertificate

theorem requesting (h : Holds start history epoch provisioner) (hkey : provisioner.key = some key)
    (hrequested : RequestedIn start history epoch (provisioner.lastId + 1) key.pair.publicKey) :
    Holds start history epoch (provisioner.requesting key.id) where
  key := h.key
  inFlight other request hother hrequest hid := by
    obtain rfl := Option.some.inj (hkey.symm.trans hother)
    obtain rfl := Option.some.inj hrequest
    exact hrequested
  certificate := h.certificate

theorem withoutRequest (h : Holds start history epoch provisioner) (requestId : Nat) :
    Holds start history epoch (provisioner.withoutRequest requestId) where
  key key hkey := h.key key (by rwa [Provisioner.key_withoutRequest] at hkey)
  inFlight key request hkey hrequest :=
    h.inFlight key request (by rwa [Provisioner.key_withoutRequest] at hkey)
      (Provisioner.inFlight_of_withoutRequest hrequest)
  certificate key certificate hkey hcertificate :=
    h.certificate key certificate (by rwa [Provisioner.key_withoutRequest] at hkey)
      (by rwa [Provisioner.certificate_withoutRequest] at hcertificate)

theorem installed (h : Holds start history epoch provisioner) {certificate : Certificate}
    (hkey : provisioner.key = some key)
    (hcertified : CertifiedIn start history epoch key.pair.publicKey certificate.text) :
    Holds start history epoch { provisioner with certificate := some certificate } where
  key := h.key
  inFlight := h.inFlight
  certificate other held hother hheld hotherId := by
    obtain rfl := Option.some.inj (hkey.symm.trans hother)
    obtain rfl := Option.some.inj hheld
    exact hcertified

theorem reset (start : Activity σ) (history : History σ) (epoch : Nat)
    (provisioner : Provisioner) (generation : Nat) :
    Holds start history epoch (provisioner.reset generation) where
  key key hkey := by cases hkey
  inFlight key request hkey := by cases hkey
  certificate key certificate hkey := by cases hkey

end Holds

/-! ### What is remembered -/

theorem Remembers.concat {wait : CertificateWait} (h : Remembers start history id wait)
    (hmade : ¬ made.move.Begins id) : Remembers start (history ++ [made]) id wait where
  key := h.key.mono fun _ hother => List.mem_append_left _ hother
  request := h.request.mono fun _ hother => List.mem_append_left _ hother
  audience := h.audience.concat hmade

namespace Activity

variable {move : Move σ} {step : Step (Activity σ) Session.Reply} {past : History σ}

theorem answered_of_signing? {requestId : Nat} {text : String}
    (h : activity.Traced start history)
    (hanswer : (activity.signing? requestId).bind Signing.answer = some (.ok text)) :
    Answered history requestId text := by
  obtain ⟨signing, hsigning, hanswer⟩ := Option.bind_eq_some_iff.1 hanswer
  have hid : signing.requestId = requestId := by simpa using List.find?_some hsigning
  rw [← hid]
  exact h.signings signing (List.mem_of_find?_eq_some hsigning) text hanswer

theorem Traced.forget (h : activity.Traced start history) (id : CallId) :
    (activity.forget id).Traced start history where
  held := h.held
  waits other wait hwait := h.waits other wait (wait?_of_forget hwait)
  signings := h.signings

theorem Traced.beginAssertion {audience : String} (h : activity.Traced start history)
    (hmade : ⟨activity, move, step⟩ ∈ history) (hasked : Asked history id audience)
    (hbelongs : activity.accounts.activity.Belongs (UserOf start history))
    (hnew : activity.wait? id = none) (hbegins : activity.BeginsAssertion id audience step) :
    step.state.Traced start history := by
  have hepoch : activity.looked.session.epoch = activity.session.epoch :=
    Session.snapshot_epoch activity.session
  have hfresh {fresh : Step Provisioner EphemeralKey}
      (hgets : activity.provisioner.GetsKey activity.accounts.setting fresh)
      (hgenerated : step.state.provisioner.generated = fresh.state.generated)
      (hlastId : fresh.state.lastId ≤ step.state.provisioner.lastId) :
      Holds start history activity.session.epoch fresh.state :=
    h.held.fresh hgets fun hdrawn hnumbered => ⟨_, hmade, rfl, rfl, hgenerated.trans hdrawn,
      Nat.le_trans hnumbered hlastId⟩
  cases hbegins with
  | refused error => exact ⟨hepoch ▸ h.held, (h.forget id).waits, h.signings⟩
  | ready hlooked hgets =>
    exact ⟨hepoch ▸ hfresh hgets rfl (Nat.le_refl _), (h.forget id).waits, h.signings⟩
  | joined hlooked hgets hrequest hkey =>
    have hheld := hfresh hgets rfl (Nat.le_refl _)
    refine ⟨hepoch ▸ hheld, fun other wait hwait => ?_, h.signings⟩
    rcases wait?_of_await hnew hwait with ⟨rfl, rfl⟩ | hbefore
    · exact ⟨hheld.key _ hgets.key, hheld.inFlight _ _ hgets.key hrequest hkey, hasked⟩
    · exact h.waits other wait hbefore
  | @requested user token fresh effects hlooked htoken hgets hlogs =>
    have hheld := hfresh hgets rfl (Nat.le_succ _)
    obtain ⟨owner, howner, hderived⟩ := hbelongs.seen hlooked
    have hrequested : RequestedIn start history activity.session.epoch (fresh.state.lastId + 1)
        fresh.result.pair.publicKey :=
      ⟨_, hmade, rfl, token, owner, ⟨by simp [hlogs.2.1], rfl⟩, howner,
        hderived.sessionToken ▸ htoken⟩
    refine ⟨hepoch ▸ hheld.requesting hgets.key hrequested, fun other wait hwait => ?_, ?_⟩
    · rcases wait?_of_await hnew hwait with ⟨rfl, rfl⟩ | hbefore
      · exact ⟨hheld.key _ hgets.key, hrequested, hasked⟩
      · exact h.waits other wait hbefore
    · intro signing hsigning text hanswer
      rcases List.mem_append.1 hsigning with hold | hlast
      · exact h.signings signing hold text hanswer
      · obtain rfl := List.mem_singleton.1 hlast
        cases hanswer

theorem Traced.resume {wait : CertificateWait} {answer : Except RemoteError String}
    (h : activity.Traced start history) (hopened : start.Opened)
    (run : Run step? start history finish) (hwait : activity.wait? id = some wait)
    (hanswer : (activity.signing? wait.requestId).bind Signing.answer = some answer)
    (hresumes : activity.Resumes id wait answer step) : step.state.Traced start history := by
  cases hresumes with
  | stale => exact h.forget id
  | finished hepoch hfinishes =>
    have hremembers := h.waits id wait hwait
    have hheld := h.held.withoutRequest wait.requestId
    suffices hafter : Holds start history activity.session.epoch _ from
      ⟨hafter, (h.forget id).waits, h.signings⟩
    cases hfinishes with
    | refused | kept => exact hheld
    | @installed text effects hnew hcurrent hlogs =>
      obtain ⟨key, hkey, hid⟩ := Option.map_eq_some_iff.1 hcurrent
      obtain ⟨rfl, -⟩ := generatedIn_unique hopened run hremembers.key (h.held.key key hkey) hid
      refine hheld.installed (by rwa [Provisioner.key_withoutRequest])
        ⟨wait.requestId, ?_, answered_of_signing? h hanswer⟩
      rw [hepoch]
      exact hremembers.request

theorem Traced.concat (hopened : start.Opened) (hpast : Run step? start past activity)
    (hquiet : ∀ made ∈ past, made.move.KeepsContents) (h : activity.Traced start past)
    (hstep : activity.step? move = some step) :
    step.state.Traced start (past ++ [⟨activity, move, step⟩]) := by
  have horderly := orderly_of_run hopened hpast
  have hlonger : ∀ made ∈ past, made ∈ past ++ [⟨activity, move, step⟩] := fun made hmade =>
    List.mem_append_left _ hmade
  have hmade : ⟨activity, move, step⟩ ∈ past ++ [⟨activity, move, step⟩] :=
    List.mem_append_right _ (List.mem_singleton_self _)
  have hbefore : activity.Traced start (past ++ [⟨activity, move, step⟩]) := by
    refine ⟨h.held.mono hlonger, fun id wait hwait => ?_, fun signing hsigning text hanswer => ?_⟩
    · exact (h.waits id wait hwait).concat (not_begins_of_wait horderly.settled hstep hwait)
    · exact (h.signings signing hsigning text hanswer).mono hlonger
  cases allows_of_step? horderly.settled hstep with
  | session hfree hinner hepoch =>
    have hsame : _ = activity.session.epoch :=
      Session.Activity.epoch_of_not_beginsEpoch hinner hepoch
    have hheld := hbefore.held
    rw [← hsame] at hheld
    exact ⟨hheld, hbefore.waits, hbefore.signings⟩
  | newEpoch hinner hepoch hextra => exact ⟨.reset _ _ _ _ _, hbefore.waits, hbefore.signings⟩
  | setClock => exact ⟨hbefore.held, hbefore.waits, hbefore.signings⟩
  | drop => exact hbefore.forget _
  | answerCertificate =>
    refine ⟨hbefore.held, hbefore.waits, fun signing hsigning text hanswer => ?_⟩
    rcases answered_of_step? horderly hstep hsigning hanswer with hearlier | hmove
    · exact hbefore.signings signing hearlier text hanswer
    · exact ⟨_, hmade, hmove⟩
  | beginAssertion hnew hfree hbegins =>
    exact hbefore.beginAssertion hmade (.of_begun past rfl)
      ((belongs_of_run hopened hpast hquiet).mono fun epoch user huser => huser.mono hlonger) hnew
      hbegins
  | @resume id wait answer hwait hanswer =>
    have run : Run step? start (past ++ [⟨activity, .resume id, activity.resume id wait answer⟩])
        (activity.resume id wait answer).state := run_concat.2 ⟨hpast, hstep, rfl⟩
    exact hbefore.resume hopened run hwait hanswer (resume_resumes horderly hwait answer)

/-- In every state of a run everything that goes into an assertion can be traced back. -/
theorem traced_of_run (hopened : start.Opened) (run : Run step? start history finish)
    (hquiet : ∀ made ∈ history, made.move.KeepsContents) : finish.Traced start history := by
  induction history using List.reverseRecOn generalizing finish with
  | nil =>
    obtain rfl : start = finish := run
    obtain ⟨config, seeds, clock, store, rfl⟩ := hopened.eq
    refine ⟨.reset _ _ _ {} 0, fun id wait hwait => (by cases hwait), ?_⟩
    exact fun signing hsigning => (by cases hsigning)
  | append_singleton past made ih =>
    obtain ⟨hpast, hstep, rfl⟩ := run_concat.1 run
    have hpastQuiet : ∀ other ∈ past, other.move.KeepsContents := fun other hother =>
      hquiet other (List.mem_append_left _ hother)
    exact (ih hpast hpastQuiet).concat hopened hpast hpastQuiet hstep

/-! ### Assertions -/

/-- Whether an assertion is signed with a key of the current epoch and joined to a certificate for
that key. -/
def SignedFor (activity start : Activity σ) (past : History σ) (audience text : String) : Prop :=
  ∃ key certificate, GeneratedIn past activity.session.epoch key ∧
    CertifiedIn start past activity.session.epoch key.pair.publicKey certificate ∧
    text = assertionOf activity.accounts key audience certificate

theorem Traced.signed_at_once {other : CallId} {audience text : String}
    (h : activity.Traced start past) (hbegins : activity.BeginsAssertion other audience step)
    (hreturned : (id, .ok (.assertion text)) ∈ returnedOf step.effects) :
    other = id ∧ activity.SignedFor start past audience text := by
  cases hbegins with
  | refused error =>
    simp [activity.session.snapshot_onlyLogs.2.2] at hreturned
  | joined hlooked hgets hrequest hkey hlogs =>
    rw [hlogs.2.2] at hreturned
    cases hreturned
  | requested hlooked htoken hgets hlogs =>
    simp [hlogs.2.2] at hreturned
  | @ready user fresh certificate effects hlooked hgets hcertificate hkey hvalid hlogs =>
    simp only [returnedOf_append, hlogs.2.2, returnedOf_cons, returnedOf_nil, List.append_nil,
      List.nil_append, List.mem_singleton, Prod.mk.injEq, Except.ok.injEq,
      Answer.assertion.injEq] at hreturned
    obtain ⟨rfl, rfl⟩ := hreturned
    refine ⟨rfl, fresh.result, certificate.text, ?_, ?_, rfl⟩
    · cases hgets with
      | kept hheld => exact h.held.key _ hheld
      | made => cases hcertificate
    · cases hgets with
      | kept hheld => exact h.held.certificate _ certificate hheld hcertificate hkey
      | made => cases hcertificate

theorem Traced.signed_later {other : CallId} {wait : CertificateWait} {text : String}
    {answer : Except RemoteError String} (h : activity.Traced start past)
    (hwait : activity.wait? other = some wait)
    (hanswer : (activity.signing? wait.requestId).bind Signing.answer = some answer)
    (hresumes : activity.Resumes other wait answer step)
    (hreturned : (id, .ok (.assertion text)) ∈ returnedOf step.effects) :
    other = id ∧ activity.SignedFor start past wait.audience text := by
  have hremembers := h.waits other wait hwait
  have hsigned {certificate : String} (hepoch : activity.session.epoch = wait.generation)
      (hanswered : answer = .ok certificate)
      (htext : text = assertionOf activity.accounts wait.key wait.audience certificate) :
      activity.SignedFor start past wait.audience text := by
    subst hanswered
    refine ⟨wait.key, certificate, ?_, ⟨wait.requestId, ?_, answered_of_signing? h hanswer⟩, htext⟩
    · rw [hepoch]
      exact hremembers.key
    · rw [hepoch]
      exact hremembers.request
  cases hresumes with
  | stale hstale hlogs => simp [hlogs.2.2] at hreturned
  | finished hepoch hfinishes =>
    cases hfinishes with
    | refused error =>
      simp [Except.map] at hreturned
    | installed hnew hcurrent hlogs =>
      simp only [Except.map, returnedOf_append, hlogs.2.2, returnedOf_cons, returnedOf_nil,
        List.append_nil, List.nil_append, List.mem_singleton, Prod.mk.injEq, Except.ok.injEq,
        Answer.assertion.injEq] at hreturned
      exact ⟨hreturned.1.symm, hsigned hepoch rfl hreturned.2⟩
    | kept hkept =>
      simp only [Except.map, returnedOf_cons, returnedOf_nil, List.append_nil, List.nil_append,
        List.mem_singleton, Prod.mk.injEq, Except.ok.injEq, Answer.assertion.injEq] at hreturned
      exact ⟨hreturned.1.symm, hsigned hepoch rfl hreturned.2⟩

/-- An assertion that is returned is signed for the audience that the call asked for. -/
theorem of_returned_assertion {text : String} (hopened : start.Opened)
    (hpast : Run step? start past activity) (hquiet : ∀ made ∈ past, made.move.KeepsContents)
    (hstep : activity.step? move = some step)
    (hreturned : (id, .ok (.assertion text)) ∈ returnedOf step.effects) :
    step.state.session.epoch = activity.session.epoch ∧
      ∃ audience, Asked (past ++ [⟨activity, move, step⟩]) id audience ∧
        activity.SignedFor start past audience text := by
  have horderly := orderly_of_run hopened hpast
  have htraced := traced_of_run hopened hpast hquiet
  cases allows_of_step? horderly.settled hstep with
  | session hfree hinner hepoch =>
    obtain ⟨record, hrecord, -⟩ := Session.Activity.returns_of_step? hinner hreturned
    cases hrecord
  | newEpoch hinner hepoch hextra =>
    rw [returnedOf_append, hextra.2.2, List.append_nil] at hreturned
    obtain ⟨record, hrecord, -⟩ := Session.Activity.returns_of_step? hinner hreturned
    cases hrecord
  | setClock | answerCertificate | drop => cases hreturned
  | beginAssertion hnew hfree hbegins =>
    obtain ⟨rfl, hsigned⟩ := htraced.signed_at_once hbegins hreturned
    refine ⟨?_, _, .of_begun past rfl, hsigned⟩
    cases hbegins <;> exact Session.snapshot_epoch activity.session
  | @resume other wait answer hwait hanswer =>
    obtain ⟨rfl, hsigned⟩ := htraced.signed_later hwait hanswer
      (resume_resumes horderly hwait answer) hreturned
    exact ⟨rfl, _, (htraced.waits _ wait hwait).audience.concat fun hbegins => hbegins, hsigned⟩

/-- What is assumed of signatures: one that a key pair made is accepted under its public half. -/
def Accepted (pair : KeyPair) (message : Bytes) : Prop :=
  pair.publicKey.verify message (pair.sign message) = true

/-- The time up to which an assertion holds that is signed now. -/
def expiry (activity : Activity σ) : UInt64 :=
  saturatingAdd activity.accounts.clock activity.accounts.config.assertionLifetime

/-- An assertion is bound to the epoch in which it is returned. It is read back as one for the
audience that the call asked for, up to the end of its lifetime, signed with a key pair that was
generated in this epoch; its certificate is what the service answered to a request of this epoch for
that key, made with the token of the user of this epoch; and neither the key nor the request is one
of any other epoch. -/
theorem assertion_is_bound {audience text : String} (hopened : start.Opened)
    (run : Run step? start (past ++ [made]) finish)
    (hquiet : ∀ other ∈ past, other.move.KeepsContents)
    (hasked : Asked (past ++ [made]) id audience)
    (hreturned : (id, .ok (.assertion text)) ∈ returnedOf made.step.effects)
    (haccepted : ∀ number, Accepted ⟨start.accounts.seeds number⟩
      (Utf8.encode (Assertion.signedTextOf audience made.before.expiry))) :
    ∃ key requestId assertion,
      GeneratedIn past finish.session.epoch key ∧
        RequestedIn start past finish.session.epoch requestId key.pair.publicKey ∧
        Answered past requestId assertion.certificate ∧ Assertion.parse text = .ok assertion ∧
        assertion.payload = ⟨audience, saturatingAdd made.before.accounts.clock
          start.accounts.config.assertionLifetime⟩ ∧
        assertion.verify key.pair.publicKey = true ∧
        (∀ epoch other, GeneratedIn past epoch other → other.id = key.id →
          other = key ∧ epoch = finish.session.epoch) ∧
        (∀ epoch other, RequestedIn start past epoch requestId other →
          other = key.pair.publicKey ∧ epoch = finish.session.epoch) ∧
        ∀ other, Answered past requestId other → other = assertion.certificate := by
  obtain ⟨hpast, hstep, rfl⟩ := run_concat.1 run
  obtain ⟨hconfig, hseeds⟩ := setup_of_run hopened hpast
  obtain ⟨hepoch, other, hother, key, certificate, hgenerated, ⟨requestId, hrequested, hanswered⟩,
    htext⟩ := of_returned_assertion hopened hpast hquiet hstep hreturned
  obtain rfl := hother.unique hasked
  have hparsed := Assertion.parse_build certificate key.pair audience made.before.expiry
  rw [show Assertion.build certificate key.pair audience made.before.expiry = text from
    htext.symm] at hparsed
  have hpair : ∃ number, key.pair = ⟨start.accounts.seeds number⟩ := by
    obtain ⟨generating, hgenerating, -, hgenerates⟩ := hgenerated
    obtain ⟨earlier, hearlier, -⟩ := hpast.reached hgenerating
    refine ⟨generating.before.provisioner.generated + 1, ?_⟩
    rw [hgenerates.new, ← (setup_of_run hopened hearlier).2]
    rfl
  have hverified : key.pair.publicKey.verify
      (Utf8.encode (Assertion.signedTextOf audience made.before.expiry))
      (key.pair.sign (Utf8.encode (Assertion.signedTextOf audience made.before.expiry))) =
        true := by
    obtain ⟨number, hnumber⟩ := hpair
    rw [hnumber]
    exact haccepted number
  rw [show made.after.session.epoch = _ from hepoch, ← hconfig]
  refine ⟨key, requestId, _, hgenerated, hrequested, hanswered, hparsed, rfl,
    (Assertion.verify_signed _ _ _ _ _).trans hverified, ?_, ?_, ?_⟩
  · exact fun epoch other hother hid => generatedIn_unique hopened hpast hgenerated hother hid
  · exact fun epoch other hother => requestedIn_unique hopened hpast hrequested hother
  · exact fun other hother => answered_unique hopened hpast hanswered hother

private theorem accepted_statement : Accepted ⟨List.replicate 32 1⟩
    (Utf8.encode (Assertion.signedTextOf "https://example.com" 120000)) :=
  Assertion.accepts_statement

/-- A verified user gets an assertion once the service has certified the key. -/
theorem first_assertion_is_bound :
    ∃ finish past text,
      ∃ made : Made (Activity (BlobCredentials MemoryBlobs)) (Move _) Session.Reply,
      Run step? (blank memory) (past ++ [made]) finish ∧
        (0, .ok (.assertion text)) ∈ returnedOf made.step.effects ∧
        ∃ key requestId assertion,
          RequestedIn (blank memory) past finish.session.epoch requestId key ∧
            Answered past requestId assertion.certificate ∧
            Assertion.parse text = .ok assertion ∧
            assertion.payload = ⟨"https://example.com", 120000⟩ ∧ assertion.verify key = true := by
  obtain ⟨finish, run⟩ := run_played step? (blank memory) [
    .session (.signIn { sessionToken := some "token", isVerified := true }),
    .beginAssertion 0 "https://example.com",
    .answerCertificate 2 (.ok "certificate"),
    .resume 0]
  refine ⟨finish, [_, _, _], Assertion.build "certificate" ⟨List.replicate 32 1⟩
    "https://example.com" 120000, _, run, List.mem_singleton_self _, ?_⟩
  refine (fun hbound => ?_) (@assertion_is_bound _ _ _ _ _ 0 _ [_, _, _] "https://example.com"
    (Assertion.build "certificate" ⟨List.replicate 32 1⟩ "https://example.com" 120000)
    (blank_opened memory) run ?_ ⟨_, ⟨[_], [_, _], rfl, rfl, ?_⟩, rfl⟩ (List.mem_singleton_self _)
    fun _ => accepted_statement)
  · obtain ⟨key, requestId, assertion, -, hrequested, hanswered, hparsed, hpayload, hverified, -⟩ :=
      hbound
    exact ⟨key.pair.publicKey, requestId, assertion, hrequested, hanswered, hparsed, hpayload,
      hverified⟩
  · intro other hother
    simp only [List.mem_cons, List.not_mem_nil, or_false] at hother
    rcases hother with rfl | rfl | rfl <;> trivial
  · intro other hother
    simp only [List.mem_cons, List.not_mem_nil, or_false] at hother
    rcases hother with rfl | rfl <;> exact fun hbegins => hbegins

end Activity

end AccountManager.Accounts
