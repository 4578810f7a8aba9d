import AccountManager.Accounts.Activity
import AccountManager.Proofs.Provisioning
import AccountManager.Proofs.Session.Vacancy

/-!
# The calls of an account manager

What a move of the whole account manager does, for a provisioner that belongs to the epoch of the
session. A move of the session either begins an epoch and drops what the provisioner holds, or it
leaves both alone; the other moves leave the session alone, but for the look that a call for an
assertion takes at the user.
-/

namespace AccountManager

namespace Accounts

open Storage

variable {σ : Type}

def Move.caller? : Move σ → Option CallId
  | .session move => move.caller?
  | .setClock _ | .answerCertificate _ _ => none
  | .beginAssertion id _ | .resume id | .drop id => some id

def Move.Begins (id : CallId) : Move σ → Prop
  | .session move => move.Begins id
  | .beginAssertion other _ => other = id
  | _ => False

/-- Whether a move that changes the store from outside leaves what it holds. -/
def Move.KeepsContents [CredentialStore σ] [LawfulStore σ] : Move σ → Prop
  | .session move => move.KeepsContents
  | _ => True

namespace Activity

variable {activity : Activity σ} {move : Move σ} {step : Step (Activity σ) Session.Reply}
  {id : CallId}

def session (activity : Activity σ) : Session σ := activity.accounts.activity.session

def waiting? (activity : Activity σ) (id : CallId) : Option Session.Waiting :=
  activity.accounts.activity.waiting? id

def provisioner (activity : Activity σ) : Provisioner := activity.accounts.provisioner

/-- An account manager with its session and the calls of that moved on. -/
def withCalls (activity : Activity σ) (calls : Session.Activity σ) : Activity σ :=
  { activity with accounts := { activity.accounts with activity := calls } }

def withProvisioner (activity : Activity σ) (provisioner : Provisioner) : Activity σ :=
  { activity with accounts := { activity.accounts with provisioner } }

/-- An account manager after a look at the user. -/
def looked [CredentialStore σ] (activity : Activity σ) : Activity σ :=
  activity.withCalls
    { activity.accounts.activity with session := activity.session.snapshot.state }

def await (activity : Activity σ) (id : CallId) (wait : CertificateWait) : Activity σ :=
  { activity with waits := activity.waits ++ [(id, wait)] }

/-- An account manager that has asked for one more certificate. -/
def signing (activity : Activity σ) (requestId : Nat) : Activity σ :=
  { activity with signings := activity.signings ++ [⟨requestId, none⟩] }

/-! ### What a call waits for -/

theorem wait?_forget (activity : Activity σ) (id other : CallId) :
    (activity.forget id).wait? other = if other = id then none else activity.wait? other := by
  unfold wait? forget
  rw [find?_filter_ne]
  split <;> rfl

theorem wait?_await (hnew : activity.wait? id = none) (wait : CertificateWait) (other : CallId) :
    (activity.await id wait).wait? other =
      if other = id then some wait else activity.wait? other := by
  unfold wait? await at *
  rw [List.find?_append]
  split
  · rename_i hother
    subst hother
    rw [Option.map_eq_none_iff] at hnew
    simp [hnew]
  · rename_i hother
    simp [Ne.symm hother]

theorem wait?_of_forget {other : CallId} {wait : CertificateWait}
    (hwait : (activity.forget other).wait? id = some wait) : activity.wait? id = some wait := by
  rw [wait?_forget] at hwait
  split at hwait
  · cases hwait
  · exact hwait

theorem wait?_of_await {other : CallId} {new wait : CertificateWait}
    (hnew : activity.wait? other = none)
    (hwait : (activity.await other new).wait? id = some wait) :
    id = other ∧ wait = new ∨ activity.wait? id = some wait := by
  rw [wait?_await hnew] at hwait
  split at hwait
  · rename_i hother
    exact .inl ⟨hother, (Option.some.inj hwait).symm⟩
  · exact .inr hwait

/-! ### One move -/

variable [CredentialStore σ]

/-- What comes of beginning a call for an assertion: it is refused, or it gets a key and then finds
a certificate, joins a request or makes one. -/
inductive BeginsAssertion (activity : Activity σ) (id : CallId) (audience : String) :
    Step (Activity σ) Session.Reply → Prop
  | refused (error : AccountError) (hown : ∀ remote, error ≠ .remoteCall remote) :
      BeginsAssertion activity id audience
        ⟨.none, activity.looked.forget id,
          activity.session.snapshot.effects ++ [.returned id (.error error)]⟩
  | ready {user : SignedInUser} {fresh : Step Provisioner EphemeralKey}
      {certificate : Certificate} {effects : List Effect}
      (hlooked : activity.session.snapshot.result = .ok (some user))
      (hfresh : activity.provisioner.GetsKey activity.accounts.setting fresh)
      (hcertificate : fresh.state.certificate = some certificate)
      (hkey : certificate.keyId = fresh.result.id)
      (hvalid : activity.accounts.clock < certificate.validUntil) (hlogs : OnlyLogs effects) :
      BeginsAssertion activity id audience
        ⟨.none, (activity.looked.withProvisioner fresh.state).forget id,
          effects ++ [.returned id (.ok (.assertion
            (assertionOf activity.accounts fresh.result audience certificate.text)))]⟩
  | joined {user : SignedInUser} {fresh : Step Provisioner EphemeralKey} {request : InFlight}
      {effects : List Effect}
      (hlooked : activity.session.snapshot.result = .ok (some user))
      (hfresh : activity.provisioner.GetsKey activity.accounts.setting fresh)
      (hrequest : fresh.state.inFlight = some request) (hkey : request.keyId = fresh.result.id)
      (hlogs : OnlyLogs effects)
      (hnone : fresh.state.validCertificate? fresh.result.id activity.accounts.clock = none) :
      BeginsAssertion activity id audience
        ⟨.none,
          (activity.looked.withProvisioner fresh.state).await id
            ⟨activity.session.epoch, fresh.result, request.requestId, audience⟩,
          effects⟩
  | requested {user : SignedInUser} {token : String} {fresh : Step Provisioner EphemeralKey}
      {effects : List Effect}
      (hlooked : activity.session.snapshot.result = .ok (some user))
      (htoken : user.record.sessionToken = some token)
      (hfresh : activity.provisioner.GetsKey activity.accounts.setting fresh)
      (hlogs : OnlyLogs effects)
      (hnone : fresh.state.validCertificate? fresh.result.id activity.accounts.clock = none)
      (hidle : (fresh.state.inFlight.filter fun request => request.keyId = fresh.result.id) =
        none) :
      BeginsAssertion activity id audience
        ⟨.none,
          ((activity.looked.withProvisioner (fresh.state.requesting fresh.result.id)).await id
            ⟨activity.session.epoch, fresh.result, fresh.state.lastId + 1, audience⟩).signing
              (fresh.state.lastId + 1),
          effects ++ [.call (.signCertificate token fresh.result.pair.publicKey)]⟩

/-- A call that has found the user of an epoch goes on with what is planned for the certificate. -/
def certified (activity : Activity σ) (id : CallId) (generation : Nat) (audience : String)
    (effects : List Effect)
    (planned :
      Step Provisioner (Except AccountError (EphemeralKey × Provisioner.CertificatePlan))) :
    Step (Activity σ) Session.Reply :=
  let activity := activity.withProvisioner planned.state
  let effects := effects ++ planned.effects
  match planned.result with
  | .error error => activity.returnAssertion id (.error error) effects
  | .ok (key, .ready certificate) =>
    activity.returnAssertion id (.ok (assertionOf activity.accounts key audience certificate))
      effects
  | .ok (key, .joined requestId) =>
    ⟨.none, activity.await id ⟨generation, key, requestId, audience⟩, effects⟩
  | .ok (key, .requested requestId) =>
    ⟨.none, (activity.await id ⟨generation, key, requestId, audience⟩).signing requestId, effects⟩

theorem beginAssertion_of_user {user : SignedInUser} {token : String}
    (hlooked : activity.session.snapshot.result = .ok (some user))
    (hverified : user.record.isVerified = true) (htoken : user.record.sessionToken = some token)
    (id : CallId) (audience : String) :
    activity.beginAssertion id audience =
      activity.looked.certified id activity.session.epoch audience activity.session.snapshot.effects
        (activity.provisioner.certify activity.accounts.setting activity.session.epoch
          activity.session.epoch token) := by
  have hgeneration := (Session.of_snapshot_eq_some hlooked).1
  unfold session at hlooked hgeneration
  unfold beginAssertion certified
  simp only [hlooked, hverified, htoken, hgeneration, Accounts.epoch, Accounts.setting,
    Session.snapshot_epoch, not_true_eq_false, if_false, session, provisioner]
  generalize activity.accounts.provisioner.certify _ _ _ _ = planned
  obtain ⟨result, state, effects⟩ := planned
  cases result with
  | error error => rfl
  | ok found =>
    obtain ⟨key, plan⟩ := found
    cases plan <;> rfl

/-- Whether the signed-in user may ask for assertions, and with which token. -/
def MayAsk (activity : Activity σ) (token : String) : Prop :=
  ∃ user, activity.session.snapshot.result = .ok (some user) ∧ user.record.isVerified = true ∧
    user.record.sessionToken = some token

/-- Without a user who may ask, a call ends with an error of its own before it gets a key. -/
theorem beginAssertion_of_nobody (hnobody : ∀ token, ¬ activity.MayAsk token) (id : CallId)
    (audience : String) :
    ∃ error, (∀ remote, error ≠ .remoteCall remote) ∧
      activity.beginAssertion id audience =
        ⟨.none, activity.looked.forget id,
          activity.session.snapshot.effects ++ [.returned id (.error error)]⟩ := by
  unfold beginAssertion
  dsimp only
  split
  · exact ⟨_, fun _ hsame => (by cases hsame), rfl⟩
  · exact ⟨_, fun _ hsame => (by cases hsame), rfl⟩
  · rename_i user hlooked
    split
    · exact ⟨_, fun _ hsame => (by cases hsame), rfl⟩
    · rename_i hverified
      split
      · exact ⟨_, fun _ hsame => (by cases hsame), rfl⟩
      · rename_i token htoken
        have hverified : user.record.isVerified = true := by simpa using hverified
        exact absurd ⟨user, hlooked, hverified, htoken⟩ (hnobody token)

theorem beginAssertion_beginsAssertion
    (hsettled : activity.provisioner.generation = activity.session.epoch) (id : CallId)
    (audience : String) :
    activity.BeginsAssertion id audience (activity.beginAssertion id audience) := by
  by_cases huser : ∃ token, activity.MayAsk token
  · obtain ⟨token, user, hlooked, hverified, htoken⟩ := huser
    rw [beginAssertion_of_user hlooked hverified htoken]
    have hlogs := activity.session.snapshot_onlyLogs
    have hfresh := activity.provisioner.freshKey_getsKey activity.accounts.setting
    have hcertify := Provisioner.certify_getsCertificate hsettled activity.accounts.setting token
    generalize activity.provisioner.certify activity.accounts.setting activity.session.epoch
      activity.session.epoch token = planned at hcertify ⊢
    generalize activity.provisioner.freshKey activity.accounts.setting = fresh at hfresh hcertify
    have hlogs := hlogs.append hfresh.onlyLogs
    cases hcertify with
    | ready hcertificate hkey hvalid =>
      exact .ready hlooked hfresh hcertificate hkey hvalid hlogs
    | joined hnone hrequest hkey hjoined =>
      apply BeginsAssertion.joined hlooked hfresh hrequest hkey
      · rw [← List.append_assoc]
        exact hlogs.append hjoined
      · exact hnone
    | @requested log hnone hrequest =>
      have hrequested : activity.BeginsAssertion id audience _ :=
        .requested hlooked htoken hfresh (hlogs.append (onlyLogs_log log)) hnone hrequest
      rw [List.append_assoc, List.append_assoc] at hrequested
      exact hrequested
  · obtain ⟨error, hown, hrefused⟩ := beginAssertion_of_nobody (not_exists.1 huser) id audience
    rw [hrefused]
    exact .refused error hown

/-- The moves that can be made, each with the call state it needs and with what comes of it. -/
inductive Allows (activity : Activity σ) : Move σ → Step (Activity σ) Session.Reply → Prop
  | session {move : Session.Move σ} {inner : Step (Session.Activity σ) Session.Reply}
      (hfree : ∀ id, move.Begins id → activity.wait? id = none)
      (hinner : activity.accounts.activity.step? move = some inner)
      (hepoch : ¬ Session.Activity.BeginsEpoch move inner.result) :
      activity.Allows (.session move)
        ⟨inner.result, activity.withCalls inner.state, inner.effects⟩
  | newEpoch {move : Session.Move σ} {inner : Step (Session.Activity σ) Session.Reply}
      {extra : List Effect} (hinner : activity.accounts.activity.step? move = some inner)
      (hepoch : Session.Activity.BeginsEpoch move inner.result) (hextra : OnlyLogs extra) :
      activity.Allows (.session move)
        ⟨inner.result,
          (activity.withCalls inner.state).withProvisioner
            (activity.provisioner.reset inner.state.session.epoch),
          inner.effects ++ extra⟩
  | setClock (now : UInt64) :
      activity.Allows (.setClock now)
        ⟨.none, { activity with accounts := { activity.accounts with clock := now } }, []⟩
  | beginAssertion {id : CallId} {audience : String} {step : Step (Activity σ) Session.Reply}
      (hnew : activity.wait? id = none) (hfree : activity.waiting? id = none)
      (hbegins : activity.BeginsAssertion id audience step) :
      activity.Allows (.beginAssertion id audience) step
  | answerCertificate {requestId held : Nat}
      (hheld : activity.signing? requestId = some ⟨held, none⟩)
      (answer : Except RemoteError String) :
      activity.Allows (.answerCertificate requestId answer)
        ⟨.none, activity.answer requestId answer, []⟩
  | resume {id : CallId} {wait : CertificateWait} {answer : Except RemoteError String}
      (hwait : activity.wait? id = some wait)
      (hanswer : (activity.signing? wait.requestId).bind Signing.answer = some answer) :
      activity.Allows (.resume id) (activity.resume id wait answer)
  | drop {id : CallId} (hwait : (activity.wait? id).isSome) :
      activity.Allows (.drop id) ⟨.none, activity.forget id, []⟩

theorem of_moveSession?_eq_some {move : Session.Move σ}
    (hfree : ∀ id, move.Begins id → activity.wait? id = none)
    (hstep : activity.moveSession? move = some step) : activity.Allows (.session move) step := by
  unfold moveSession? at hstep
  cases hinner : activity.accounts.activity.step? move with
  | none =>
    rw [hinner] at hstep
    cases hstep
  | some inner =>
    rw [hinner] at hstep
    dsimp only at hstep
    split at hstep
    · rename_i record hresult
      cases hstep
      have hnew := Allows.newEpoch hinner (hresult ▸ .signIn record) onlyLogs_nil
      rw [List.append_nil] at hnew
      exact hnew
    · cases hstep
      exact .newEpoch hinner (.signOut _) (onlyLogs_log _)
    · rename_i hsignOut hsignIn
      cases hstep
      apply Allows.session hfree hinner
      intro hepoch
      generalize hresult : inner.result = result at hepoch
      cases hepoch with
      | signIn record => exact hsignIn record rfl hresult
      | signOut => exact hsignOut rfl

omit [CredentialStore σ] in
theorem isBusy_eq_false : activity.isBusy id = false ↔
    activity.wait? id = none ∧ activity.waiting? id = none := by
  simp [isBusy, waiting?]

theorem allows_of_step? (hsettled : activity.provisioner.generation = activity.session.epoch)
    (hstep : activity.step? move = some step) : activity.Allows move step := by
  cases move with
  | session move =>
    have hfree : ∀ id, move.Begins id → activity.wait? id = none := by
      intro id hbegins
      cases move with
      | beginKeys other | beginVerification other =>
        cases hbegins
        simp only [step?] at hstep
        split at hstep
        · cases hstep
        · rename_i hbusy
          exact (isBusy_eq_false.1 (by simpa using hbusy)).1
      | _ => exact hbegins.elim
    have hmove : activity.moveSession? move = some step := by
      cases move with
      | beginKeys | beginVerification =>
        simp only [step?] at hstep
        split at hstep
        · cases hstep
        · exact hstep
      | _ => exact hstep
    exact of_moveSession?_eq_some hfree hmove
  | setClock now => cases hstep; exact .setClock now
  | beginAssertion id audience =>
    simp only [step?] at hstep
    split at hstep
    · cases hstep
    · rename_i hbusy
      obtain ⟨hnew, hfree⟩ := isBusy_eq_false.1 (by simpa using hbusy)
      cases hstep
      exact .beginAssertion hnew hfree (beginAssertion_beginsAssertion hsettled id audience)
  | answerCertificate requestId answer =>
    simp only [step?] at hstep
    split at hstep
    · rename_i hheld
      cases hstep
      exact .answerCertificate hheld answer
    · cases hstep
  | resume id =>
    simp only [step?] at hstep
    split at hstep
    · cases hstep
    · rename_i hwait
      split at hstep
      · cases hstep
      · rename_i hanswer
        cases hstep
        exact .resume hwait hanswer
  | drop id =>
    simp only [step?] at hstep
    split at hstep
    · rename_i hwait
      cases hstep
      exact .drop hwait
    · cases hstep

theorem not_begins_of_wait {wait : CertificateWait}
    (hsettled : activity.provisioner.generation = activity.session.epoch)
    (hstep : activity.step? move = some step) (hwait : activity.wait? id = some wait) :
    ¬ move.Begins id := by
  have hne {other : CallId} (hnone : activity.wait? other = none) : other ≠ id := by
    rintro rfl
    rw [hnone] at hwait
    cases hwait
  cases allows_of_step? hsettled hstep with
  | session hfree => exact fun hbegins => hne (hfree id hbegins) rfl
  | newEpoch hinner hepoch => exact hepoch.not_begins
  | beginAssertion hnew => exact hne hnew
  | setClock | answerCertificate | resume | drop => exact fun hbegins => hbegins

end Activity

end Accounts

end AccountManager
