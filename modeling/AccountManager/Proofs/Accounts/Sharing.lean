import AccountManager.Proofs.Accounts.Certificates
import AccountManager.Proofs.Assertion

/-!
# Requests that calls share

Calls that need a certificate for the same key share one request. While a key is at hand, a move
either leaves the provisioner alone, or starts a request where there is neither a certificate to use
nor a request to join, or takes the answer to a request. So a request is outstanding until a call
takes its answer; after that there is no other request for the key unless the answer was an error or
the certificate that came of it has expired. Every call that waits ends with the answer to its own
request, and an answer that was taken is not waited for again.
-/

namespace AccountManager.Accounts

open Storage

variable {σ : Type} [CredentialStore σ]

/-! ### Requests and answers -/

/-- Whether a call takes the answer to the request that it waits for. -/
structure Takes (made : Made (Activity σ) (Move σ) Session.Reply) (requestId : Nat)
    (answer : Except RemoteError String) : Prop where
  resumed : ∃ id wait, made.move = .resume id ∧ made.before.wait? id = some wait ∧
    wait.requestId = requestId
  answer : (made.before.signing? requestId).bind Signing.answer = some answer

/-- Whether a certificate is at hand after a move that was not before. -/
structure Installs (made : Made (Activity σ) (Move σ) Session.Reply) (certificate : Certificate) :
    Prop where
  after : made.after.provisioner.certificate = some certificate
  new : made.before.provisioner.certificate ≠ some certificate

/-- What makes room for another request: the answer to this one was an error, or the certificate
that came of it may be used up to some time only. -/
inductive Settles (taken : Made (Activity σ) (Move σ) Session.Reply) (requestId : Nat)
    (bound : UInt64) : Prop
  | failed {error : RemoteError} (htakes : Takes taken requestId (.error error))
  | installed {certificate : Certificate} (htakes : Takes taken requestId (.ok certificate.text))
      (hinstalls : Installs taken certificate) (hrequest : certificate.requestId = requestId)
      (hexpires : certificate.validUntil ≤ bound)

/-- How a call ends that has waited since an epoch and takes an answer. -/
inductive Ends (activity : Activity σ) (generation : Nat) :
    Except RemoteError String → Except AccountError Answer → Prop
  | moved (answer : Except RemoteError String) (hmoved : activity.session.epoch ≠ generation) :
      Ends activity generation answer (.error .notSignedIn)
  | failed (error : RemoteError) (hsame : activity.session.epoch = generation) :
      Ends activity generation (.error error) (.error (.remoteCall error))
  | certified {certificate text : String} {assertion : Assertion}
      (hsame : activity.session.epoch = generation)
      (hparsed : Assertion.parse text = .ok assertion)
      (hcertificate : assertion.certificate = certificate) :
      Ends activity generation (.ok certificate) (.ok (.assertion text))

namespace Activity

variable {activity start finish : Activity σ} {move : Move σ} {past later history : History σ}
  {step : Step (Activity σ) Session.Reply} {id : CallId} {key : EphemeralKey}
  {wait : CertificateWait} {requestId : Nat} {result : Except AccountError Answer}
  {first made : Made (Activity σ) (Move σ) Session.Reply}

/-! ### Starting a request -/

/-- Whether a call makes a request for the key it has got, since there is neither a certificate to
use nor a request to join. -/
structure Requesting (activity : Activity σ) (step : Step (Activity σ) Session.Reply)
    (fresh : Step Provisioner EphemeralKey) : Prop where
  gets : activity.provisioner.GetsKey activity.accounts.setting fresh
  none : fresh.state.validCertificate? fresh.result.id activity.accounts.clock = none
  idle : (fresh.state.inFlight.filter fun request => request.keyId = fresh.result.id) = Option.none
  call : ∃ token, callsOf step.effects = [.signCertificate token fresh.result.pair.publicKey]
  state : step.state.provisioner = fresh.state.requesting fresh.result.id

theorem requesting_of_call {token : String} {publicKey : PublicKey} (horderly : activity.Orderly)
    (hstep : activity.step? move = some step)
    (hcall : .signCertificate token publicKey ∈ callsOf step.effects) :
    ∃ fresh, activity.Requesting step fresh ∧ fresh.result.pair.publicKey = publicKey := by
  have hsession {move : Session.Move σ} {inner : Step (Session.Activity σ) Session.Reply}
      (hinner : activity.accounts.activity.step? move = some inner)
      (hcall : .signCertificate token publicKey ∈ callsOf inner.effects) : False := by
    obtain ⟨other, hkeys | hstatus⟩ := Session.Activity.of_mem_callsOf hinner hcall
    · cases hkeys
    · cases hstatus
  have hlooks := activity.session.snapshot_onlyLogs.2.1
  cases allows_of_step? horderly.settled hstep with
  | setClock | answerCertificate | drop => cases hcall
  | session hfree hinner => exact (hsession hinner hcall).elim
  | newEpoch hinner hepoch hextra =>
    rw [callsOf_append, hextra.2.1, List.append_nil] at hcall
    exact (hsession hinner hcall).elim
  | @resume id wait answer hwait hanswer =>
    have hresumes := resume_resumes horderly hwait answer
    generalize activity.resume id wait answer = step at hresumes hcall
    cases hresumes with
    | stale hstale hlogs => simp [hlogs.2.1] at hcall
    | finished hepoch hfinishes => simp [hfinishes.onlyLogs.2.1] at hcall
  | beginAssertion hnew hfree hbegins =>
    cases hbegins with
    | refused => simp [hlooks] at hcall
    | ready hlooked hgets hcertificate hkey hvalid hlogs => simp [hlogs.2.1] at hcall
    | joined hlooked hgets hrequest hkey hlogs => simp [hlogs.2.1] at hcall
    | @requested user other fresh effects hlooked htoken hgets hlogs hnone hidle =>
      have hmade : callsOf (effects ++ [.call (.signCertificate other
          fresh.result.pair.publicKey)]) =
            [.signCertificate other fresh.result.pair.publicKey] := by
        simp [hlogs.2.1]
      change _ ∈ callsOf (effects ++ _) at hcall
      rw [hmade, List.mem_singleton] at hcall
      cases hcall
      exact ⟨fresh, ⟨hgets, hnone, hidle, ⟨_, hmade⟩, rfl⟩, rfl⟩

/-! ### While a key is at hand -/

/-- What a move does that leaves a key at hand. -/
inductive KeepsKey (activity : Activity σ) (key : EphemeralKey) :
    Move σ → Provisioner → Prop
  | idle {move : Move σ} : KeepsKey activity key move activity.provisioner
  | starts {move : Move σ}
      (hidle : (activity.provisioner.inFlight.filter fun request => request.keyId = key.id) =
        none) :
      KeepsKey activity key move (activity.provisioner.requesting key.id)
  | takes {id : CallId} {wait : CertificateWait} {answer : Except RemoteError String}
      {finished : Step Provisioner (Except AccountError String)}
      (hwait : activity.wait? id = some wait)
      (hanswer : (activity.signing? wait.requestId).bind Signing.answer = some answer)
      (hfinishes : activity.provisioner.Finishes activity.accounts.setting wait.key wait.requestId
        answer finished) :
      KeepsKey activity key (.resume id) finished.state

theorem keepsKey_of_step? (horderly : activity.Orderly) (hstep : activity.step? move = some step)
    (hnumbered : key.id ≤ activity.provisioner.lastId)
    (hafter : step.state.provisioner.key = some key) :
    activity.KeepsKey key move step.state.provisioner := by
  have hkept {fresh : Step Provisioner EphemeralKey} {move : Move σ}
      (hgets : activity.provisioner.GetsKey activity.accounts.setting fresh)
      (hafter : fresh.state.key = some key) : activity.KeepsKey key move fresh.state := by
    rw [(hgets.eq_of_numbered hafter hnumbered).1]
    exact .idle
  cases allows_of_step? horderly.settled hstep with
  | session | setClock | answerCertificate | drop => exact .idle
  | newEpoch => cases hafter
  | beginAssertion hnew hfree hbegins =>
    cases hbegins with
    | refused => exact .idle
    | ready hlooked hgets => exact hkept hgets hafter
    | joined hlooked hgets => exact hkept hgets hafter
    | @requested user token fresh effects hlooked htoken hgets hlogs hnone hidle =>
      obtain ⟨hstate, hresult⟩ := hgets.eq_of_numbered hafter hnumbered
      change activity.KeepsKey key _ (fresh.state.requesting fresh.result.id)
      rw [hstate, hresult] at hidle ⊢
      exact .starts hidle
  | @resume id wait answer hwait hanswer =>
    have hresumes := resume_resumes horderly hwait answer
    generalize activity.resume id wait answer = step at hresumes
    cases hresumes with
    | stale => exact .idle
    | finished hepoch hfinishes => exact .takes hwait hanswer hfinishes

/-! ### From one request to the next -/

/-- How far a request for the key at hand has come. -/
inductive Progress (provisioner : Provisioner) (key : EphemeralKey) (requestId : Nat)
    (later : History σ) : Prop
  | outstanding (hrequest : provisioner.inFlight = some ⟨key.id, requestId⟩)
  | failed {taken : Made (Activity σ) (Move σ) Session.Reply} {error : RemoteError}
      (htaken : taken ∈ later) (htakes : Takes taken requestId (.error error))
  | installed {taken : Made (Activity σ) (Move σ) Session.Reply} {certificate held : Certificate}
      (htaken : taken ∈ later) (htakes : Takes taken requestId (.ok certificate.text))
      (hinstalls : Installs taken certificate) (hrequest : certificate.requestId = requestId)
      (hheld : provisioner.certificate = some held) (hkey : held.keyId = key.id)
      (hlasts : certificate.validUntil ≤ held.validUntil)

omit [CredentialStore σ] in
theorem progress_of_answer {answer : Except RemoteError String}
    {finished : Step Provisioner (Except AccountError String)} (hcoherent : activity.Coherent)
    (hkey : activity.provisioner.key = some key)
    (hrequest : activity.provisioner.inFlight = some ⟨key.id, wait.requestId⟩)
    (hwait : activity.wait? id = some wait)
    (hanswer : (activity.signing? wait.requestId).bind Signing.answer = some answer)
    (hfinishes : activity.provisioner.Finishes activity.accounts.setting wait.key wait.requestId
      answer finished) (hstate : step.state.provisioner = finished.state) :
    Progress step.state.provisioner key wait.requestId
      (later ++ [⟨activity, .resume id, step⟩]) := by
  have hmade : (⟨activity, .resume id, step⟩ : Made (Activity σ) (Move σ) Session.Reply) ∈
      later ++ [⟨activity, .resume id, step⟩] := by simp
  have hown : key.id = wait.key.id := hcoherent.joined id wait _ hwait hrequest rfl
  cases hfinishes with
  | refused error => exact .failed hmade ⟨⟨id, wait, rfl, hwait, rfl⟩, hanswer⟩
  | @installed text effects hnew hcurrent hlogs =>
    have hcertificate : step.state.provisioner.certificate =
        some ⟨text, activity.renewal, wait.key.id, wait.requestId⟩ :=
      congrArg Provisioner.certificate hstate
    have hinstalls : Installs ⟨activity, .resume id, step⟩
        ⟨text, activity.renewal, wait.key.id, wait.requestId⟩ :=
      ⟨hcertificate, fun hsame => hnew (congrArg (Option.map Certificate.requestId) hsame)⟩
    exact .installed hmade ⟨⟨id, wait, rfl, hwait, rfl⟩, hanswer⟩ hinstalls rfl hcertificate
      hown.symm (UInt64.le_refl _)
  | kept hkept =>
    rcases hkept with hsame | hother
    · obtain ⟨certificate, hcertificate, hsame⟩ := Option.map_eq_some_iff.1 hsame
      exact absurd hsame (hcoherent.settled certificate _ hcertificate hrequest)
    · rw [hkey] at hother
      exact absurd (congrArg some hown) hother

omit [CredentialStore σ] in
theorem Progress.mono {provisioner : Provisioner} (h : Progress provisioner key requestId past)
    (hlonger : ∀ made ∈ past, made ∈ later) : Progress provisioner key requestId later := by
  cases h with
  | outstanding hrequest => exact .outstanding hrequest
  | failed htaken htakes => exact .failed (hlonger _ htaken) htakes
  | installed htaken htakes hinstalls hrequest hheld hkey hlasts =>
    exact .installed (hlonger _ htaken) htakes hinstalls hrequest hheld hkey hlasts

/-- A request that was settled stays so: what is at hand for the key lasts ever longer. -/
theorem progress_concat (horderly : activity.Orderly) (hcoherent : activity.Coherent)
    (hstep : activity.step? move = some step) (hkey : activity.provisioner.key = some key)
    (hafter : step.state.provisioner.key = some key)
    (hbound : ∀ held, activity.provisioner.certificate = some held →
      held.validUntil ≤ activity.renewal)
    (h : Progress activity.provisioner key requestId later) :
    Progress step.state.provisioner key requestId (later ++ [⟨activity, move, step⟩]) := by
  have hlonger : ∀ made ∈ later, made ∈ later ++ [⟨activity, move, step⟩] := fun made hmade =>
    List.mem_append_left _ hmade
  have hkeeps := keepsKey_of_step? horderly hstep (hcoherent.keyed key hkey) hafter
  generalize hstate : step.state.provisioner = provisioner at hkeeps
  cases hkeeps with
  | idle => exact h.mono hlonger
  | starts hidle =>
    cases h with
    | outstanding hrequest => simp [hrequest] at hidle
    | failed htaken htakes => exact .failed (hlonger _ htaken) htakes
    | installed htaken htakes hinstalls hrequest hheld hown hlasts =>
      exact .installed (hlonger _ htaken) htakes hinstalls hrequest hheld hown hlasts
  | @takes id wait answer finished hwait hanswer hfinishes =>
    cases h with
    | outstanding hrequest =>
      by_cases hid : requestId = wait.requestId
      · subst hid
        rw [← hstate]
        exact progress_of_answer hcoherent hkey hrequest hwait hanswer hfinishes hstate
      · apply Progress.outstanding
        rw [hfinishes.inFlight]
        exact Provisioner.inFlight_withoutRequest_of_ne hrequest hid
    | failed htaken htakes => exact .failed (hlonger _ htaken) htakes
    | @installed taken certificate held htaken htakes hinstalls hrequest hheld hown hlasts =>
      cases hfinishes with
      | refused | kept =>
        refine .installed (hlonger _ htaken) htakes hinstalls hrequest ?_ hown hlasts
        exact (Provisioner.certificate_withoutRequest _ _).trans hheld
      | installed hnew hcurrent =>
        refine .installed (hlonger _ htaken) htakes hinstalls hrequest rfl ?_ ?_
        · rw [hkey] at hcurrent
          exact (Option.some.inj hcurrent).symm
        · exact UInt64.le_trans hlasts (hbound held hheld)

/-- While the key of a request is at hand, the request is outstanding or settled. -/
theorem progress_of_run (hopened : start.Opened)
    (run : Run step? start (past ++ first :: later) finish)
    (hforward : ∀ made ∈ past ++ first :: later, Forward made)
    (hstarts : Starts first key requestId) (hkey : finish.provisioner.key = some key) :
    Progress finish.provisioner key requestId later := by
  refine run.induction_after
    (P := fun later activity => activity.provisioner.key = some key →
      Progress activity.provisioner key requestId later)
    (fun _ => .outstanding hstarts.inFlight) ?_ hkey
  intro between made hmade hsofar hcut hstep hprogress hafter
  have hforward : ∀ other ∈ past ++ first :: between, Forward other := fun other hother =>
    hforward other (hsofar.subset hother)
  have horderly := orderly_of_run hopened hcut
  have hbefore := key_of_numbered horderly hstep hafter (numbered_of_starts hopened hcut hstarts)
  exact progress_concat horderly (coherent_of_run hopened hcut) hstep hbefore hafter
    (fun held hheld => validUntil_le_renewal hopened hcut hforward hheld) (hprogress hbefore)

/-- Between two requests for a key, a call takes the answer to the first, and that was an error or
brought a certificate that has expired when the second is made. -/
theorem settles_before_next {between : History σ} {nextId : Nat}
    {second : Made (Activity σ) (Move σ) Session.Reply} (hopened : start.Opened)
    (run : Run step? start (past ++ first :: between) second.before)
    (hstep : second.before.step? second.move = some second.step)
    (hforward : ∀ made ∈ past ++ first :: between, Forward made)
    (hfirst : Starts first key requestId) (hsecond : Starts second key nextId) :
    ∃ taken ∈ between, Settles taken requestId second.before.accounts.clock := by
  obtain ⟨token, hcalls⟩ := hsecond.call
  obtain ⟨fresh, hrequesting, -⟩ :=
    requesting_of_call (orderly_of_run hopened run) hstep (hcalls ▸ List.mem_singleton_self _)
  -- The second request is for the key that has been at hand since the first.
  have hfresh : fresh.state.key = some key := by
    have hheld := hsecond.held
    rw [show second.after.provisioner = _ from hrequesting.state] at hheld
    exact hheld
  obtain ⟨hstate, rfl⟩ :=
    hrequesting.gets.eq_of_numbered hfresh (numbered_of_starts hopened run hfirst)
  have hnone := hrequesting.none
  have hidle := hrequesting.idle
  rw [hstate] at hfresh hnone hidle
  cases progress_of_run hopened run hforward hfirst hfresh with
  | outstanding hrequest => simp [hrequest] at hidle
  | failed htaken htakes => exact ⟨_, htaken, .failed htakes⟩
  | @installed taken certificate held htaken htakes hinstalls hrequest hheld hown hlasts =>
    refine ⟨taken, htaken, .installed htakes hinstalls hrequest (UInt64.le_trans hlasts ?_)⟩
    simpa [Provisioner.validCertificate?, hheld, hown] using hnone

/-! ### What calls get -/

theorem given_of_answer (hopened : start.Opened) (run : Run step? start history finish)
    {answer : Except RemoteError String}
    (hanswer : (finish.signing? requestId).bind Signing.answer = some answer) :
    Given history requestId answer := by
  suffices hgiven : ∀ signing ∈ finish.signings, ∀ answer, signing.answer = some answer →
      Given history signing.requestId answer by
    obtain ⟨signing, hsigning, hanswer⟩ := Option.bind_eq_some_iff.1 hanswer
    have hid : signing.requestId = requestId := by simpa using List.find?_some hsigning
    rw [← hid]
    exact hgiven signing (List.mem_of_find?_eq_some hsigning) answer hanswer
  refine run.induction (P := fun past activity => ∀ signing ∈ activity.signings, ∀ answer,
    signing.answer = some answer → Given past signing.requestId answer) ?_
    fun past made hpast hstep hbefore => ?_
  · obtain ⟨config, seeds, clock, store, rfl⟩ := hopened.eq
    exact fun signing hsigning => by cases hsigning
  · intro signing hsigning answer hanswer
    rcases answered_of_step? (orderly_of_run hopened hpast) hstep hsigning hanswer with
      hearlier | hmove
    · obtain ⟨other, hother, hmove⟩ := hbefore signing hearlier answer hanswer
      exact ⟨other, List.mem_append_left _ hother, hmove⟩
    · exact ⟨made, by simp, hmove⟩

theorem ends_of_returned (horderly : activity.Orderly) (hstep : activity.step? move = some step)
    (hwait : activity.wait? id = some wait) (hbegins : ¬ move.Begins id)
    (hreturned : (id, result) ∈ returnedOf step.effects) :
    ∃ answer, (activity.signing? wait.requestId).bind Signing.answer = some answer ∧
      Ends activity wait.generation answer result := by
  have hcaller := caller_of_returned horderly hstep hreturned
  have hfree := horderly.alone id wait hwait
  cases allows_of_step? horderly.settled hstep with
  | setClock | answerCertificate | drop => cases hreturned
  | beginAssertion => exact absurd (Option.some.inj hcaller) hbegins
  | session _ hinner =>
    exact absurd (Session.Activity.begins_of_caller hinner hcaller hfree) hbegins
  | newEpoch hinner =>
    exact absurd (Session.Activity.begins_of_caller hinner hcaller hfree) hbegins
  | @resume other held answer hheld hanswer =>
    obtain rfl := Option.some.inj hcaller
    obtain rfl := Option.some.inj (hwait.symm.trans hheld)
    refine ⟨answer, hanswer, ?_⟩
    have hresumes := resume_resumes horderly hwait answer
    generalize activity.resume _ wait answer = step at hresumes hreturned
    cases hresumes with
    | stale hstale hlogs =>
      obtain rfl : result = .error .notSignedIn := by simpa [hlogs.2.2] using hreturned
      exact .moved answer hstale
    | finished hepoch hfinishes =>
      rw [returnedOf_append, hfinishes.onlyLogs.2.2, List.nil_append] at hreturned
      have hresult : result = _ := (Prod.mk.inj (List.mem_singleton.1 hreturned)).2
      cases hfinishes with
      | refused error =>
        rw [hresult]
        exact .failed error hepoch
      | @installed text | @kept text =>
        rw [hresult]
        exact .certified hepoch (Assertion.parse_build text wait.key.pair wait.audience _) rfl

theorem waits_or_over_of_run {begun : Made (Activity σ) (Move σ) Session.Reply}
    (hopened : start.Opened) (run : Run step? start (past ++ begun :: later) finish)
    (hwait : begun.after.wait? id = some wait)
    (hsame : ∀ other ∈ later, ¬ other.move.Begins id) :
    finish.wait? id = some wait ∨ finish.IsOver id := by
  refine run.induction_after
    (P := fun _ activity => activity.wait? id = some wait ∨ activity.IsOver id) (.inl hwait) ?_
  intro between made hmade hsofar hcut hstep hbefore
  exact waits_or_over_step (orderly_of_run hopened hcut) hstep (hsame made hmade) hbefore

/-- A call that has waited for a request ends with the answer to it, unless the epoch has moved. -/
theorem ends_of_wait {begun : Made (Activity σ) (Move σ) Session.Reply} (hopened : start.Opened)
    (run : Run step? start (past ++ begun :: later) made.before)
    (hstep : made.before.step? made.move = some made.step)
    (hbegins : begun.move.Begins id) (hwait : begun.after.wait? id = some wait)
    (hsame : ∀ other ∈ later ++ [made], ¬ other.move.Begins id)
    (hreturned : (id, result) ∈ returnedOf made.step.effects) :
    ∃ answer, Given (past ++ begun :: later) wait.requestId answer ∧
      Ends made.before begun.before.session.epoch answer result := by
  obtain ⟨hpast, hbegin, -⟩ := run.cut
  have horderly := orderly_of_run hopened run
  have hmade := hsame made (by simp)
  have hgeneration : wait.generation = begun.before.session.epoch := by
    have hbefore := orderly_of_run hopened hpast
    rcases waited_of_step? hbefore hbegin hwait with hheld | hbegun
    · exact absurd hbegins (not_begins_of_wait hbefore.settled hbegin hheld)
    · exact hbegun.generation
  rcases waits_or_over_of_run hopened run hwait fun other hother =>
      hsame other (List.mem_append_left _ hother) with hheld | hover
  · obtain ⟨answer, hanswer, hends⟩ := ends_of_returned horderly hstep hheld hmade hreturned
    exact ⟨answer, given_of_answer hopened run hanswer, hgeneration ▸ hends⟩
  · have hcaller := caller_of_returned horderly hstep hreturned
    exact absurd (begins_of_over horderly hstep hover hcaller) hmade

theorem requestId_ne_of_taken {taken : Made (Activity σ) (Move σ) Session.Reply}
    {answer : Except RemoteError String} {request : InFlight} (hopened : start.Opened)
    (run : Run step? start (past ++ taken :: later) finish) (htakes : Takes taken requestId answer)
    (hrequest : finish.provisioner.inFlight = some request) : request.requestId ≠ requestId := by
  obtain ⟨id, wait, hmove, hwait, rfl⟩ := htakes.resumed
  obtain ⟨hpast, htaken, -⟩ := run.cut
  have hnumbered : wait.requestId ≤ taken.before.provisioner.lastId :=
    (orderly_of_run hopened hpast).numbered id wait hwait
  refine run.induction_after
    (P := fun _ activity => ∀ request, activity.provisioner.inFlight = some request →
      request.requestId ≠ wait.requestId) ?_ ?_ request hrequest
  · intro request hrequest
    rcases inFlight_of_step? (orderly_of_run hopened hpast) htaken hrequest with
      ⟨-, hother⟩ | ⟨hnew, -⟩
    · exact hother id wait hmove hwait
    · exact (Nat.ne_of_lt (Nat.lt_of_le_of_lt hnumbered hnew)).symm
  · intro between made hmade hsofar hcut hstep hbefore request hrequest
    rcases inFlight_of_step? (orderly_of_run hopened hcut) hstep hrequest with
      ⟨hheld, -⟩ | ⟨hnew, -⟩
    · exact hbefore request hheld
    · have hlater := Nat.le_trans hnumbered (lastId_before_le_of_run hopened hcut)
      exact (Nat.ne_of_lt (Nat.lt_of_le_of_lt hlater hnew)).symm

theorem not_failed_at_once {audience : String} {error : RemoteError} (horderly : activity.Orderly)
    (hstep : activity.step? (.beginAssertion id audience) = some step) :
    (id, .error (.remoteCall error)) ∉ returnedOf step.effects := by
  intro hreturned
  have hlooks := activity.session.snapshot_onlyLogs.2.2
  cases allows_of_step? horderly.settled hstep with
  | beginAssertion hnew hfree hbegins =>
    cases hbegins with
    | refused other hown =>
      have hsame : .remoteCall error = other := by simpa [hlooks] using hreturned
      exact hown error hsame.symm
    | ready hlooked hgets hcertificate hkey hvalid hlogs => simp [hlogs.2.2] at hreturned
    | joined hlooked hgets hrequest hkey hlogs => simp [hlogs.2.2] at hreturned
    | requested hlooked htoken hgets hlogs => simp [hlogs.2.2] at hreturned

end Activity

/-! ### Sharing -/

/-- What it means that calls share their requests: each request is for a key at hand and is answered
once, the next one for this key is made only when the last is settled, a call that waits for a
request ends with the answer to it, and neither the request nor an error of it reaches a call that
begins after the answer was taken. -/
structure SharesRequests (history : History σ) : Prop where
  started : ∀ made ∈ history, ∀ token publicKey,
    .signCertificate token publicKey ∈ callsOf made.step.effects →
      ∃ key requestId, Starts made key requestId ∧ key.pair.publicKey = publicKey
  answered : ∀ requestId answer other, Given history requestId answer →
    Given history requestId other → other = answer
  settled : ∀ past first between second rest key requestId nextId,
    history = past ++ first :: between ++ second :: rest → Starts first key requestId →
      Starts second key nextId →
        ∃ taken ∈ between, Settles taken requestId second.before.accounts.clock
  shared : ∀ past begun later made rest id wait result,
    history = past ++ begun :: later ++ made :: rest → begun.move.Begins id →
      begun.after.wait? id = some wait → (∀ other ∈ later ++ [made], ¬ other.move.Begins id) →
        (id, result) ∈ returnedOf made.step.effects →
          ∃ answer, Given (past ++ begun :: later) wait.requestId answer ∧
            Ends made.before begun.before.session.epoch answer result
  forgotten : ∀ past taken later begun rest requestId answer id wait,
    history = past ++ taken :: later ++ begun :: rest → Takes taken requestId answer →
      begun.move.Begins id → begun.after.wait? id = some wait → wait.requestId ≠ requestId
  own : ∀ made ∈ history, ∀ id audience error, made.move = .beginAssertion id audience →
    (id, .error (.remoteCall error)) ∉ returnedOf made.step.effects

namespace Activity

variable {start finish : Activity σ} {history : History σ}

/-- While time goes forward, calls share their requests for certificates. -/
theorem requests_are_shared (hopened : start.Opened) (run : Run step? start history finish)
    (hforward : ∀ made ∈ history, Forward made) : SharesRequests history where
  started made hmade token publicKey hcall := by
    obtain ⟨earlier, hearlier, hstep⟩ := run.reached hmade
    obtain ⟨fresh, hrequesting, hkey⟩ :=
      requesting_of_call (orderly_of_run hopened hearlier) hstep hcall
    refine ⟨fresh.result, fresh.state.lastId + 1, ⟨hrequesting.call, ?_, ?_⟩, hkey⟩
    · exact (congrArg Provisioner.key hrequesting.state).trans hrequesting.gets.key
    · exact congrArg Provisioner.inFlight hrequesting.state
  answered requestId answer other hgiven hother := given_unique hopened run hgiven hother
  settled past first between second rest key requestId nextId hhistory hfirst hsecond := by
    subst hhistory
    obtain ⟨hcut, hstep, -⟩ := run.cut
    exact settles_before_next hopened hcut hstep
      (fun other hother => hforward other (List.mem_append_left _ hother)) hfirst hsecond
  shared past begun later made rest id wait result hhistory hbegins hwait hsame hreturned := by
    subst hhistory
    obtain ⟨hcut, hstep, -⟩ := run.cut
    exact ends_of_wait hopened hcut hstep hbegins hwait hsame hreturned
  forgotten past taken later begun rest requestId answer id wait hhistory htakes hbegins hwait := by
    subst hhistory
    obtain ⟨hcut, hstep, -⟩ := run.cut
    have horderly := orderly_of_run hopened hcut
    rcases waited_of_step? horderly hstep hwait with hbefore | hbegun
    · exact absurd hbegins (not_begins_of_wait horderly.settled hstep hbefore)
    · have hreached : Run step? start (past ++ taken :: (later ++ [begun])) begun.after := by
        rw [← List.cons_append, ← List.append_assoc]
        exact run_concat.2 ⟨hcut, hstep, rfl⟩
      exact requestId_ne_of_taken hopened hreached htakes hbegun.inFlight
  own made hmade id audience error hmove := by
    obtain ⟨earlier, hearlier, hstep⟩ := run.reached hmade
    rw [hmove] at hstep
    exact not_failed_at_once (orderly_of_run hopened hearlier) hstep

/-- Two calls share a request that fails, and a third call makes another one for the same key. -/
theorem failed_request_is_shared :
    ∃ finish past between first second returned key,
      Run step? (blank memory)
          (past ++ first :: between ++ second :: [returned]) finish ∧
        Starts first key 2 ∧ Starts second key 3 ∧
        (∃ taken ∈ between, Settles taken 2 second.before.accounts.clock) ∧
        returned.move = .resume 1 ∧
        ∃ answer, Given (past ++ first :: between ++ [second]) 2 answer ∧
          Ends returned.before 1 answer (.error (.remoteCall (.invalidResponse "refused"))) := by
  obtain ⟨finish, run⟩ := run_played step? (blank memory) [
    .session (.signIn { sessionToken := some "token", isVerified := true }),
    .beginAssertion 0 "https://example.com",
    .beginAssertion 1 "https://example.org",
    .answerCertificate 2 (.error (.invalidResponse "refused")),
    .resume 0,
    .beginAssertion 2 "https://example.net",
    .resume 1]
  have hshares : SharesRequests _ := requests_are_shared (blank_opened memory) run (by decide)
  refine ⟨finish, [_], [_, _, _], _, _, _, ⟨1, ⟨List.replicate 32 1⟩, 43200000⟩, run,
    ⟨⟨"token", rfl⟩, rfl, rfl⟩, ⟨⟨"token", rfl⟩, rfl, rfl⟩, ?_, rfl, ?_⟩
  · exact hshares.settled [_] _ [_, _, _] _ [_] _ 2 3 rfl ⟨⟨"token", rfl⟩, rfl, rfl⟩
      ⟨⟨"token", rfl⟩, rfl, rfl⟩
  · refine hshares.shared [_, _] _ [_, _, _] _ [] 1 ⟨1, ⟨1, ⟨List.replicate 32 1⟩, 43200000⟩, 2,
      "https://example.org"⟩ _ rfl rfl rfl ?_ (List.mem_singleton_self _)
    simp [Move.Begins]

end Activity

end AccountManager.Accounts
