import AccountManager.Proofs.Accounts.Epochs

/-!
# Signing out is final

From a sign-out on, whether or not the store could be erased, nobody is signed in until the next
successful sign-in: no user is seen, no call that looks for one gets further, and the provisioner
holds nothing. This is kept by every move, because the calls under way looked at the user before the
sign-out and new ones find nobody.
-/

namespace AccountManager.Accounts

open Storage

variable {σ : Type} [CredentialStore σ]

def SignedIn (made : Made (Activity σ) (Move σ) Session.Reply) : Prop :=
  ∃ record, made.move = .session (.signIn record) ∧ made.step.result = .stored (.ok ())

/-- Whether a call looks for the signed-in user with a move. -/
def Activity.LooksUp (activity : Activity σ) (id : CallId) : Move σ → Prop
  | .session (.beginKeys other) => other = id ∧ activity.accounts.activity.fetching = none
  | .session (.takeTurn other) => other = id
  | .beginAssertion other _ => other = id
  | _ => False

/-- What a move comes to while nobody is signed in: no user is seen, a call that looks for one ends
at once without a call to the service, and the only record that is returned is one that was verified
when its call began. -/
structure Refused (made : Made (Activity σ) (Move σ) Session.Reply) : Prop where
  user : made.move = .session .look → made.step.result = .user (.ok none)
  lookup : ∀ id, made.before.LooksUp id made.move →
    made.step.effects = [.returned id (.error .notSignedIn)]
  returns : ∀ id answer, (id, .ok answer) ∈ returnedOf made.step.effects →
    ∃ record, made.move = .session (.beginVerification id record) ∧ record.isVerified = true ∧
      answer = .record record

namespace Activity

/-- Whether nobody is signed in and nothing is left of the last user. -/
structure SignedOut [LawfulStore σ] (activity : Activity σ) : Prop where
  vacant : activity.session.Vacant
  before : activity.LookedBefore activity.session.epoch
  key : activity.provisioner.key = none
  certificate : activity.provisioner.certificate = none
  inFlight : activity.provisioner.inFlight = none

variable {activity : Activity σ} {move : Move σ} {step : Step (Activity σ) Session.Reply}
  {id : CallId}

theorem SignedOut.absent [LawfulStore σ] (h : activity.SignedOut) :
    activity.accounts.state = .absent := by
  have hkey : activity.accounts.provisioner.key = none := h.key
  unfold Accounts.state Provisioner.state Provisioner.validKey?
  rw [hkey]
  rfl

theorem signedOut_of_signOut [LawfulStore σ] (horderly : activity.Orderly)
    (hbefore : activity.LookedBefore (activity.session.epoch + 1))
    (hstep : activity.step? (.session .signOut) = some step) :
    step.state.SignedOut ∧
      (step.result = .stored (.ok ()) → contents step.state.session.store = none) := by
  have hseen : ∀ user, activity.session.snapshot.result = .ok (some user) →
      activity.session.epoch < activity.session.epoch + 1 := fun user hlooked =>
    Nat.lt_succ_self _
  have hlooked := lookedBefore_step horderly hstep hbefore hseen
  cases allows_of_step? horderly.settled hstep with
  | session hfree hinner hepoch => exact absurd (.signOut _) hepoch
  | @newEpoch _ inner _ hinner hepoch hextra =>
    have hnext : activity.session.epoch + 1 = inner.state.session.epoch :=
      (Session.Activity.epoch_of_beginsEpoch hinner hepoch).symm
    rw [hnext] at hlooked
    cases hinner
    refine ⟨⟨Session.signOut_vacant activity.session, hlooked, rfl, rfl, rfl⟩, fun hresult => ?_⟩
    exact Session.signOut_erases (Session.Reply.stored.inj hresult)

/-! ### From the sign-out on -/

theorem beginAssertion_of_vacant [LawfulStore σ] (hvacant : activity.session.Vacant)
    (hreads : ReadsNothing activity.session.store) (id : CallId) (audience : String) :
    (activity.beginAssertion id audience).effects = [.returned id (.error .notSignedIn)] := by
  have hlooked := hvacant.snapshot hreads
  unfold session at hlooked
  unfold beginAssertion
  simp only [hlooked]
  rfl

/-- What every move does while nobody is signed in. -/
structure KeepsOut [LawfulStore σ] (activity : Activity σ) (move : Move σ)
    (step : Step (Activity σ) Session.Reply) : Prop where
  signedOut : step.state.SignedOut
  refused : Refused ⟨activity, move, step⟩
  erased : move ≠ .session .signOut →
    contents step.state.session.store = contents activity.session.store

theorem SignedOut.forget [LawfulStore σ] (h : activity.SignedOut) (id : CallId) :
    (activity.forget id).SignedOut where
  vacant := h.vacant
  before :=
    ⟨h.before.calls, fun other wait hwait => h.before.waits other wait (wait?_of_forget hwait)⟩
  key := h.key
  certificate := h.certificate
  inFlight := h.inFlight

omit [CredentialStore σ] in
theorem refused_of_no_lookup (hlook : move ≠ .session .look)
    (hlookup : ∀ id, ¬ activity.LooksUp id move)
    (hnone : ∀ id answer, (id, .ok answer) ∉ returnedOf step.effects) :
    Refused ⟨activity, move, step⟩ where
  user hmove := absurd hmove hlook
  lookup id hmove := absurd hmove (hlookup id)
  returns id answer hreturned := absurd hreturned (hnone id answer)

theorem keepsOut_of_beginsAssertion [LawfulStore σ] (hout : activity.SignedOut)
    (hreads : ReadsNothing activity.session.store) {audience : String}
    (hstep : activity.step? (.beginAssertion id audience) = some step)
    (hbegins : activity.BeginsAssertion id audience step) :
    activity.KeepsOut (.beginAssertion id audience) step := by
  have hsnapshot := hout.vacant.snapshot hreads
  have heffects : step.effects = [.returned id (.error .notSignedIn)] := by
    simp only [step?] at hstep
    split at hstep
    · cases hstep
    · cases hstep
      exact beginAssertion_of_vacant hout.vacant hreads id audience
  have hlooked : activity.looked = activity := by
    unfold looked withCalls
    rw [hsnapshot]
    rfl
  have hrefused : Refused ⟨activity, .beginAssertion id audience, step⟩ := by
    refine ⟨fun hmove => (by cases hmove), fun other hother => ?_, fun other answer hreturned => ?_⟩
    · cases hother
      exact heffects
    · simp [heffects] at hreturned
  cases hbegins with
  | ready hfound | joined hfound | requested hfound =>
    rw [hsnapshot] at hfound
    cases hfound
  | refused error =>
    rw [hlooked] at hrefused ⊢
    exact ⟨hout.forget id, hrefused, fun _ => rfl⟩

theorem keepsOut_of_resume [LawfulStore σ] (hout : activity.SignedOut)
    {wait : CertificateWait} (hwait : activity.wait? id = some wait)
    (answer : Except RemoteError String) :
    activity.KeepsOut (.resume id) (activity.resume id wait answer) := by
  have hother : activity.provisioner.inFlight.map InFlight.requestId ≠ some wait.requestId := by
    rw [hout.inFlight]
    exact fun hrequest => by cases hrequest
  have hstale : activity.session.epoch ≠ wait.generation :=
    (Nat.ne_of_lt (hout.before.waits id wait hwait)).symm
  obtain ⟨effects, hlogs, hfinish⟩ := Provisioner.finish_of_stale hstale hother
    activity.accounts.setting wait.key answer
  change activity.accounts.provisioner.finish activity.accounts.setting activity.accounts.epoch
    wait.generation wait.key wait.requestId answer = _ at hfinish
  unfold resume
  simp only [hfinish]
  refine ⟨hout.forget id, ?_, fun _ => rfl⟩
  refine refused_of_no_lookup (fun hmove => by cases hmove) (fun other hlookup => hlookup) ?_
  intro other returned hreturned
  simp [returnAssertion, hlogs.2.2, Except.map] at hreturned

theorem keepsOut_of_session [LawfulStore σ] (hout : activity.SignedOut)
    (hreads : ReadsNothing activity.session.store) {move : Session.Move σ}
    {inner : Step (Session.Activity σ) Session.Reply}
    (hinner : activity.accounts.activity.step? move = some inner)
    (hepoch : ¬ Session.Activity.BeginsEpoch move inner.result) (hquiet : move.KeepsContents)
    (hlooked : (activity.withCalls inner.state).LookedBefore activity.session.epoch) :
    activity.KeepsOut (.session move)
      ⟨inner.result, activity.withCalls inner.state, inner.effects⟩ := by
  have hidle := Session.Activity.idle_of_vacant hinner hepoch hout.vacant hreads hquiet
    fun id user unwrapBKey hwaiting =>
      (Nat.ne_of_lt (hout.before.calls id user unwrapBKey hwaiting)).symm
  have hsame : (activity.withCalls inner.state).session.epoch = activity.session.epoch :=
    Session.Activity.epoch_of_not_beginsEpoch hinner hepoch
  rw [← hsame] at hlooked
  have hout' : (activity.withCalls inner.state).SignedOut :=
    ⟨hout.vacant.of_stays hidle.stays, hlooked, hout.key, hout.certificate, hout.inFlight⟩
  refine ⟨hout', ⟨fun hmove => ?_, fun id hlookup => ?_, fun id answer hreturned => ?_⟩,
    fun _ => hidle.stays.contents⟩
  · cases hmove
    cases hinner
    have hsnapshot := hout.vacant.snapshot hreads
    unfold session at hsnapshot
    rw [hsnapshot]
    rfl
  · apply Session.Activity.effects_of_lookup hinner hout.vacant hreads
    cases move with
    | beginKeys other =>
      obtain ⟨rfl, hfetching⟩ := hlookup
      exact .inl ⟨rfl, hfetching⟩
    | takeTurn other =>
      cases hlookup
      exact .inr rfl
    | _ => exact hlookup.elim
  · obtain ⟨record, rfl, hverified, hanswer⟩ := hidle.returns id answer hreturned
    exact ⟨record, rfl, hverified, hanswer⟩

theorem signedOut_step [LawfulStore σ] (horderly : activity.Orderly) (hout : activity.SignedOut)
    (hreads : ReadsNothing activity.session.store) (hstep : activity.step? move = some step)
    (hquiet : move.KeepsContents) (hsignedIn : ¬ SignedIn ⟨activity, move, step⟩) :
    activity.KeepsOut move step := by
  have hsnapshot := hout.vacant.snapshot hreads
  have hlooked : step.state.LookedBefore activity.session.epoch :=
    lookedBefore_step horderly hstep hout.before fun user hlooked => by
      rw [hsnapshot] at hlooked
      cases hlooked
  have hsilent (id : CallId) (answer : Answer) : (id, .ok answer) ∉ returnedOf [] := by simp
  cases allows_of_step? horderly.settled hstep with
  | setClock now =>
    exact ⟨⟨hout.vacant, hlooked, hout.key, hout.certificate, hout.inFlight⟩,
      refused_of_no_lookup (fun hmove => by cases hmove) (fun _ hlookup => hlookup) hsilent,
      fun _ => rfl⟩
  | answerCertificate hheld answer =>
    exact ⟨⟨hout.vacant, hlooked, hout.key, hout.certificate, hout.inFlight⟩,
      refused_of_no_lookup (fun hmove => by cases hmove) (fun _ hlookup => hlookup) hsilent,
      fun _ => rfl⟩
  | drop hwait =>
    exact ⟨hout.forget _, refused_of_no_lookup (fun hmove => by cases hmove)
      (fun _ hlookup => hlookup) hsilent, fun _ => rfl⟩
  | beginAssertion hnew hfree hbegins => exact keepsOut_of_beginsAssertion hout hreads hstep hbegins
  | resume hwait hanswer => exact keepsOut_of_resume hout hwait _
  | session hfree hinner hepoch =>
    exact keepsOut_of_session hout hreads hinner hepoch hquiet hlooked
  | @newEpoch _ inner extra hinner hepoch hextra =>
    rcases hepoch.eq with ⟨record, rfl, hresult⟩ | rfl
    · exact absurd ⟨record, rfl, hresult⟩ hsignedIn
    · have hbefore := hout.before.mono (Nat.le_succ activity.session.epoch)
      refine ⟨(signedOut_of_signOut horderly hbefore hstep).1, ?_, fun hmove => absurd rfl hmove⟩
      refine refused_of_no_lookup (fun hmove => by cases hmove) (fun _ hlookup => hlookup) ?_
      intro id answer hreturned
      cases hinner
      simp [Session.returnedOf_signOut, hextra.2.2] at hreturned

/-! ### Runs -/

/-- Nobody is signed in until somebody signs in, and what a store holds no longer stays away. -/
theorem signedOut_of_run [LawfulStore σ] {finish : Activity σ} {history : History σ}
    (run : Run step? activity history finish) (horderly : activity.Orderly)
    (hout : activity.SignedOut) (hsignedIn : ∀ made ∈ history, ¬ SignedIn made)
    (hquiet : ∀ made ∈ history, made.move.KeepsContents)
    (hreads : ∀ made ∈ history, ReadsNothing made.before.session.store) :
    finish.SignedOut ∧ (∀ made ∈ history, Refused made) ∧
      ((∀ made ∈ history, made.move ≠ .session .signOut) →
        contents finish.session.store = contents activity.session.store) := by
  induction history generalizing activity with
  | nil =>
    obtain rfl : activity = finish := run
    exact ⟨hout, fun made hmade => (by cases hmade), fun _ => rfl⟩
  | cons made rest ih =>
    obtain ⟨rfl, hstep, hrest⟩ := run
    have hkeeps := signedOut_step horderly hout (hreads made List.mem_cons_self) hstep
      (hquiet made List.mem_cons_self) (hsignedIn made List.mem_cons_self)
    obtain ⟨hfinish, hrefused, herased⟩ := ih hrest (orderly_step hstep horderly) hkeeps.signedOut
      (fun other hother => hsignedIn other (List.mem_cons_of_mem made hother))
      (fun other hother => hquiet other (List.mem_cons_of_mem made hother))
      (fun other hother => hreads other (List.mem_cons_of_mem made hother))
    refine ⟨hfinish, ?_, fun hnone => ?_⟩
    · intro other hother
      rcases List.mem_cons.1 hother with rfl | hother
      · exact hkeeps.refused
      · exact hrefused other hother
    · rw [herased fun other hother => hnone other (List.mem_cons_of_mem made hother)]
      exact hkeeps.erased (hnone made List.mem_cons_self)

/-- After a sign-out, also one whose erase failed, and whatever happens up to the next successful
sign-in: nobody is signed in, the provisioner is absent and holds nothing, no call that looks for a
user succeeds or reaches the service, no unverified record is reported as verified, and a store that
the last sign-out erased stays empty. -/
theorem sign_out_is_final [LawfulStore σ] {start finish : Activity σ} {past later : History σ}
    {signOut : Made (Activity σ) (Move σ) Session.Reply} (hopened : start.Opened)
    (run : Run step? start (past ++ signOut :: later) finish)
    (hsignOut : signOut.move = .session .signOut) (hsignedIn : ∀ made ∈ later, ¬ SignedIn made)
    (hquiet : ∀ made ∈ later, made.move.KeepsContents)
    (hreads : ∀ made ∈ later, ReadsNothing made.before.session.store)
    (hfinish : ReadsNothing finish.session.store) :
    finish.session.snapshot.result = .ok none ∧ finish.accounts.state = .absent ∧
      finish.provisioner.key = none ∧ finish.provisioner.certificate = none ∧
      finish.provisioner.inFlight = none ∧ (∀ made ∈ later, Refused made) ∧
      ((∀ made ∈ later, made.move ≠ .session .signOut) →
        signOut.step.result = .stored (.ok ()) → contents finish.session.store = none) := by
  obtain ⟨hpast, hstep, hlater⟩ := run.cut
  rw [hsignOut] at hstep
  have horderly := orderly_of_run hopened hpast
  obtain ⟨hafter, herases⟩ :=
    signedOut_of_signOut horderly (lookedBefore_of_run hopened hpast) hstep
  obtain ⟨hout, hrefused, hstays⟩ := signedOut_of_run hlater (orderly_step hstep horderly) hafter
    hsignedIn hquiet hreads
  refine ⟨?_, hout.absent, hout.key, hout.certificate, hout.inFlight, hrefused, ?_⟩
  · rw [hout.vacant.snapshot hfinish]
  · intro hlast herased
    rw [hstays hlast]
    exact herases herased

/-- A user signs out, the erase fails, and the calls that come after see nobody. -/
theorem failed_erase_is_final :
    ∃ finish past later, ∃ signOut :
        Made (Activity (RefusingCredentials (BlobCredentials MemoryBlobs))) (Move _) Session.Reply,
      Run step? (blank ⟨memory, none, none, some "busy"⟩)
          (past ++ signOut :: later) finish ∧
        signOut.step.result = .stored (.error (.blob (.other "busy"))) ∧
        later.map Made.move =
          [.session (.beginKeys 0), .session .evict, .beginAssertion 1 "https://example.com"] ∧
        contents signOut.after.session.store = some (.ok { uid := some "uid" }) ∧
        finish.session.snapshot.result = .ok none ∧ ∀ made ∈ later, Refused made := by
  obtain ⟨finish, run⟩ := run_played step?
    (blank (RefusingCredentials.mk memory none none (some "busy"))) [
    .session (.signIn { uid := some "uid" }),
    .session .signOut,
    .session (.beginKeys 0),
    .session .evict,
    .beginAssertion 1 "https://example.com"]
  refine ⟨finish, [_], [_, _, _], _, run, rfl, rfl,
    @contents_of_put_eq_ok _ _ _ ⟨memory, none, none, some "busy"⟩ _ _ rfl, ?_⟩
  have hreads (store : RefusingCredentials (BlobCredentials MemoryBlobs))
      (hallowed : store.getRefusal = none) : ReadsNothing store :=
    RefusingCredentials.readsNothing hallowed (BlobCredentials.readsNothing store.store)
  refine And.imp_right (fun hrest => hrest.2.2.2.2.1)
    (@sign_out_is_final _ _ _ _ _ [_] [_, _, _] _ (blank_opened _) run rfl ?_ ?_ ?_ ?_)
  · rintro made hmade ⟨record, hmove, -⟩
    simp only [List.mem_cons, List.not_mem_nil, or_false] at hmade
    rcases hmade with rfl | rfl | rfl <;> cases hmove
  · intro made hmade
    simp only [List.mem_cons, List.not_mem_nil, or_false] at hmade
    rcases hmade with rfl | rfl | rfl <;> trivial
  · intro made hmade
    simp only [List.mem_cons, List.not_mem_nil, or_false] at hmade
    rcases hmade with rfl | rfl | rfl <;> exact hreads _ rfl
  · obtain ⟨-, -, -, -, -, -, -, -, -, -, rfl⟩ := run
    exact hreads _ rfl

end Activity

end AccountManager.Accounts
