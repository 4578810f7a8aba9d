import AccountManager.Proofs.Accounts.Provenance
import AccountManager.Proofs.Accounts.Waiting
import AccountManager.Proofs.Session.Lateness

/-!
# Lifetimes of keys

Whether a key may still be used is decided when a call for an assertion begins. A call that is
answered at once signs at that time too. A call that waits for its certificate signs later, with the
key that was at hand when it began: by then that key may have expired, and only if it has may
another one have taken its place.
-/

namespace AccountManager.Accounts

open Storage

variable {σ : Type} [CredentialStore σ]

namespace Activity

variable {activity start finish : Activity σ} {move : Move σ} {past : History σ}
  {step : Step (Activity σ) Session.Reply} {id : CallId} {text : String}
  {made : Made (Activity σ) (Move σ) Session.Reply}

/-- The ways to sign an assertion: with the key that was got when the call began, or with the one
that the call has remembered. -/
inductive Signs (activity : Activity σ) (id : CallId) (text : String) :
    Move σ → Step (Activity σ) Session.Reply → Prop
  | atOnce {audience certificate : String} {fresh : Step Provisioner EphemeralKey}
      {step : Step (Activity σ) Session.Reply}
      (hfresh : activity.provisioner.GetsKey activity.accounts.setting fresh)
      (hkey : step.state.provisioner.key = some fresh.result)
      (htext : text = assertionOf activity.accounts fresh.result audience certificate) :
      activity.Signs id text (.beginAssertion id audience) step
  | later {certificate : String} {wait : CertificateWait}
      {answer : Except RemoteError String} (hwait : activity.wait? id = some wait)
      (hepoch : activity.session.epoch = wait.generation)
      (htext : text = assertionOf activity.accounts wait.key wait.audience certificate) :
      activity.Signs id text (.resume id) (activity.resume id wait answer)

theorem signs_of_beginsAssertion {other : CallId} {audience : String}
    (hbegins : activity.BeginsAssertion other audience step)
    (hreturned : (id, .ok (.assertion text)) ∈ returnedOf step.effects) :
    activity.Signs id text (.beginAssertion other audience) step := by
  cases hbegins with
  | refused error => simp [activity.session.snapshot_onlyLogs.2.2] at hreturned
  | joined hlooked hfresh hrequest hkey hlogs => simp [hlogs.2.2] at hreturned
  | requested hlooked htoken hfresh hlogs => simp [hlogs.2.2] at hreturned
  | ready hlooked hfresh hcertificate hkey hvalid hlogs =>
    simp only [returnedOf_append, hlogs.2.2, returnedOf_cons, returnedOf_nil, List.append_nil,
      List.nil_append, List.mem_singleton, Prod.mk.injEq, Except.ok.injEq,
      Answer.assertion.injEq] at hreturned
    obtain ⟨rfl, htext⟩ := hreturned
    exact .atOnce hfresh hfresh.key htext

omit [CredentialStore σ] in
theorem signs_of_resume {other : CallId} {wait : CertificateWait}
    {answer : Except RemoteError String} (horderly : activity.Orderly)
    (hwait : activity.wait? other = some wait)
    (hreturned : (id, .ok (.assertion text)) ∈
      returnedOf (activity.resume other wait answer).effects) :
    activity.Signs id text (.resume other) (activity.resume other wait answer) := by
  suffices hsigned : id = other ∧ activity.session.epoch = wait.generation ∧
      ∃ certificate, text = assertionOf activity.accounts wait.key wait.audience certificate by
    obtain ⟨rfl, hepoch, certificate, htext⟩ := hsigned
    exact .later hwait hepoch htext
  have hresumes := resume_resumes horderly hwait answer
  generalize activity.resume other wait answer = step at hresumes hreturned
  cases hresumes with
  | stale hstale hlogs => simp [hlogs.2.2] at hreturned
  | @finished finished hepoch hfinishes =>
    rw [returnedOf_append, hfinishes.onlyLogs.2.2, List.nil_append] at hreturned
    simp only [returnedOf_cons, returnedOf_nil, List.append_nil, List.mem_singleton,
      Prod.mk.injEq] at hreturned
    obtain ⟨rfl, hresult⟩ := hreturned
    cases hfinished : finished.result with
    | error error =>
      rw [hfinished] at hresult
      cases hresult
    | ok certificate =>
      rw [hfinished] at hresult
      cases hresult
      exact ⟨rfl, hepoch, certificate, rfl⟩

/-- An assertion that is returned was signed in one of the two ways. -/
theorem signs_of_returned (horderly : activity.Orderly) (hstep : activity.step? move = some step)
    (hreturned : (id, .ok (.assertion text)) ∈ returnedOf step.effects) :
    activity.Signs id text move step := by
  cases allows_of_step? horderly.settled hstep with
  | setClock | answerCertificate | drop => cases hreturned
  | beginAssertion hnew hfree hbegins => exact signs_of_beginsAssertion hbegins hreturned
  | resume hwait hanswer => exact signs_of_resume horderly hwait hreturned
  | session hfree hinner hepoch =>
    obtain ⟨-, returned, hrecord⟩ := Session.Activity.of_returned hinner hreturned
    cases returned <;> cases hrecord
  | newEpoch hinner hepoch hextra =>
    rw [returnedOf_append, hextra.2.2, List.append_nil] at hreturned
    obtain ⟨-, returned, hrecord⟩ := Session.Activity.of_returned hinner hreturned
    cases returned <;> cases hrecord

/-- Whether a key that is generated now gets its whole lifetime. -/
def HasRoom (activity : Activity σ) : Prop :=
  activity.accounts.clock.toNat + activity.accounts.config.keyLifetime.toNat < UInt64.size

omit [CredentialStore σ] in
instance (activity : Activity σ) : Decidable activity.HasRoom := inferInstanceAs (Decidable (_ < _))

/-- An assertion is signed with the key that was at hand when the call began, and that could be used
then. Unless it has expired by the time at which the assertion is signed, this key is still at
hand. -/
theorem signed_with_key_at_hand (hopened : start.Opened)
    (run : Run step? start (past ++ [made]) finish)
    (hforward : ∀ other ∈ past ++ [made], Forward other)
    (hroom : ∀ other ∈ past ++ [made], other.before.HasRoom)
    (hreturned : (id, .ok (.assertion text)) ∈ returnedOf made.step.effects) :
    ∃ begun audience key certificate,
      LastOf (fun other => other.move.Begins id) (past ++ [made]) begun ∧
        begun.move = .beginAssertion id audience ∧
        text = assertionOf made.before.accounts key audience certificate ∧
        begun.after.provisioner.key = some key ∧
        begun.before.accounts.clock < key.validUntil ∧
        (made.before.accounts.clock < key.validUntil → finish.provisioner.key = some key) := by
  obtain ⟨hpast, hstep, rfl⟩ := run_concat.1 run
  have horderly := orderly_of_run hopened hpast
  have hmade : made ∈ past ++ [made] := by simp
  have hvalid {begun : Made (Activity σ) (Move σ) Session.Reply}
      {fresh : Step Provisioner EphemeralKey} (hbegun : begun ∈ past ++ [made])
      (hfresh : begun.before.provisioner.GetsKey begun.before.accounts.setting fresh) :
      begun.before.accounts.clock < fresh.result.validUntil := by
    obtain ⟨earlier, hearlier, -⟩ := run.reached hbegun
    have hlifetimes := hopened.lifetimes
    rw [← (setup_of_run hopened hearlier).1] at hlifetimes
    exact hfresh.valid (hroom begun hbegun) (UInt64.lt_trans hlifetimes.1 hlifetimes.2)
  have hsigns := signs_of_returned horderly hstep hreturned
  generalize hmove : made.move = move at hsigns
  generalize hresult : made.step = step at hsigns
  cases hsigns with
  | @atOnce audience certificate fresh step hfresh hkey htext =>
    have hbegins : made.move.Begins id := by
      rw [hmove]
      rfl
    subst hresult
    exact ⟨made, audience, fresh.result, certificate, .of_concat past hbegins, hmove, htext, hkey,
      hvalid hmade hfresh, fun _ => hkey⟩
  | @later certificate wait answer hwait hepoch htext =>
    obtain ⟨begun, hlast, hbegun⟩ := begun_of_wait hopened hpast hwait
    have hresumes : ¬ made.move.Begins id := by
      rw [hmove]
      exact fun hbegins => hbegins
    have hlast := hlast.concat hresumes
    obtain ⟨fresh, hfresh, hfreshKey⟩ := hbegun.fresh
    refine ⟨begun, wait.audience, wait.key, certificate, hlast, hbegun.move, htext, hbegun.key,
      hfreshKey ▸ hvalid hlast.mem hfresh, ?_⟩
    have hretains : made.before.Retains wait.key :=
      retains_of_wait hopened hpast (fun other hother => hforward other (by simp [hother])) hwait
        hepoch.symm
    -- Taking an answer leaves the clock alone, so the key is still at hand afterwards.
    have hsame : made.after.session.epoch = made.before.session.epoch := by
      rw [Made.after, hresult]
      rfl
    have hclock : made.after.accounts.clock = made.before.accounts.clock := by
      rw [Made.after, hresult]
      rfl
    rw [← hclock]
    exact retains_step horderly hstep (hforward made hmade) hsame hretains

/-- A certificate that comes in time is used with the key at hand. -/
theorem timely_assertion_is_signed_with_key_at_hand :
    ∃ finish past key,
      ∃ made : Made (Activity (BlobCredentials MemoryBlobs)) (Move _) Session.Reply,
        Run step? (blank memory) (past ++ [made]) finish ∧
          (0, .ok (.assertion (assertionOf made.before.accounts key "https://example.com"
            "certificate"))) ∈ returnedOf made.step.effects ∧
          made.before.accounts.clock < key.validUntil ∧ finish.provisioner.key = some key := by
  obtain ⟨finish, run⟩ := run_played step? (blank memory) [
    .session (.signIn { sessionToken := some "token", isVerified := true }),
    .beginAssertion 0 "https://example.com",
    .setClock 43199999,
    .answerCertificate 2 (.ok "certificate"),
    .resume 0]
  refine ⟨finish, [_, _, _, _], ⟨1, ⟨List.replicate 32 1⟩, 43200000⟩, _, run,
    List.mem_singleton_self _, by decide, ?_⟩
  obtain ⟨begun, audience, key, certificate, hlast, hmove, -, hkey, -, hkept⟩ :=
    @signed_with_key_at_hand _ _ _ _ [_, _, _, _] 0 _ _ (blank_opened _) run (by decide)
      (by decide) (List.mem_singleton_self _)
  have hbegun := hlast.mem
  simp only [List.cons_append, List.nil_append, List.mem_cons, List.not_mem_nil,
    or_false] at hbegun
  rcases hbegun with rfl | rfl | rfl | rfl | rfl
  · cases hmove
  · obtain rfl : key = ⟨1, ⟨List.replicate 32 1⟩, 43200000⟩ :=
      Option.some.inj (hkey.symm.trans rfl)
    exact hkept (by decide)
  all_goals cases hmove

/-- A certificate that comes too late is used all the same: the assertion is signed when the only
key there is has expired. -/
theorem late_assertion_is_signed_with_expired_key :
    ∃ finish past key,
      ∃ made : Made (Activity (BlobCredentials MemoryBlobs)) (Move _) Session.Reply,
        Run step? (blank memory) (past ++ [made]) finish ∧
          (∀ other ∈ past ++ [made], Forward other ∧ other.before.HasRoom) ∧
          (0, .ok (.assertion (assertionOf made.before.accounts key "https://example.com"
            "certificate"))) ∈ returnedOf made.step.effects ∧
          finish.provisioner.key = some key ∧ ¬ made.before.accounts.clock < key.validUntil := by
  obtain ⟨finish, run⟩ := run_played step? (blank memory) [
    .session (.signIn { sessionToken := some "token", isVerified := true }),
    .beginAssertion 0 "https://example.com",
    .setClock 43200000,
    .answerCertificate 2 (.ok "certificate"),
    .resume 0]
  refine ⟨finish, [_, _, _, _], ⟨1, ⟨List.replicate 32 1⟩, 43200000⟩, _, run, by decide,
    List.mem_singleton_self _, ?_, by decide⟩
  obtain ⟨-, -, -, -, -, -, -, -, -, -, rfl⟩ := run
  rfl

end Activity

end AccountManager.Accounts
