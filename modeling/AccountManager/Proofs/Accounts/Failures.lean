import AccountManager.Proofs.Accounts.Waiting
import AccountManager.Proofs.Session.Failures

/-!
# Calls of an account manager that fail

A sign-in that the store refuses leaves everything as it was. A call that fails has written nothing,
sent no event and installed no certificate in any of its moves: whatever does that ends the call
well, and a call ends once.
-/

namespace AccountManager.Accounts

open Storage

variable {σ γ : Type} [CredentialStore σ] {held : σ → γ}

/-- What a move comes to that writes nothing, tells nobody anything and installs no certificate. -/
structure Untouched (held : σ → γ) (before after : Activity σ) (effects : List Effect) :
    Prop where
  session : Session.Untouched held before.session after.session effects
  certificate : ∀ certificate, after.provisioner.certificate = some certificate →
    before.provisioner.certificate = some certificate

/-- What a move comes to that the store refuses: nothing, beside what the store does to itself. -/
def RefusesRecord (held : σ → γ) (made : Made (Activity σ) (Move σ) Session.Reply) : Prop :=
  made.step.effects = [] ∧ ∃ store, held store = held made.before.session.store ∧
    made.after = made.before.withCalls
      { made.before.accounts.activity with session := { made.before.session with store } }

namespace Activity

variable {activity start finish : Activity σ} {move : Move σ} {history past later : History σ}
  {step : Step (Activity σ) Session.Reply} {made : Made (Activity σ) (Move σ) Session.Reply}
  {id : CallId} {result : Except AccountError Answer}

theorem refused_of_signIn (hkept : KeptOnRefusal held) {record : CredentialRecord}
    {error : StorageError} (hstep : activity.step? (.session (.signIn record)) = some step)
    (hresult : step.result = .stored (.error error)) :
    RefusesRecord held ⟨activity, .session (.signIn record), step⟩ := by
  change activity.moveSession? (.signIn record) = some step at hstep
  unfold moveSession? Session.Activity.step? at hstep
  dsimp only at hstep
  cases hsigned : (activity.accounts.activity.session.signIn record).result with
  | ok done =>
    rw [hsigned] at hstep
    cases hstep
    cases hresult
  | error refusal =>
    obtain ⟨store, hheld, heq⟩ := Session.of_signIn_eq_error hkept hsigned
    rw [heq] at hstep
    cases hstep
    exact ⟨rfl, store, hheld, rfl⟩

theorem untouched_looked (held : σ → γ) (activity : Activity σ) {effects : List Effect}
    (hevents : eventsOf effects = []) {provisioner : Provisioner}
    (hcertificate : ∀ certificate, provisioner.certificate = some certificate →
      activity.provisioner.certificate = some certificate) :
    Untouched held activity (activity.looked.withProvisioner provisioner) effects :=
  ⟨Session.untouched_of_loads activity.session.snapshot_loads hevents, hcertificate⟩

theorem untouched_or_succeeds_of_begins {audience : String}
    (hbegins : activity.BeginsAssertion id audience step) :
    Untouched held activity step.state step.effects ∨
      ∃ answer, returnedOf step.effects = [(id, .ok answer)] := by
  cases hbegins with
  | refused error =>
    left
    have hevents := activity.session.snapshot_onlyLogs.1
    exact ⟨Session.untouched_of_loads activity.session.snapshot_loads (by simp [hevents]),
      fun certificate hheld => hheld⟩
  | ready hlooked hfresh hcertificate hkey hvalid hlogs =>
    exact .inr ⟨_, by rw [returnedOf_append, hlogs.2.2]; rfl⟩
  | joined hlooked hfresh hrequest hkey hlogs =>
    have huntouched := untouched_looked held activity hlogs.1
      fun certificate => hfresh.certificate
    exact .inl ⟨huntouched.session, huntouched.certificate⟩
  | requested hlooked htoken hfresh hlogs =>
    have huntouched := untouched_looked held activity hlogs.1
      fun certificate => hfresh.certificate
    exact .inl ⟨huntouched.session.append rfl, huntouched.certificate⟩

theorem untouched_or_succeeds_of_resumes {wait : CertificateWait}
    {answer : Except RemoteError String} (hresumes : activity.Resumes id wait answer step) :
    Untouched held activity step.state step.effects ∨
      ∃ answer, returnedOf step.effects = [(id, .ok answer)] := by
  cases hresumes with
  | stale hstale hlogs =>
    exact .inl ⟨Session.untouched_of_loads (.inl rfl) (by simp [hlogs.1]),
      fun certificate hheld => hheld⟩
  | finished hepoch hfinishes =>
    have hlogs := hfinishes.onlyLogs
    cases hfinishes with
    | refused error =>
      refine .inl ⟨Session.untouched_of_loads (.inl rfl) rfl, fun certificate hheld => ?_⟩
      exact (Provisioner.certificate_withoutRequest _ _).symm.trans hheld
    | installed | kept => exact .inr ⟨_, by rw [returnedOf_append, hlogs.2.2]; rfl⟩

/-- A move of a call leaves everything as it was, or the call ends well with it. -/
theorem untouched_or_succeeds (hkept : KeptOnRefusal held) (horderly : activity.Orderly)
    (hstep : activity.step? move = some step) (hcaller : move.caller? = some id) :
    Untouched held activity step.state step.effects ∨
      ∃ answer, returnedOf step.effects = [(id, .ok answer)] := by
  cases allows_of_step? horderly.settled hstep with
  | setClock | answerCertificate => cases hcaller
  | newEpoch hinner hepoch =>
    rw [show Move.caller? (.session _) = none from hepoch.caller?_eq_none] at hcaller
    cases hcaller
  | session hfree hinner hepoch =>
    exact (Session.Activity.untouched_or_succeeds hkept hinner hcaller).imp_left
      fun huntouched => ⟨huntouched, fun certificate hheld => hheld⟩
  | drop =>
    exact .inl ⟨Session.untouched_of_loads (.inl rfl) rfl, fun certificate hheld => hheld⟩
  | beginAssertion hnew hfree hbegins =>
    cases hcaller
    exact untouched_or_succeeds_of_begins hbegins
  | @resume _ wait answer hwait hanswer =>
    cases hcaller
    exact untouched_or_succeeds_of_resumes (resume_resumes horderly hwait answer)

/-! ### A call ends once -/

theorem over_of_returned (horderly : activity.Orderly) (hstep : activity.step? move = some step)
    (hreturned : (id, result) ∈ returnedOf step.effects) : step.state.IsOver id := by
  have hforgotten {activity : Activity σ} : (activity.forget id).wait? id = none := by
    rw [wait?_forget, if_pos rfl]
  have hnext := orderly_step hstep horderly
  have hcaller := caller_of_returned horderly hstep hreturned
  cases allows_of_step? horderly.settled hstep with
  | setClock | answerCertificate => cases hcaller
  | drop => cases hreturned
  | newEpoch hinner hepoch =>
    rw [show Move.caller? (.session _) = none from hepoch.caller?_eq_none] at hcaller
    cases hcaller
  | session hfree hinner hepoch =>
    refine ⟨Option.eq_none_iff_forall_ne_some.2 fun wait hwait => ?_,
      Session.Activity.over_of_returned hinner hreturned⟩
    have hnew := hfree id (Session.Activity.begins_of_caller hinner hcaller
      (horderly.alone id wait hwait))
    rw [show activity.wait? id = some wait from hwait] at hnew
    cases hnew
  | beginAssertion hnew hfree hbegins =>
    cases hcaller
    cases hbegins with
    | refused | ready => exact ⟨hforgotten, hfree⟩
    | joined hlooked hfresh hrequest hkey hlogs => simp [hlogs.2.2] at hreturned
    | requested hlooked htoken hfresh hlogs => simp [hlogs.2.2] at hreturned
  | resume hwait =>
    cases hcaller
    exact ⟨hforgotten, horderly.alone id _ hwait⟩

theorem silent_of_over (run : Run step? start history finish) (horderly : start.Orderly)
    (hover : start.IsOver id) (hsame : ∀ other ∈ history, ¬ other.move.Begins id) :
    ∀ other ∈ history, other.move.caller? ≠ some id := by
  induction history generalizing start with
  | nil => exact fun other hother => by cases hother
  | cons made rest ih =>
    obtain ⟨rfl, hstep, hrest⟩ := run
    have hcaller : made.move.caller? ≠ some id := fun hcaller =>
      hsame made List.mem_cons_self (begins_of_over horderly hstep hover hcaller)
    obtain ⟨hwait, hwaiting⟩ := same_of_not_caller horderly hstep hcaller
    have hlater := ih hrest (orderly_step hstep horderly)
      ⟨hwait.trans hover.1, hwaiting.trans hover.2⟩
      fun other hother => hsame other (List.mem_cons_of_mem made hother)
    intro other hother
    rcases List.mem_cons.1 hother with rfl | hother
    · exact hcaller
    · exact hlater other hother

theorem silent_of_returned (hopened : start.Opened)
    (run : Run step? start (past ++ made :: later) finish)
    (hreturned : (id, result) ∈ returnedOf made.step.effects)
    (hsame : ∀ other ∈ later, ¬ other.move.Begins id) :
    ∀ other ∈ later, other.move.caller? ≠ some id := by
  obtain ⟨hpast, hstep, hlater⟩ := run.cut
  have horderly := orderly_of_run hopened hpast
  exact silent_of_over hlater (orderly_step hstep horderly)
    (over_of_returned horderly hstep hreturned) hsame

/-- A call makes no move after the one with which it returns. -/
theorem last_of_returned {begun : Made (Activity σ) (Move σ) Session.Reply}
    (hopened : start.Opened) (run : Run step? start (past ++ begun :: later) finish)
    (hsame : ∀ other ∈ later, ¬ other.move.Begins id) (hmade : made ∈ begun :: later)
    (hreturned : (id, result) ∈ returnedOf made.step.effects) :
    LastOf (fun other => other.move.caller? = some id) (begun :: later) made := by
  obtain ⟨before, after, hcut⟩ := List.append_of_mem hmade
  have hlater : ∀ other ∈ after, other ∈ later := by
    rcases List.cons_eq_append_iff.1 hcut with ⟨-, hfirst⟩ | ⟨between, -, rfl⟩
    · rw [(List.cons.inj hfirst).2]
      exact fun other hother => hother
    · exact fun other hother => by simp [hother]
  rw [hcut, ← List.append_assoc] at run
  obtain ⟨hbefore, hstep, -⟩ := run.cut
  refine ⟨before, after, hcut, ?_, ?_⟩
  · exact caller_of_returned (orderly_of_run hopened hbefore) hstep hreturned
  · exact silent_of_returned hopened run hreturned fun other hother =>
      hsame other (hlater other hother)

theorem untouched_of_failed {begun failed : Made (Activity σ) (Move σ) Session.Reply}
    {error : AccountError} (hkept : KeptOnRefusal held) (hopened : start.Opened)
    (run : Run step? start (past ++ begun :: later) finish)
    (hsame : ∀ other ∈ later, ¬ other.move.Begins id) (hfailed : failed ∈ begun :: later)
    (hreturned : (id, .error error) ∈ returnedOf failed.step.effects)
    (hmade : made ∈ begun :: later) (hcaller : made.move.caller? = some id) :
    Untouched held made.before made.after made.step.effects := by
  obtain ⟨earlier, hearlier, hstep⟩ := run.reached (List.mem_append_right past hmade)
  have horderly := orderly_of_run hopened hearlier
  refine (untouched_or_succeeds hkept horderly hstep hcaller).resolve_right ?_
  rintro ⟨answer, hsucceeds⟩
  have hended : (id, .ok answer) ∈ returnedOf made.step.effects := by simp [hsucceeds]
  have hlast := last_of_returned hopened run hsame hmade hended
  have hlastToo := last_of_returned hopened run hsame hfailed hreturned
  obtain rfl := hlast.unique hlastToo
  rw [hsucceeds] at hreturned
  cases List.mem_singleton.1 hreturned

/-- Failures leave no trace. A sign-in that the store refuses changes nothing but what the store
does to itself; and a call that fails has neither written nor told anybody anything in any of its
moves, nor begun an epoch, nor installed a certificate, nor touched the cached record, unless it
loaded the stored one into the empty cache. -/
theorem failures_leave_no_trace (hkept : KeptOnRefusal held) (hopened : start.Opened)
    (run : Run step? start history finish) :
    (∀ made ∈ history, ∀ record error, made.move = .session (.signIn record) →
      made.step.result = .stored (.error error) → RefusesRecord held made) ∧
    ∀ id error past begun later, history = past ++ begun :: later →
      (∀ other ∈ later, ¬ other.move.Begins id) →
        (∃ failed ∈ begun :: later, (id, .error error) ∈ returnedOf failed.step.effects) →
          ∀ made ∈ begun :: later, made.move.caller? = some id →
            Untouched held made.before made.after made.step.effects := by
  constructor
  · rintro ⟨before, move, step⟩ hmade record error rfl hresult
    obtain ⟨earlier, -, hstep⟩ := run.reached hmade
    exact refused_of_signIn hkept hstep hresult
  · rintro id error past begun later rfl hsame ⟨failed, hfailed, hreturned⟩ made hmade hcaller
    exact untouched_of_failed hkept hopened run hsame hfailed hreturned hmade hcaller

/-- A store refuses another user, and then the keys of the one it holds. -/
theorem refusals_leave_no_trace :
    ∃ finish past,
      ∃ refused begun failed :
        Made (Activity (RefusingCredentials (BlobCredentials MemoryBlobs))) (Move _) Session.Reply,
        Run step? (blank { store := memory }) (past ++ [refused, begun, failed]) finish ∧
          refused.step.result = .stored (.error (.blob (.other "full"))) ∧
          RefusesRecord RefusingCredentials.store refused ∧
          (0, .error (.storage (.blob (.other "full")))) ∈ returnedOf failed.step.effects ∧
          Untouched RefusingCredentials.store begun.before begun.after begun.step.effects ∧
          Untouched RefusingCredentials.store failed.before failed.after failed.step.effects := by
  obtain ⟨finish, run⟩ := run_played step?
    (blank (σ := RefusingCredentials (BlobCredentials MemoryBlobs)) { store := memory }) [
    .session (.signIn { keyFetchToken := some "fetch", unwrapBKey := some "22" }),
    .session (.alterStore fun store => { store with putRefusal := some "full" }),
    .session (.signIn {}),
    .session (.beginKeys 0),
    .session (.answerKeys 0 (.ok { kA := [0x44], wrapKB := [0x11] }))]
  have hkept : KeptOnRefusal
      (RefusingCredentials.store : RefusingCredentials (BlobCredentials MemoryBlobs) → _) := by
    intro store after record error hput
    change store.put record = _ at hput
    unfold RefusingCredentials.put at hput
    split at hput
    · cases hput
      rfl
    · cases hput
  obtain ⟨hsignIns, hcalls⟩ :=
    @failures_leave_no_trace _ _ _ _ _ _ [_, _, _, _, _] hkept (blank_opened _) run
  have hfailed := hcalls 0 (.storage (.blob (.other "full"))) [_, _, _] _ [_] rfl
    (by simp [Move.Begins, Session.Move.Begins])
    ⟨_, .tail _ (.head _), List.mem_singleton_self _⟩
  exact ⟨finish, [_, _], _, _, _, run, rfl, hsignIns _ (.tail _ (.tail _ (.head _))) _ _ rfl rfl,
    List.mem_singleton_self _, hfailed _ (.head _) rfl, hfailed _ (.tail _ (.head _)) rfl⟩

end Activity

end AccountManager.Accounts
