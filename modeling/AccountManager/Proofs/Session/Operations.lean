import AccountManager.Event
import AccountManager.Session.Activity

/-!
# What the operations of a session do

One set of facts for each operation: which part of the session it may change, what it sends and what
it comes to. Looking at the user changes a session at most by loading the stored record, which is
`Loads`; writing a record and finishing a call do nothing at all once the epoch has moved on. The
rest of the proofs reaches the operations through these names.
-/

namespace AccountManager

/-- Whether nothing but log records is among some effects. -/
def OnlyLogs (effects : List Effect) : Prop :=
  eventsOf effects = [] ∧ callsOf effects = [] ∧ returnedOf effects = []

theorem onlyLogs_nil : OnlyLogs [] := ⟨rfl, rfl, rfl⟩

theorem onlyLogs_log (record : Log.Record) : OnlyLogs [.log record] := ⟨rfl, rfl, rfl⟩

@[simp] theorem eventsOf_nil : eventsOf [] = [] := rfl

@[simp] theorem callsOf_nil : callsOf [] = [] := rfl

@[simp] theorem returnedOf_nil : returnedOf [] = [] := rfl

@[simp] theorem eventsOf_cons (effect : Effect) (effects : List Effect) :
    eventsOf (effect :: effects) =
      (match effect with | .event event => [event] | _ => []) ++ eventsOf effects := by
  cases effect <;> rfl

@[simp] theorem callsOf_cons (effect : Effect) (effects : List Effect) :
    callsOf (effect :: effects) =
      (match effect with | .call call => [call] | _ => []) ++ callsOf effects := by
  cases effect <;> rfl

@[simp] theorem returnedOf_cons (effect : Effect) (effects : List Effect) :
    returnedOf (effect :: effects) =
      (match effect with | .returned id result => [(id, result)] | _ => []) ++
        returnedOf effects := by
  cases effect <;> rfl

@[simp] theorem eventsOf_append (left right : List Effect) :
    eventsOf (left ++ right) = eventsOf left ++ eventsOf right := List.filterMap_append

@[simp] theorem callsOf_append (left right : List Effect) :
    callsOf (left ++ right) = callsOf left ++ callsOf right := List.filterMap_append

@[simp] theorem returnedOf_append (left right : List Effect) :
    returnedOf (left ++ right) = returnedOf left ++ returnedOf right := List.filterMap_append

theorem OnlyLogs.append {left right : List Effect} (hleft : OnlyLogs left)
    (hright : OnlyLogs right) : OnlyLogs (left ++ right) := by
  simp [OnlyLogs, hleft.1, hleft.2.1, hleft.2.2, hright.1, hright.2.1, hright.2.2]

namespace Session

open Storage

variable {σ : Type} [CredentialStore σ] {session after : Session σ}

/-- Whether two sessions differ at most by a record that was loaded into the empty cache. -/
def Loads (before after : Session σ) : Prop :=
  after = before ∨
    before.cached = none ∧ before.pendingClear = false ∧
      ∃ record, CredentialStore.get before.store = .ok (some record) ∧
        after = { before with cached := some record }

theorem Loads.store (h : session.Loads after) : after.store = session.store := by
  rcases h with rfl | ⟨-, -, _, -, rfl⟩ <;> rfl

theorem Loads.epoch (h : session.Loads after) : after.epoch = session.epoch := by
  rcases h with rfl | ⟨-, -, _, -, rfl⟩ <;> rfl

theorem Loads.pendingClear (h : session.Loads after) :
    after.pendingClear = session.pendingClear := by
  rcases h with rfl | ⟨-, -, _, -, rfl⟩ <;> rfl

/-! ### Looking -/

theorem snapshot_loads (session : Session σ) : session.Loads session.snapshot.state := by
  unfold snapshot
  split
  · exact .inl rfl
  · rename_i hcached
    split
    · exact .inl rfl
    · rename_i hpending
      split
      · exact .inl rfl
      · exact .inl rfl
      · rename_i record hget
        exact .inr ⟨hcached, by simpa using hpending, record, hget, rfl⟩

theorem snapshot_onlyLogs (session : Session σ) : OnlyLogs session.snapshot.effects := by
  unfold snapshot
  repeat' split
  all_goals exact ⟨rfl, rfl, rfl⟩

@[simp] theorem snapshot_epoch (session : Session σ) :
    session.snapshot.state.epoch = session.epoch := session.snapshot_loads.epoch

@[simp] theorem snapshot_store (session : Session σ) :
    session.snapshot.state.store = session.store := session.snapshot_loads.store

@[simp] theorem snapshot_pendingClear (session : Session σ) :
    session.snapshot.state.pendingClear = session.pendingClear :=
  session.snapshot_loads.pendingClear

theorem of_snapshot_eq_some {user : SignedInUser}
    (hlooked : session.snapshot.result = .ok (some user)) :
    user.generation = session.epoch ∧ session.snapshot.state.cached = some user.record := by
  unfold snapshot at hlooked ⊢
  split at hlooked
  · rename_i record hcached
    obtain rfl := Option.some.inj (Except.ok.inj hlooked)
    simp [hcached]
  · rename_i hcached
    split at hlooked
    · cases hlooked
    · rename_i hpending
      split at hlooked
      · cases hlooked
      · cases hlooked
      · rename_i record hget
        obtain rfl := Option.some.inj (Except.ok.inj hlooked)
        simp [hpending]

/-! ### Signing in and out -/

theorem returnedOf_signIn (session : Session σ) (record : CredentialRecord) :
    returnedOf (session.signIn record).effects = [] := by
  unfold signIn
  split <;> rfl

theorem returnedOf_signOut (session : Session σ) : returnedOf session.signOut.effects = [] := by
  unfold signOut
  split <;> rfl

theorem callsOf_signIn (session : Session σ) (record : CredentialRecord) :
    callsOf (session.signIn record).effects = [] := by
  unfold signIn
  split <;> rfl

theorem callsOf_signOut (session : Session σ) : callsOf session.signOut.effects = [] := by
  unfold signOut
  split <;> rfl

/-! ### Writing -/

/-- A write of another epoch is discarded. -/
theorem commit_of_stale {generation : Nat} (hstale : session.epoch ≠ generation)
    (record : CredentialRecord) :
    session.commit generation record =
      ⟨.error .notSignedIn, session,
        [warn "discarding account update for a signed-out session"]⟩ := by
  simp [commit, hstale]

theorem commit_onlyLogs (session : Session σ) (generation : Nat) (record : CredentialRecord) :
    OnlyLogs (session.commit generation record).effects := by
  unfold commit
  repeat' split
  all_goals exact ⟨rfl, rfl, rfl⟩

/-- A write succeeds only in its own epoch and if the store accepts the record, which is then the
cached one. -/
theorem of_commit_eq_ok {generation : Nat} {record : CredentialRecord}
    (hcommitted : (session.commit generation record).result = .ok ()) :
    session.epoch = generation ∧
      ∃ store, CredentialStore.put session.store record = (.ok (), store) ∧
        (session.commit generation record).state =
          { session with store, cached := some record } := by
  by_cases hepoch : session.epoch = generation
  · simp only [commit, hepoch, ne_eq, not_true_eq_false, if_false] at hcommitted ⊢
    split at hcommitted
    · cases hcommitted
    · rename_i store hput
      exact ⟨trivial, store, hput, rfl⟩
  · rw [commit_of_stale hepoch] at hcommitted
    cases hcommitted

/-- A write that fails changes nothing but what the failing store does to itself. -/
theorem of_commit_eq_error {generation : Nat} {record : CredentialRecord} {error : AccountError}
    (hcommitted : (session.commit generation record).result = .error error) :
    (session.commit generation record).state = session ∨
      ∃ refusal store, CredentialStore.put session.store record = (.error refusal, store) ∧
        (session.commit generation record).state = { session with store } := by
  by_cases hepoch : session.epoch = generation
  · simp only [commit, hepoch, ne_eq, not_true_eq_false, if_false] at hcommitted ⊢
    split at hcommitted
    · rename_i refusal store hput
      exact .inr ⟨refusal, store, hput, rfl⟩
    · cases hcommitted
  · exact .inl (by rw [commit_of_stale hepoch])

@[simp] theorem commit_epoch (session : Session σ) (generation : Nat) (record : CredentialRecord) :
    (session.commit generation record).state.epoch = session.epoch := by
  unfold commit
  repeat' split
  all_goals rfl

/-! ### Getting the keys -/

theorem beginKeys_state (session : Session σ) :
    session.beginKeys.state = session.snapshot.state := by
  unfold beginKeys
  dsimp only
  repeat' split
  all_goals rfl

theorem of_keyPlan_eq_fetch {seen user : SignedInUser} {token unwrapBKey : String}
    (hplan : keyPlan seen = .ok (.fetch user token unwrapBKey)) :
    user = seen ∧ seen.record.keyFetchToken = some token := by
  unfold keyPlan at hplan
  split at hplan
  · cases hplan
  · split at hplan
    · cases hplan
    · cases hplan
    · rename_i htoken _
      cases hplan
      exact ⟨rfl, htoken⟩

theorem of_beginKeys_eq_fetch {user : SignedInUser} {token unwrapBKey : String}
    (hbegun : session.beginKeys.result = .ok (.fetch user token unwrapBKey)) :
    session.snapshot.result = .ok (some user) ∧ user.record.keyFetchToken = some token ∧
      callsOf session.beginKeys.effects = [.fetchKeys token] := by
  have hlogs := session.snapshot_onlyLogs
  unfold beginKeys at hbegun ⊢
  dsimp only at hbegun ⊢
  cases hlooked : session.snapshot.result with
  | error error => simp [hlooked] at hbegun
  | ok found =>
    cases found with
    | none => simp [hlooked] at hbegun
    | some seen =>
      cases hplan : keyPlan seen with
      | error error => simp [hlooked, hplan] at hbegun
      | ok plan =>
        cases plan with
        | present record => simp [hlooked, hplan] at hbegun
        | fetch other otherToken otherKey =>
          obtain ⟨rfl, htoken⟩ := of_keyPlan_eq_fetch hplan
          simp only [hlooked, hplan, Except.ok.injEq, KeyPlan.fetch.injEq] at hbegun
          obtain ⟨rfl, rfl, rfl⟩ := hbegun
          refine ⟨rfl, htoken, ?_⟩
          simp only [hplan, callsOf_append, hlogs.2.1]
          rfl

theorem finishKeys_of_stale {user : SignedInUser} (hstale : session.epoch ≠ user.generation)
    (unwrapBKey : String) (answer : Except RemoteError KeyBundle) :
    (session.finishKeys user unwrapBKey answer).state = session ∧
      (∃ error, (session.finishKeys user unwrapBKey answer).result = .error error) ∧
      OnlyLogs (session.finishKeys user unwrapBKey answer).effects := by
  unfold finishKeys
  cases answer with
  | error error => exact ⟨rfl, ⟨_, rfl⟩, onlyLogs_nil⟩
  | ok bundle =>
    cases hderived : KeyDerivation.deriveKB bundle.wrapKB unwrapBKey with
    | error error =>
      simp only [hderived]
      exact ⟨trivial, ⟨_, rfl⟩, onlyLogs_nil⟩
    | ok kB =>
      simp only [hderived, commit_of_stale hstale]
      exact ⟨trivial, ⟨_, rfl⟩, onlyLogs_log _⟩

/-- The answer to a key fetch is written as the record of the user it was begun for. -/
theorem finishKeys_state (session : Session σ) (user : SignedInUser) (unwrapBKey : String)
    (answer : Except RemoteError KeyBundle) :
    (session.finishKeys user unwrapBKey answer).state = session ∨
      ∃ bundle kB, answer = .ok bundle ∧
        (session.finishKeys user unwrapBKey answer).state =
          (session.commit user.generation
            (withKeys user.record (Hex.encode bundle.kA) kB)).state := by
  unfold finishKeys
  cases answer with
  | error error => exact .inl rfl
  | ok bundle =>
    cases hderived : KeyDerivation.deriveKB bundle.wrapKB unwrapBKey with
    | error error =>
      left
      simp only [hderived]
    | ok kB =>
      refine .inr ⟨bundle, kB, rfl, ?_⟩
      simp only [hderived]
      split <;> rfl

theorem returnedOf_beginKeys (session : Session σ) : returnedOf session.beginKeys.effects = [] := by
  have hnone := session.snapshot_onlyLogs.2.2
  unfold beginKeys
  dsimp only
  repeat' split
  all_goals simp [hnone, debug]

theorem of_mem_callsOf_beginKeys {call : RemoteCall}
    (hcall : call ∈ callsOf session.beginKeys.effects) : ∃ token, call = .fetchKeys token := by
  have hnone := session.snapshot_onlyLogs.2.1
  unfold beginKeys at hcall
  dsimp only at hcall
  split at hcall
  · simp [hnone] at hcall
  · simp [hnone] at hcall
  · split at hcall
    · simp [hnone] at hcall
    · simp [hnone] at hcall
    · rename_i token unwrapBKey hplan
      exact ⟨token, by simpa [hnone, debug] using hcall⟩

theorem of_beginKeys_eq_present {record : CredentialRecord}
    (hbegun : session.beginKeys.result = .ok (.present record)) :
    ∃ user, session.snapshot.result = .ok (some user) ∧ record = user.record := by
  unfold beginKeys at hbegun
  dsimp only at hbegun
  split at hbegun
  · cases hbegun
  · cases hbegun
  · rename_i user hlooked
    refine ⟨user, hlooked, ?_⟩
    unfold keyPlan at hbegun
    split at hbegun
    · cases hbegun
    · rename_i hplan
      split at hplan
      · cases hplan
        cases hbegun
        rfl
      · split at hplan <;> cases hplan
    · cases hbegun

theorem returnedOf_finishKeys (session : Session σ) (user : SignedInUser) (unwrapBKey : String)
    (answer : Except RemoteError KeyBundle) :
    returnedOf (session.finishKeys user unwrapBKey answer).effects = [] := by
  unfold finishKeys
  dsimp only
  repeat' split
  · rfl
  · rfl
  · exact (commit_onlyLogs session _ _).2.2
  · rw [returnedOf_append, (commit_onlyLogs session _ _).2.2]
    rfl

theorem callsOf_finishKeys (session : Session σ) (user : SignedInUser) (unwrapBKey : String)
    (answer : Except RemoteError KeyBundle) :
    callsOf (session.finishKeys user unwrapBKey answer).effects = [] := by
  unfold finishKeys
  dsimp only
  repeat' split
  · rfl
  · rfl
  · exact (commit_onlyLogs session _ _).2.1
  · rw [callsOf_append, (commit_onlyLogs session _ _).2.1]
    rfl

theorem of_finishKeys_eq_ok {user : SignedInUser} {unwrapBKey : String}
    {answer : Except RemoteError KeyBundle} {record : CredentialRecord}
    (hfinished : (session.finishKeys user unwrapBKey answer).result = .ok record) :
    user.generation = session.epoch ∧ ∃ bundle kB, answer = .ok bundle ∧
      record = withKeys user.record (Hex.encode bundle.kA) kB := by
  unfold finishKeys at hfinished
  cases answer with
  | error error => cases hfinished
  | ok bundle =>
    cases hderived : KeyDerivation.deriveKB bundle.wrapKB unwrapBKey with
    | error error => simp [hderived] at hfinished
    | ok kB =>
      simp only [hderived] at hfinished
      split at hfinished
      · cases hfinished
      · rename_i hcommitted
        exact ⟨(of_commit_eq_ok hcommitted).1.symm, bundle, kB, rfl,
          (Except.ok.inj hfinished).symm⟩

/-! ### Waiting for verification -/

omit [CredentialStore σ] in
theorem ask_of_stale {poll : Poll} (hstale : session.epoch ≠ poll.generation) :
    session.ask poll =
      ⟨.error .notSignedIn, session, [debug "stopped verification polling after sign-out"]⟩ := by
  simp [ask, hstale]

omit [CredentialStore σ] in
theorem ask_of_current {poll : Poll} (hepoch : session.epoch = poll.generation) :
    session.ask poll =
      ⟨.ok (.ask { poll with asked := poll.asked + 1 }), session,
        [.call (.checkStatus poll.sessionToken)]⟩ := by
  simp [ask, hepoch]

theorem finishVerification_of_stale (session : Session σ) {generation : Nat}
    (hstale : session.epoch ≠ generation) :
    session.Loads (session.finishVerification generation).state ∧
      (∃ error, (session.finishVerification generation).result = .error error) ∧
      OnlyLogs (session.finishVerification generation).effects := by
  have hloads := session.snapshot_loads
  have hlogs := session.snapshot_onlyLogs
  unfold finishVerification
  dsimp only
  cases hlooked : session.snapshot.result with
  | error error => exact ⟨hloads, ⟨_, rfl⟩, hlogs⟩
  | ok found =>
    cases found with
    | none => exact ⟨hloads, ⟨_, rfl⟩, hlogs⟩
    | some user =>
      have hgeneration : user.generation ≠ generation := by
        rw [(of_snapshot_eq_some hlooked).1]
        exact hstale
      simp only [hgeneration, ne_eq, not_false_eq_true, if_true]
      exact ⟨hloads, ⟨_, rfl⟩, hlogs⟩

def PollPlan.poll? : PollPlan → Option Poll
  | .verified _ => none
  | .ask poll => some poll
  | .sleep poll => some poll

omit [CredentialStore σ] in
theorem of_ask_eq_ok {poll : Poll} {plan : PollPlan}
    (hasked : (session.ask poll).result = .ok plan) :
    session.epoch = poll.generation ∧ plan = .ask { poll with asked := poll.asked + 1 } ∧
      callsOf (session.ask poll).effects = [.checkStatus poll.sessionToken] := by
  unfold ask at hasked ⊢
  split at hasked
  · cases hasked
  · rename_i hepoch
    rw [if_neg hepoch]
    cases hasked
    exact ⟨Decidable.of_not_not hepoch, rfl, rfl⟩

omit [CredentialStore σ] in
theorem generation_of_ask {poll next : Poll} {plan : PollPlan}
    (hasked : (session.ask poll).result = .ok plan) (hnext : plan.poll? = some next) :
    next.generation = poll.generation := by
  obtain ⟨-, rfl, -⟩ := of_ask_eq_ok hasked
  cases hnext
  rfl

theorem of_answerStatus_eq_ok {polling : Polling} {poll : Poll} {plan : PollPlan}
    {answer : Except RemoteError Bool}
    (hanswered : (session.answerStatus polling poll answer).result = .ok plan) :
    plan = .sleep poll ∨ ∃ record, plan = .verified record := by
  unfold answerStatus at hanswered
  split at hanswered
  · cases hanswered
  · dsimp only at hanswered
    cases hfinished : (session.finishVerification poll.generation).result with
    | error error => simp [hfinished, Except.map] at hanswered
    | ok record =>
      rw [hfinished] at hanswered
      cases hanswered
      exact .inr ⟨record, rfl⟩
  · split at hanswered
    · cases hanswered
      exact .inl rfl
    · cases hanswered

theorem poll_of_answerStatus {polling : Polling} {poll next : Poll} {plan : PollPlan}
    {answer : Except RemoteError Bool}
    (hanswered : (session.answerStatus polling poll answer).result = .ok plan)
    (hnext : plan.poll? = some next) : next = poll := by
  rcases of_answerStatus_eq_ok hanswered with rfl | ⟨record, rfl⟩
  · exact (Option.some.inj hnext).symm
  · cases hnext

theorem answerStatus_of_stale {poll : Poll} (hstale : session.epoch ≠ poll.generation)
    (polling : Polling) (answer : Except RemoteError Bool) :
    session.Loads (session.answerStatus polling poll answer).state ∧
      ((session.answerStatus polling poll answer).result = .ok (.sleep poll) ∨
        ∃ error, (session.answerStatus polling poll answer).result = .error error) ∧
      OnlyLogs (session.answerStatus polling poll answer).effects := by
  unfold answerStatus
  cases answer with
  | error error => exact ⟨.inl rfl, .inr ⟨_, rfl⟩, onlyLogs_nil⟩
  | ok verified =>
    cases verified with
    | true =>
      obtain ⟨hloads, ⟨error, herror⟩, hlogs⟩ :=
        finishVerification_of_stale session hstale
      exact ⟨hloads, .inr ⟨error, by simp only [herror]; rfl⟩, hlogs⟩
    | false =>
      by_cases hlimit : poll.asked < polling.limit
      · simp only [hlimit, if_true]
        exact ⟨.inl rfl, .inl trivial, onlyLogs_log _⟩
      · simp only [hlimit, if_false]
        exact ⟨.inl rfl, .inr ⟨_, rfl⟩, onlyLogs_nil⟩

/-- A verification is written for the user who is seen, if that is one of the same epoch. -/
theorem finishVerification_state (session : Session σ) (generation : Nat) :
    (session.finishVerification generation).state = session.snapshot.state ∨
      ∃ user, session.snapshot.result = .ok (some user) ∧ user.generation = generation ∧
        (session.finishVerification generation).state =
          (session.snapshot.state.commit generation
            { user.record with isVerified := true }).state := by
  unfold finishVerification
  dsimp only
  cases hlooked : session.snapshot.result with
  | error error => exact .inl rfl
  | ok found =>
    cases found with
    | none => exact .inl rfl
    | some user =>
      dsimp only
      by_cases hgeneration : user.generation = generation
      · refine .inr ⟨user, rfl, hgeneration, ?_⟩
        rw [if_neg (fun hne => hne hgeneration)]
        split <;> rfl
      · left
        rw [if_pos hgeneration]

omit [CredentialStore σ] in
theorem returnedOf_ask (session : Session σ) (poll : Poll) :
    returnedOf (session.ask poll).effects = [] := by
  unfold ask
  split <;> rfl

omit [CredentialStore σ] in
theorem result_ask_ne (session : Session σ) (poll : Poll) (record : CredentialRecord) :
    (session.ask poll).result ≠ .ok (.verified record) := by
  intro hresult
  obtain ⟨-, hplan, -⟩ := of_ask_eq_ok hresult
  cases hplan

omit [CredentialStore σ] in
theorem of_mem_callsOf_ask {poll : Poll} {call : RemoteCall}
    (hcall : call ∈ callsOf (session.ask poll).effects) :
    call = .checkStatus poll.sessionToken := by
  unfold ask at hcall
  split at hcall
  · cases hcall
  · exact List.mem_singleton.1 hcall

theorem callsOf_finishVerification (session : Session σ) (generation : Nat) :
    callsOf (session.finishVerification generation).effects = [] := by
  have hnone := session.snapshot_onlyLogs.2.1
  unfold finishVerification
  dsimp only
  repeat' split
  all_goals simp [hnone, (commit_onlyLogs _ _ _).2.1, info]

theorem callsOf_answerStatus (session : Session σ) (polling : Polling) (poll : Poll)
    (answer : Except RemoteError Bool) :
    callsOf (session.answerStatus polling poll answer).effects = [] := by
  unfold answerStatus
  split
  · rfl
  · exact callsOf_finishVerification session poll.generation
  · split <;> rfl

omit [CredentialStore σ] in
theorem of_mem_callsOf_beginVerification {record : CredentialRecord} {call : RemoteCall}
    (hcall : call ∈ callsOf (session.beginVerification record).effects) :
    ∃ token, call = .checkStatus token := by
  unfold beginVerification at hcall
  split at hcall
  · cases hcall
  · split at hcall
    · cases hcall
    · exact ⟨_, of_mem_callsOf_ask hcall⟩

theorem returnedOf_finishVerification (session : Session σ) (generation : Nat) :
    returnedOf (session.finishVerification generation).effects = [] := by
  have hnone := session.snapshot_onlyLogs.2.2
  unfold finishVerification
  dsimp only
  repeat' split
  all_goals simp [hnone, (commit_onlyLogs _ _ _).2.2, info]

theorem of_finishVerification_eq_ok {generation : Nat} {record : CredentialRecord}
    (hfinished : (session.finishVerification generation).result = .ok record) :
    generation = session.epoch ∧ ∃ user, session.snapshot.result = .ok (some user) ∧
      record = { user.record with isVerified := true } := by
  unfold finishVerification at hfinished
  dsimp only at hfinished
  split at hfinished
  · cases hfinished
  · cases hfinished
  · rename_i user hlooked
    split at hfinished
    · cases hfinished
    · rename_i hgeneration
      split at hfinished
      · cases hfinished
      · refine ⟨?_, user, hlooked, (Except.ok.inj hfinished).symm⟩
        rw [← (of_snapshot_eq_some hlooked).1]
        exact (Decidable.of_not_not hgeneration).symm

/-- A verification fails because the user cannot be seen, is not there or belongs to another epoch,
or because the store refuses the record. -/
theorem of_finishVerification_eq_error {generation : Nat} {error : AccountError}
    (hfinished : (session.finishVerification generation).result = .error error) :
    (∃ cause, session.snapshot.result = .error cause ∧ error = .storage cause) ∨
      session.snapshot.result = .ok none ∧ error = .notSignedIn ∨
      session.epoch ≠ generation ∧ error = .notSignedIn ∨
      session.epoch = generation ∧ ∃ user cause store,
        session.snapshot.result = .ok (some user) ∧
        CredentialStore.put session.store { user.record with isVerified := true } =
          (.error cause, store) ∧ error = .storage cause := by
  unfold finishVerification at hfinished
  dsimp only at hfinished
  split at hfinished
  · rename_i cause hlooked
    exact .inl ⟨cause, hlooked, (Except.error.inj hfinished).symm⟩
  · rename_i hlooked
    exact .inr (.inl ⟨hlooked, (Except.error.inj hfinished).symm⟩)
  · rename_i user hlooked
    rw [(of_snapshot_eq_some hlooked).1] at hfinished
    by_cases hepoch : session.epoch = generation
    · simp only [hepoch, commit, snapshot_epoch, snapshot_store, ne_eq, not_true_eq_false,
        if_false] at hfinished
      cases hput : CredentialStore.put session.store { user.record with isVerified := true } with
      | mk result store =>
        cases result with
        | error cause =>
          simp only [hput, Except.error.injEq] at hfinished
          exact .inr (.inr (.inr ⟨hepoch, user, cause, store, hlooked, hput, hfinished.symm⟩))
        | ok _ =>
          simp only [hput] at hfinished
          cases hfinished
    · rw [if_pos hepoch] at hfinished
      exact .inr (.inr (.inl ⟨hepoch, (Except.error.inj hfinished).symm⟩))

theorem returnedOf_answerStatus (session : Session σ) (polling : Polling) (poll : Poll)
    (answer : Except RemoteError Bool) :
    returnedOf (session.answerStatus polling poll answer).effects = [] := by
  unfold answerStatus
  split
  · rfl
  · exact returnedOf_finishVerification session poll.generation
  · split <;> rfl

/-- A wait ends well only if the service says that the address was verified. -/
theorem of_answerStatus_eq_verified {polling : Polling} {poll : Poll}
    {answer : Except RemoteError Bool} {record : CredentialRecord}
    (hanswered : (session.answerStatus polling poll answer).result = .ok (.verified record)) :
    answer = .ok true ∧ (session.finishVerification poll.generation).result = .ok record := by
  unfold answerStatus at hanswered
  split at hanswered
  · cases hanswered
  · refine ⟨rfl, ?_⟩
    dsimp only at hanswered
    cases hfinished : (session.finishVerification poll.generation).result with
    | error error =>
      rw [hfinished] at hanswered
      cases hanswered
    | ok marked =>
      rw [hfinished] at hanswered
      cases hanswered
      rfl
  · split at hanswered <;> cases hanswered

omit [CredentialStore σ] in
theorem returnedOf_beginVerification (session : Session σ) (record : CredentialRecord) :
    returnedOf (session.beginVerification record).effects = [] := by
  unfold beginVerification
  split
  · rfl
  · split
    · rfl
    · exact returnedOf_ask session _

omit [CredentialStore σ] in
theorem of_beginVerification_eq_ok {given : CredentialRecord} {plan : PollPlan}
    (hbegun : (session.beginVerification given).result = .ok plan) :
    given.isVerified = true ∧ plan = .verified given ∨
      given.isVerified = false ∧ ∃ token, given.sessionToken = some token ∧
        session.beginVerification given = session.ask ⟨session.epoch, token, 0⟩ := by
  unfold beginVerification at hbegun ⊢
  split at hbegun
  · rename_i hverified
    exact .inl ⟨hverified, (Except.ok.inj hbegun).symm⟩
  · rename_i hverified
    rw [if_neg hverified]
    split at hbegun
    · cases hbegun
    · rename_i token htoken
      exact .inr ⟨by simpa using hverified, token, htoken, rfl⟩

omit [CredentialStore σ] in
theorem of_beginVerification_eq_verified {given record : CredentialRecord}
    (hbegun : (session.beginVerification given).result = .ok (.verified record)) :
    record = given ∧ given.isVerified = true := by
  rcases of_beginVerification_eq_ok hbegun with ⟨hverified, hplan⟩ | ⟨-, token, -, hask⟩
  · exact ⟨PollPlan.verified.inj hplan, hverified⟩
  · rw [hask] at hbegun
    exact absurd hbegun (result_ask_ne session _ _)

end Session

end AccountManager
