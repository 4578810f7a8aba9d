import AccountManager.Proofs.Run
import AccountManager.Proofs.Session.Records

/-!
# Where the records and the calls of a session come from

In every state of a run the record that is seen is one of the user of the epoch, and the cached one
is the stored one. What a call waits for is traced back to the two moves that brought it about: the
one that began the call, and the last one it made, in which it called the service.
-/

namespace AccountManager.Session

open Storage

variable {σ : Type} [CredentialStore σ]

abbrev History (σ : Type) := List (Made (Activity σ) (Move σ) Reply)

/-- Whether a record is the one that was signed in to begin an epoch or, in the first one, the one
that the store held from the start. -/
def UserOf [LawfulStore σ] (start : Activity σ) (history : History σ) (epoch : Nat)
    (record : CredentialRecord) : Prop :=
  (epoch = 0 ∧ contents start.session.store = some (.ok record)) ∨
    ∃ made ∈ history, made.move = .signIn record ∧ made.step.result = .stored (.ok ()) ∧
      made.after.session.epoch = epoch

/-- Whether a call was last begun with a move, in an epoch. -/
def Began (history : History σ) (id : CallId) (epoch : Nat) (move : Move σ) : Prop :=
  ∃ begun, LastOf (fun made => made.move.Begins id) history begun ∧
    begun.before.session.epoch = epoch ∧ begun.move = move

/-- Whether a call, in the last move it made, called the service. -/
def Asks (history : History σ) (id : CallId) (epoch : Nat) (call : RemoteCall) : Prop :=
  ∃ asked, LastOf (fun made => made.move.caller? = some id) history asked ∧
    asked.before.session.epoch = epoch ∧ callsOf asked.step.effects = [call]

/-- Whether a wait began for a record that was not verified. -/
structure Awaits (history : History σ) (id : CallId) (epoch : Nat) (token : String)
    (given : CredentialRecord) : Prop where
  began : Began history id epoch (.beginVerification id given)
  unverified : given.isVerified = false
  token : given.sessionToken = some token

/-- Why a call waits for what it waits for. -/
inductive Explains (history : History σ) (id : CallId) : Waiting → Prop
  | turn {epoch : Nat} (hbegan : Began history id epoch (.beginKeys id)) :
      Explains history id .turn
  | keys {epoch : Nat} {user : SignedInUser} {token unwrapBKey : String}
      (hbegan : Began history id epoch (.beginKeys id))
      (htoken : user.record.keyFetchToken = some token)
      (hasks : Asks history id user.generation (.fetchKeys token)) :
      Explains history id (.keys user unwrapBKey)
  | status {poll : Poll} {given : CredentialRecord}
      (hawaits : Awaits history id poll.generation poll.sessionToken given)
      (hasks : Asks history id poll.generation (.checkStatus poll.sessionToken)) :
      Explains history id (.status poll)
  | timer {poll : Poll} {given : CredentialRecord}
      (hawaits : Awaits history id poll.generation poll.sessionToken given) :
      Explains history id (.timer poll)

section Longer

variable {history : History σ} {id : CallId} {epoch : Nat}
  {made : Made (Activity σ) (Move σ) Reply}

omit [CredentialStore σ] in
theorem Move.Begins.caller? {move : Move σ} (h : move.Begins id) : move.caller? = some id := by
  cases move with
  | beginKeys | beginVerification => exact congrArg some h
  | _ => exact h.elim

omit [CredentialStore σ] in
theorem Began.concat {move : Move σ} (h : Began history id epoch move)
    (hmade : ¬ made.move.Begins id) : Began (history ++ [made]) id epoch move := by
  obtain ⟨begun, hlast, hbegun⟩ := h
  exact ⟨begun, hlast.concat hmade, hbegun⟩

omit [CredentialStore σ] in
theorem Began.unique {otherEpoch : Nat} {move other : Move σ} (h : Began history id epoch move)
    (hother : Began history id otherEpoch other) : otherEpoch = epoch ∧ other = move := by
  obtain ⟨begun, hlast, rfl, rfl⟩ := h
  obtain ⟨begunToo, hlastToo, rfl, rfl⟩ := hother
  obtain rfl := hlast.unique hlastToo
  exact ⟨rfl, rfl⟩

omit [CredentialStore σ] in
theorem Awaits.concat {token : String} {given : CredentialRecord}
    (h : Awaits history id epoch token given) (hmade : ¬ made.move.Begins id) :
    Awaits (history ++ [made]) id epoch token given :=
  ⟨h.began.concat hmade, h.unverified, h.token⟩

omit [CredentialStore σ] in
theorem Asks.concat {call : RemoteCall} (h : Asks history id epoch call)
    (hmade : made.move.caller? ≠ some id) : Asks (history ++ [made]) id epoch call := by
  obtain ⟨asked, hlast, hasked⟩ := h
  exact ⟨asked, hlast.concat hmade, hasked⟩

omit [CredentialStore σ] in
theorem Asks.unique {otherEpoch : Nat} {call other : RemoteCall} (h : Asks history id epoch call)
    (hother : Asks history id otherEpoch other) : other = call := by
  obtain ⟨asked, hlast, -, hcalls⟩ := h
  obtain ⟨askedToo, hlastToo, -, hcallsToo⟩ := hother
  obtain rfl := hlast.unique hlastToo
  exact (List.cons.inj (hcalls.symm.trans hcallsToo)).1.symm

omit [CredentialStore σ] in
/-- A move explains as much as was explained before of every call but its caller. -/
theorem Explains.concat {waiting : Waiting} (h : Explains history id waiting)
    (hmade : made.move.caller? ≠ some id) : Explains (history ++ [made]) id waiting := by
  have hbegins : ¬ made.move.Begins id := fun hbegins => hmade hbegins.caller?
  cases h with
  | turn hbegan => exact .turn (hbegan.concat hbegins)
  | keys hbegan htoken hasks => exact .keys (hbegan.concat hbegins) htoken (hasks.concat hmade)
  | status hawaits hasks => exact .status (hawaits.concat hbegins) (hasks.concat hmade)
  | timer hawaits => exact .timer (hawaits.concat hbegins)

theorem UserOf.mono [LawfulStore σ] {start : Activity σ} {longer : History σ}
    {record : CredentialRecord} (h : UserOf start history epoch record)
    (hlonger : ∀ made ∈ history, made ∈ longer) : UserOf start longer epoch record := by
  rcases h with hstart | ⟨made, hmade, hsigned⟩
  · exact .inl hstart
  · exact .inr ⟨made, hlonger made hmade, hsigned⟩

end Longer

namespace Activity

variable {activity start finish : Activity σ} {move : Move σ} {step : Step (Activity σ) Reply}
  {history past : History σ} {made : Made (Activity σ) (Move σ) Reply} {id : CallId}

/-- Whether a session was just opened over a store. -/
def Opened (activity : Activity σ) : Prop :=
  ∃ store polling, activity = { session := { store }, polling }

/-- A session over a store, which asks about an address once. -/
def blank (store : σ) : Activity σ := { session := { store }, polling := ⟨⟨0⟩, 1⟩ }

omit [CredentialStore σ] in
theorem blank_opened (store : σ) : (blank store).Opened := ⟨store, _, rfl⟩

/-! ### Users -/

theorem epoch_le_of_step? (hstep : activity.step? move = some step) :
    activity.session.epoch ≤ step.state.session.epoch := by
  by_cases hepoch : BeginsEpoch move step.result
  · rw [epoch_of_beginsEpoch hstep hepoch]
    exact Nat.le_succ _
  · exact Nat.le_of_eq (epoch_of_not_beginsEpoch hstep hepoch).symm

/-- An epoch is that of one user. -/
theorem userOf_unique [LawfulStore σ] (run : Run step? start history finish) {epoch : Nat}
    {user other : CredentialRecord} (huser : UserOf start history epoch user)
    (hother : UserOf start history epoch other) : other = user := by
  have hcrosses {made : Made (Activity σ) (Move σ) Reply} {record : CredentialRecord}
      (hmade : made ∈ history) (hmove : made.move = .signIn record)
      (hresult : made.step.result = .stored (.ok ())) (hepoch : made.after.session.epoch = epoch) :
      made.before.session.epoch < epoch ∧ epoch ≤ made.after.session.epoch := by
    obtain ⟨earlier, -, hstep⟩ := run.reached hmade
    have hbegins : BeginsEpoch made.move made.step.result := by
      rw [hmove, hresult]
      exact .signIn record
    have hnext : made.after.session.epoch = made.before.session.epoch + 1 :=
      epoch_of_beginsEpoch hstep hbegins
    omega
  rcases huser with ⟨rfl, hstart⟩ | ⟨made, hmade, hmove, hresult, hepoch⟩
  · rcases hother with ⟨-, hotherStart⟩ | ⟨made, hmade, hmove, hresult, hepoch⟩
    · rw [hstart] at hotherStart
      exact (Except.ok.inj (Option.some.inj hotherStart)).symm
    · exact absurd (hcrosses hmade hmove hresult hepoch).1 (Nat.not_lt_zero _)
  · rcases hother with ⟨rfl, -⟩ | ⟨first, hfirst, hfirstMove, hfirstResult, hfirstEpoch⟩
    · exact absurd (hcrosses hmade hmove hresult hepoch).1 (Nat.not_lt_zero _)
    · have hmono (between : Made (Activity σ) (Move σ) Reply) (hbetween : between ∈ history) :
          between.before.session.epoch ≤ between.after.session.epoch := by
        obtain ⟨earlier, -, hstep⟩ := run.reached hbetween
        exact epoch_le_of_step? hstep
      obtain rfl := run.crossed_once (fun activity => activity.session.epoch) hmono hmade hfirst
        (hcrosses hmade hmove hresult hepoch) (hcrosses hfirst hfirstMove hfirstResult hfirstEpoch)
      cases hmove.symm.trans hfirstMove
      rfl

theorem belongs_of_run [LawfulStore σ] (hopened : start.Opened)
    (run : Run step? start history finish) (hquiet : ∀ made ∈ history, made.move.KeepsContents) :
    finish.Belongs (UserOf start history) := by
  induction history using List.reverseRecOn generalizing finish with
  | nil =>
    obtain rfl : start = finish := run
    obtain ⟨store, polling, rfl⟩ := hopened
    refine ⟨fun record hshows => ?_, fun id user unwrapBKey hwaiting => (by cases hwaiting)⟩
    cases hshows with
    | cached hcached => cases hcached
    | stored hpending hcontents => exact ⟨record, .inl ⟨rfl, hcontents⟩, .same⟩
  | append_singleton past made ih =>
    obtain ⟨hpast, hstep, rfl⟩ := run_concat.1 run
    have hbefore := ih hpast fun other hother => hquiet other (List.mem_append_left _ hother)
    have hmade : made ∈ past ++ [made] := List.mem_append_right _ (List.mem_singleton_self made)
    refine (hbefore.mono fun epoch user huser => huser.mono fun other hother =>
      List.mem_append_left _ hother).of_step? hstep (hquiet made hmade) ?_
    intro record hmove hresult
    refine .inr ⟨made, hmade, hmove, hresult, epoch_of_beginsEpoch hstep ?_⟩
    rw [hmove, hresult]
    exact .signIn record

/-! ### The cached record -/

/-- Whether the cached record is the stored one, and a user whose keys are fetched in this epoch was
read from a store that may be read. -/
structure Faithful [LawfulStore σ] (activity : Activity σ) : Prop where
  cached : ∀ record, activity.session.cached = some record →
    activity.session.pendingClear = false ∧
      contents activity.session.store = some (.ok record)
  fetching : ∀ id user unwrapBKey, activity.waiting? id = some (.keys user unwrapBKey) →
    user.generation ≤ activity.session.epoch ∧
      (user.generation = activity.session.epoch → activity.session.pendingClear = false)

theorem Faithful.seen [LawfulStore σ] (h : activity.Faithful) {user : SignedInUser}
    (hlooked : activity.session.snapshot.result = .ok (some user)) :
    activity.session.pendingClear = false ∧
      contents activity.session.store = some (.ok user.record) := by
  cases Shows.of_snapshot hlooked with
  | cached hcached => exact h.cached _ hcached
  | stored hpending hcontents => exact ⟨hpending, hcontents⟩

/-- A record is written in an epoch only if the store may be read in it. -/
theorem Faithful.readable [LawfulStore σ] (h : activity.Faithful) {record : CredentialRecord}
    (hwrites : activity.Writes move record) : activity.session.pendingClear = false := by
  cases hwrites with
  | keys hwaiting hepoch => exact (h.fetching _ _ _ hwaiting).2 hepoch
  | verified hwaiting hepoch hlooked => exact (h.seen hlooked).1

theorem Faithful.of_alters [LawfulStore σ] (h : activity.Faithful) {after : Session σ}
    (halters : activity.Alters move after) {record : CredentialRecord}
    (hcached : after.cached = some record) :
    after.pendingClear = false ∧ contents after.store = some (.ok record) := by
  cases halters with
  | @keeps loaded store hloads hsame =>
    rcases hloads with rfl | ⟨-, hpending, read, hget, rfl⟩
    · rw [hsame]
      exact h.cached record hcached
    · obtain rfl := Option.some.inj hcached
      rw [hsame]
      exact ⟨hpending, LawfulStore.of_get_eq_ok activity.session.store hget⟩
  | evicts => cases hcached
  | writes hloads hheld hwrites =>
    obtain rfl := Option.some.inj hcached
    exact ⟨hloads.pendingClear.trans (h.readable hwrites), hheld⟩

theorem Faithful.of_step? [LawfulStore σ] (h : activity.Faithful)
    (hstep : activity.step? move = some step) (hquiet : move.KeepsContents) :
    step.state.Faithful := by
  by_cases hepoch : BeginsEpoch move step.result
  · have hnext := epoch_of_beginsEpoch hstep hepoch
    refine ⟨fun record hcached => ?_, fun id user unwrapBKey hwaiting => ?_⟩
    · rcases presents_of_beginsEpoch hstep hepoch with ⟨signed, -, -, hpresents⟩ | ⟨-, hvacant⟩
      · rw [hpresents.cached] at hcached
        exact ⟨hpresents.readable, Option.some.inj hcached ▸ hpresents.stored⟩
      · rw [hvacant.cached] at hcached
        cases hcached
    · have hbefore : user.generation ≤ activity.session.epoch := by
        rcases remembered_of_step? hstep hwaiting with hbefore | hlooked
        · exact (h.fetching id user unwrapBKey hbefore).1
        · exact Nat.le_of_eq (of_snapshot_eq_some hlooked).1
      exact ⟨by omega, fun hgeneration => by omega⟩
  · have halters := alters_of_step? hstep hepoch hquiet
    refine ⟨fun record hcached => h.of_alters halters hcached,
      fun id user unwrapBKey hwaiting => ?_⟩
    rw [epoch_of_not_beginsEpoch hstep hepoch, halters.pendingClear]
    rcases remembered_of_step? hstep hwaiting with hbefore | hlooked
    · exact h.fetching id user unwrapBKey hbefore
    · exact ⟨Nat.le_of_eq (of_snapshot_eq_some hlooked).1, fun _ => (h.seen hlooked).1⟩

theorem faithful_of_run [LawfulStore σ] (hopened : start.Opened)
    (run : Run step? start history finish) (hquiet : ∀ made ∈ history, made.move.KeepsContents) :
    finish.Faithful := by
  refine run.kept (P := Faithful) ?_ fun made hmade hstep hbefore =>
    hbefore.of_step? hstep (hquiet made hmade)
  obtain ⟨store, polling, rfl⟩ := hopened
  exact ⟨fun record hcached => (by cases hcached), fun id user unwrapBKey hwaiting =>
    (by cases hwaiting)⟩

/-! ### Calls -/

theorem explains_caller (hbefore : ∀ waiting, activity.waiting? id = some waiting →
      Explains past id waiting) (hstep : activity.step? move = some step)
    (hcaller : move.caller? = some id) {waiting : Waiting}
    (hwaiting : step.state.waiting? id = some waiting) :
    Explains (past ++ [⟨activity, move, step⟩]) id waiting := by
  have hasks {epoch : Nat} {call : RemoteCall} (hepoch : activity.session.epoch = epoch)
      (hcalls : callsOf step.effects = [call]) :
      Asks (past ++ [⟨activity, move, step⟩]) id epoch call :=
    ⟨_, .of_concat past hcaller, hepoch, hcalls⟩
  cases allows_of_step? hstep with
  | look | evict | signIn | signOut | alterStore => cases hcaller
  | beginKeys hnew hfree =>
    cases hcaller
    obtain ⟨user, token, unwrapBKey, rfl, hlooked, htoken, hcalls⟩ := of_waiting?_enterKeys hwaiting
    have hgeneration := (of_snapshot_eq_some hlooked).1
    exact .keys ⟨_, .of_concat past rfl, rfl, rfl⟩ htoken (hasks hgeneration.symm hcalls)
  | queueKeys hnew hheld =>
    cases hcaller
    rw [waiting?_suspend, if_pos rfl] at hwaiting
    obtain rfl := Option.some.inj hwaiting
    exact .turn ⟨_, .of_concat past rfl, rfl, rfl⟩
  | takeTurn hturn hqueued =>
    cases hcaller
    obtain ⟨user, token, unwrapBKey, rfl, hlooked, htoken, hcalls⟩ := of_waiting?_enterKeys hwaiting
    have hgeneration := (of_snapshot_eq_some hlooked).1
    cases hbefore _ hqueued with
    | turn hbegan =>
      exact .keys (hbegan.concat fun hbegins => hbegins) htoken (hasks hgeneration.symm hcalls)
  | answerKeys hfetching answer =>
    cases hcaller
    rw [waiting?_returnKeys, if_pos rfl] at hwaiting
    cases hwaiting
  | drop hdropped =>
    cases hcaller
    rw [waiting?_dropCall, if_pos rfl] at hwaiting
    cases hwaiting
  | beginVerification hnew given =>
    cases hcaller
    obtain ⟨plan, hresult, hplan⟩ := of_waiting?_continuePoll hwaiting
    rcases of_beginVerification_eq_ok hresult with ⟨-, rfl⟩ | ⟨hunverified, token, htoken, hask⟩
    · cases hplan
    · rw [hask] at hresult
      obtain ⟨hepoch, rfl, hcalls⟩ := of_ask_eq_ok hresult
      obtain rfl := Option.some.inj hplan
      rw [← hask, ← callsOf_continuePoll activity] at hcalls
      exact .status ⟨⟨_, .of_concat past rfl, rfl, rfl⟩, hunverified, htoken⟩ (hasks rfl hcalls)
  | answerStatus hasked answer =>
    cases hcaller
    obtain ⟨plan, hresult, hplan⟩ := of_waiting?_continuePoll hwaiting
    rcases of_answerStatus_eq_ok hresult with rfl | ⟨record, rfl⟩
    · obtain rfl := Option.some.inj hplan
      cases hbefore _ hasked with
      | status hawaits => exact .timer (hawaits.concat fun hbegins => hbegins)
    · cases hplan
  | wake hslept =>
    cases hcaller
    obtain ⟨plan, hresult, hplan⟩ := of_waiting?_continuePoll hwaiting
    obtain ⟨hepoch, rfl, hcalls⟩ := of_ask_eq_ok hresult
    obtain rfl := Option.some.inj hplan
    rw [← callsOf_continuePoll activity] at hcalls
    cases hbefore _ hslept with
    | timer hawaits =>
      exact .status (hawaits.concat fun hbegins => hbegins) (hasks hepoch hcalls)

/-- In every state of a run it can be explained what a call waits for. -/
theorem explains_of_run (hopened : start.Opened) (run : Run step? start history finish)
    {waiting : Waiting} (hwaiting : finish.waiting? id = some waiting) :
    Explains history id waiting := by
  induction history using List.reverseRecOn generalizing finish waiting with
  | nil =>
    obtain rfl : start = finish := run
    obtain ⟨store, polling, rfl⟩ := hopened
    cases hwaiting
  | append_singleton past made ih =>
    obtain ⟨hpast, hstep, rfl⟩ := run_concat.1 run
    by_cases hcaller : made.move.caller? = some id
    · exact explains_caller (fun waiting hbefore => ih hpast hbefore) hstep hcaller hwaiting
    · refine (ih hpast ?_).concat hcaller
      rw [← waiting?_of_not_caller hstep hcaller]
      exact hwaiting

end Activity

end AccountManager.Session
