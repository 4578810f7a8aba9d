import AccountManager.Proofs.KeyDerivation
import AccountManager.Proofs.Session.KeyFetch

/-!
# What becomes of a user whose keys are fetched

A call that fetches keys works on the record it saw when it looked, in the last move before the
answer. What it returns is that record with the two keys in it, the store holds the same, and
whoever looks at the user later in the epoch gets it from there.
-/

namespace AccountManager.Session

open Storage

variable {σ : Type} [CredentialStore σ] {record : CredentialRecord}

theorem SignedIn.seen_or [LawfulStore σ] {session : Session σ} (h : session.SignedIn record) :
    session.snapshot.result = .ok (some ⟨record, session.epoch⟩) ∨
      session.cached = none ∧ ∃ error, CredentialStore.get session.store = .error error ∧
        session.snapshot.result = .error error := by
  cases hget : CredentialStore.get session.store with
  | ok found => exact .inl (h.seen ⟨found, hget⟩)
  | error error =>
    cases hcached : session.cached with
    | some other =>
      obtain rfl := h.cached other hcached
      exact .inl (by simp [snapshot, hcached])
    | none => exact .inr ⟨rfl, error, rfl, by simp [snapshot, hcached, h.readable, hget]⟩

namespace Activity

variable {activity start finish : Activity σ} {move : Move σ} {step : Step (Activity σ) Reply}
  {history past later : History σ} {made : Made (Activity σ) (Move σ) Reply} {id : CallId}

/-! ### Looking -/

/-- Whether a call looks at the signed-in user with a move, to get the keys: when it begins, if
nobody fetches any, or when its turn comes. -/
def LooksForKeys (activity : Activity σ) (id : CallId) : Move σ → Prop
  | .beginKeys other => other = id ∧ activity.fetching = none
  | .takeTurn other => other = id
  | _ => False

theorem enters_of_looks (hstep : activity.step? move = some step)
    (hlooks : activity.LooksForKeys id move) :
    ∃ holding : Activity σ, holding.session = activity.session ∧ step = holding.enterKeys id := by
  cases allows_of_step? hstep with
  | beginKeys =>
    cases hlooks.1
    exact ⟨{ activity with fetching := some id }, rfl, rfl⟩
  | queueKeys hnew hheld => exact absurd hlooks.2 hheld
  | takeTurn =>
    cases hlooks
    exact ⟨activity, rfl, rfl⟩
  | _ => exact hlooks.elim

theorem not_looks_of_keys {user : SignedInUser} {unwrapBKey : String}
    (hstep : activity.step? move = some step)
    (hwaiting : activity.waiting? id = some (.keys user unwrapBKey)) :
    ¬ activity.LooksForKeys id move := by
  intro hlooks
  cases allows_of_step? hstep with
  | beginKeys hnew | queueKeys hnew =>
    cases hlooks.1
    cases hwaiting.symm.trans hnew
  | takeTurn hturn hwaitingToo =>
    cases hlooks
    cases hwaiting.symm.trans hwaitingToo
  | _ => exact hlooks.elim

theorem looks_of_keys {user : SignedInUser} {unwrapBKey : String}
    (hstep : activity.step? move = some step) (hmove : move = .beginKeys id ∨ move = .takeTurn id)
    (hafter : step.state.waiting? id = some (.keys user unwrapBKey)) :
    activity.LooksForKeys id move := by
  rcases hmove with rfl | rfl
  · cases allows_of_step? hstep with
    | beginKeys hnew hfree => exact ⟨rfl, hfree⟩
    | queueKeys => simp at hafter
  · rfl

/-- What a call saw that waits for keys, when it looked: a user without keys, and the tokens to get
them. -/
structure Saw (looked : Made (Activity σ) (Move σ) Reply) (user : SignedInUser)
    (unwrapBKey : String) : Prop where
  seen : looked.before.session.snapshot.result = .ok (some user)
  keyless : user.record.hasKeys = false
  unwrapBKey : user.record.unwrapBKey = some unwrapBKey
  asked : ∃ token, user.record.keyFetchToken = some token ∧
    callsOf looked.step.effects = [.fetchKeys token]

/-- A call that waits for keys has looked, and remembers what it saw. -/
theorem saw_of_run (hopened : start.Opened) (run : Run step? start history finish)
    {user : SignedInUser} {unwrapBKey : String}
    (hwaiting : finish.waiting? id = some (.keys user unwrapBKey)) :
    ∃ looked, LastOf (fun made => made.before.LooksForKeys id made.move) history looked ∧
      Saw looked user unwrapBKey := by
  refine run.induction (P := fun history activity =>
    activity.waiting? id = some (.keys user unwrapBKey) →
      ∃ looked, LastOf (fun made => made.before.LooksForKeys id made.move) history looked ∧
        Saw looked user unwrapBKey) ?_ ?_ hwaiting
  · obtain ⟨store, polling, rfl⟩ := hopened
    exact fun hnone => by cases hnone
  · intro past made _ hstep hbefore hafter
    rcases planned_of_step? hstep hafter with hkept | ⟨hmove, token, hbegun⟩
    · obtain ⟨looked, hlast, hsaw⟩ := hbefore hkept
      exact ⟨looked, hlast.concat (not_looks_of_keys hstep hkept), hsaw⟩
    · have hlooks := looks_of_keys hstep hmove hafter
      obtain ⟨holding, hsession, henters⟩ := enters_of_looks hstep hlooks
      obtain ⟨hseen, htoken, hcalls⟩ := of_beginKeys_eq_fetch hbegun
      obtain ⟨hkeyless, hunwrap⟩ := tokens_of_beginKeys hbegun
      refine ⟨made, .of_concat past hlooks, hseen, hkeyless, hunwrap, token, htoken, ?_⟩
      rw [henters, callsOf_enterKeys, hsession, hcalls]

/-! ### Getting -/

/-- What a call has done that fetched the keys of a user: it saw the user, unwrapped what the
service answered, and stored the record of the user with both keys. -/
inductive Exchanged [LawfulStore σ] (past : History σ) (made : Made (Activity σ) (Move σ) Reply)
    (id : CallId) (record : CredentialRecord) : Prop
  | intro {looked : Made (Activity σ) (Move σ) Reply} {user : SignedInUser}
      {unwrapBKey kB : String} {bundle : KeyBundle}
      (hlooked : LastOf (fun other => other.before.LooksForKeys id other.move) past looked)
      (hsaw : Saw looked user unwrapBKey) (hmove : made.move = .answerKeys id (.ok bundle))
      (hderived : KeyDerivation.deriveKB bundle.wrapKB unwrapBKey = .ok kB)
      (hrecord : record = { user.record with
        kA := some (Hex.encode bundle.kA)
        kB := some kB
        keyFetchToken := none
        unwrapBKey := none
        isVerified := true })
      (hstored : contents made.after.session.store = some (.ok record)) :
      Exchanged past made id record

/-- A call that returns a record when it is answered got keys, and has stored that record. -/
theorem of_returned_answered {answer : Except RemoteError KeyBundle}
    (hstep : made.before.step? made.move = some made.step)
    (hmove : made.move = .answerKeys id answer)
    (hreturned : (id, .ok (.record record)) ∈ returnedOf made.step.effects) :
    ∃ user unwrapBKey bundle, made.before.waiting? id = some (.keys user unwrapBKey) ∧
      answer = .ok bundle ∧
      (made.before.session.finishKeys user unwrapBKey answer).result = .ok record ∧
      made.after.session = (made.before.session.finishKeys user unwrapBKey answer).state := by
  obtain ⟨before, move, step⟩ := made
  dsimp only at hmove hstep hreturned
  subst hmove
  cases allows_of_step? hstep with
  | @answerKeys _ user unwrapBKey hwaiting =>
    obtain ⟨-, other, hresult, hanswer⟩ :=
      of_returned_returnKeys (returnedOf_finishKeys _ _ _ _) hreturned
    obtain rfl := Answer.record.inj hanswer
    cases answer with
    | error error => cases hresult
    | ok bundle =>
      exact ⟨user, unwrapBKey, bundle, hwaiting, rfl, hresult, session_returnKeys _ _ _ _⟩

theorem exchanged_of_run [LawfulStore σ] {answer : Except RemoteError KeyBundle}
    (hopened : start.Opened) (hpast : Run step? start past made.before)
    (hstep : made.before.step? made.move = some made.step)
    (hmove : made.move = .answerKeys id answer)
    (hreturned : (id, .ok (.record record)) ∈ returnedOf made.step.effects) :
    Exchanged past made id record := by
  obtain ⟨user, unwrapBKey, bundle, hwaiting, rfl, hresult, hafter⟩ :=
    of_returned_answered hstep hmove hreturned
  obtain ⟨looked, hlooked, hsaw⟩ := saw_of_run hopened hpast hwaiting
  obtain ⟨kB, hderived, hrecord, -, store, hput, hstate⟩ := keyed_of_finishKeys hresult
  refine .intro hlooked hsaw hmove hderived hrecord ?_
  rw [hafter, hstate]
  exact contents_of_put_eq_ok hput

/-! ### Finding -/

/-- Whether the store may be read as long as a record is cached, or keys are fetched in this epoch,
whoever else writes the store. -/
structure MayRead (activity : Activity σ) : Prop where
  cached : ∀ record, activity.session.cached = some record → activity.session.pendingClear = false
  fetching : ∀ id user unwrapBKey, activity.waiting? id = some (.keys user unwrapBKey) →
    user.generation ≤ activity.session.epoch ∧
      (user.generation = activity.session.epoch → activity.session.pendingClear = false)

theorem MayRead.seen [LawfulStore σ] (h : activity.MayRead) {user : SignedInUser}
    (hlooked : activity.session.snapshot.result = .ok (some user)) :
    activity.session.pendingClear = false := by
  cases Shows.of_snapshot hlooked with
  | cached hcached => exact h.cached _ hcached
  | stored hpending => exact hpending

theorem MayRead.of_alters [LawfulStore σ] (h : activity.MayRead) {after : Session σ}
    (halters : activity.Alters move after) {other : CredentialRecord}
    (hcached : after.cached = some other) : after.pendingClear = false := by
  cases halters with
  | keeps hloads =>
    rcases hloads with rfl | ⟨-, hpending, read, hget, rfl⟩
    · exact h.cached other hcached
    · exact hpending
  | evicts => cases hcached
  | writes hloads hheld hwrites =>
    refine hloads.pendingClear.trans ?_
    cases hwrites with
    | keys hwaiting hepoch => exact (h.fetching _ _ _ hwaiting).2 hepoch
    | verified hwaiting hepoch hlooked => exact h.seen hlooked

theorem mayRead_step [LawfulStore σ] (hstep : activity.step? move = some step)
    (h : activity.MayRead) : step.state.MayRead := by
  have hremembered {other : CallId} {user : SignedInUser} {unwrapBKey : String}
      (hwaiting : step.state.waiting? other = some (.keys user unwrapBKey)) :
      user.generation ≤ activity.session.epoch ∧
        (user.generation = activity.session.epoch → activity.session.pendingClear = false) := by
    rcases remembered_of_step? hstep hwaiting with hbefore | hlooked
    · exact h.fetching other user unwrapBKey hbefore
    · exact ⟨Nat.le_of_eq (of_snapshot_eq_some hlooked).1, fun _ => h.seen hlooked⟩
  by_cases hepoch : BeginsEpoch move step.result
  · have hnext := epoch_of_beginsEpoch hstep hepoch
    refine ⟨fun other hcached => ?_, fun other user unwrapBKey hwaiting => ?_⟩
    · rcases presents_of_beginsEpoch hstep hepoch with ⟨signed, -, -, hpresents⟩ | ⟨-, hvacant⟩
      · exact hpresents.readable
      · cases hvacant.cached.symm.trans hcached
    · have hbefore := (hremembered hwaiting).1
      exact ⟨by omega, fun hgeneration => by omega⟩
  · have hquiet : (∃ change, move = .alterStore change) ∨ move.KeepsContents := by
      cases move with
      | alterStore change => exact .inl ⟨change, rfl⟩
      | _ => exact .inr trivial
    rcases hquiet with ⟨change, rfl⟩ | hquiet
    · cases hstep
      exact ⟨h.cached, h.fetching⟩
    · have halters := alters_of_step? hstep hepoch hquiet
      refine ⟨fun other hcached => h.of_alters halters hcached,
        fun other user unwrapBKey hwaiting => ?_⟩
      rw [epoch_of_not_beginsEpoch hstep hepoch, halters.pendingClear]
      exact hremembered hwaiting

theorem mayRead_of_run [LawfulStore σ] (hopened : start.Opened)
    (run : Run step? start history finish) : finish.MayRead := by
  refine run.invariant (P := MayRead) ?_ mayRead_step
  obtain ⟨store, polling, rfl⟩ := hopened
  exact ⟨fun other hcached => (by cases hcached), fun other user unwrapBKey hwaiting =>
    (by cases hwaiting)⟩

/-- A record with keys that is cached and stored is settled, if nobody fetches any. -/
theorem Settled.of_stored [LawfulStore σ] (hturns : activity.Turns)
    (hnone : ∀ id, ¬ activity.Fetching id) (hreadable : activity.session.pendingClear = false)
    (hcached : activity.session.cached = some record)
    (hstored : contents activity.session.store = some (.ok record))
    (hkeyed : ∃ user kA kB, record = withKeys user kA kB) : activity.Settled record where
  sound.turns := hturns
  sound.faithful.cached other hother := by
    obtain rfl := Option.some.inj (hcached.symm.trans hother)
    exact ⟨hreadable, hstored⟩
  sound.faithful.fetching other user unwrapBKey hwaiting :=
    absurd ⟨user, unwrapBKey, hwaiting⟩ (hnone other)
  sound.fetches other user unwrapBKey hwaiting :=
    absurd ⟨user, unwrapBKey, hwaiting⟩ (hnone other)
  signedIn := ⟨hreadable, hstored, fun _ hother => Option.some.inj (hother.symm.trans hcached)⟩
  keyed := hkeyed
  none := hnone

/-- Keys that came are settled once they are stored, whoever wrote the store before. -/
theorem settled_of_returned [LawfulStore σ] {answer : Except RemoteError KeyBundle}
    (hopened : start.Opened) (hpast : Run step? start past made.before)
    (hstep : made.before.step? made.move = some made.step)
    (hmove : made.move = .answerKeys id answer)
    (hreturned : (id, .ok (.record record)) ∈ returnedOf made.step.effects) :
    made.after.Settled record ∧ made.after.session.epoch = made.before.session.epoch := by
  have hturns := turns_of_run hopened hpast
  obtain ⟨user, unwrapBKey, bundle, hwaiting, rfl, hresult, hafter⟩ :=
    of_returned_answered hstep hmove hreturned
  obtain ⟨kB, -, hrecord, hepoch, store, hput, hstate⟩ := keyed_of_finishKeys hresult
  rw [hstate] at hafter
  refine ⟨.of_stored (turns_step hstep hturns) ?_ ?_ ?_ ?_ ⟨_, _, _, hrecord⟩, ?_⟩
  · rw [hmove] at hstep
    exact fun other => hturns.none_after_answer hstep
  · rw [hafter]
    exact ((mayRead_of_run hopened hpast).fetching id user unwrapBKey hwaiting).2 hepoch
  · rw [hafter]
  · rw [hafter]
    exact contents_of_put_eq_ok hput
  · rw [hafter]

/-- Whether a call finds a record in the store and returns it without calling the service. Only a
store that fails keeps it from that, if nothing is cached. -/
structure Finds [LawfulStore σ] (made : Made (Activity σ) (Move σ) Reply) (id : CallId)
    (record : CredentialRecord) : Prop where
  stored : contents made.before.session.store = some (.ok record)
  uncalled : callsOf made.step.effects = []
  returned : returnedOf made.step.effects = [(id, .ok (.record record))] ∨
    made.before.session.cached = none ∧ ∃ error,
      CredentialStore.get made.before.session.store = .error error ∧
        returnedOf made.step.effects = [(id, .error (.storage error))]

theorem Settled.finds [LawfulStore σ] (h : made.before.Settled record)
    (hstep : made.before.step? made.move = some made.step)
    (hlooks : made.before.LooksForKeys id made.move) : Finds made id record := by
  obtain ⟨holding, hsession, henters⟩ := enters_of_looks hstep hlooks
  have hlogs := made.before.session.snapshot_onlyLogs
  rcases h.signedIn.seen_or with hseen | ⟨hcached, error, hget, hunseen⟩
  · have hbegun : made.before.session.beginKeys =
        ⟨.ok (.present record), made.before.session.snapshot.state,
          made.before.session.snapshot.effects⟩ := by
      simp [beginKeys, hseen, keyPlan, h.hasKeys]
    refine ⟨h.signedIn.stored, ?_, .inl ?_⟩
    · rw [henters, callsOf_enterKeys, hsession, hbegun]
      exact hlogs.2.1
    · rw [henters, enterKeys, hsession, hbegun]
      simp [returnKeys, hlogs.2.2, Except.map]
  · have hbegun : made.before.session.beginKeys =
        ⟨.error (.storage error), made.before.session.snapshot.state,
          made.before.session.snapshot.effects⟩ := by
      simp [beginKeys, hunseen]
    refine ⟨h.signedIn.stored, ?_, .inr ⟨hcached, error, hget, ?_⟩⟩
    · rw [henters, callsOf_enterKeys, hsession, hbegun]
      exact hlogs.2.1
    · rw [henters, enterKeys, hsession, hbegun]
      simp [returnKeys, hlogs.2.2, Except.map]

/-- Unwrapping a key is exact and can be undone. A call that fetches keys returns and stores the
record that it saw with the two keys in it. As long as nobody else writes the store, whoever looks
for keys later in that epoch finds that record there. -/
theorem keys_are_exact [LawfulStore σ] :
    (∀ wrapped unwrapBKey, KeyDerivation.Unwraps wrapped unwrapBKey) ∧
    ∀ (start finish : Activity σ) (past later : History σ)
      (made : Made (Activity σ) (Move σ) Reply) (id : CallId)
      (answer : Except RemoteError KeyBundle) (record : CredentialRecord),
      start.Opened → Run step? start (past ++ made :: later) finish →
      made.move = .answerKeys id answer →
      (id, .ok (.record record)) ∈ returnedOf made.step.effects →
        Exchanged past made id record ∧
        ((∀ other ∈ later, other.move.KeepsContents) →
          finish.session.epoch = made.before.session.epoch →
          ∀ other ∈ later, ∀ next, other.before.LooksForKeys next other.move →
            Finds other next record) := by
  refine ⟨KeyDerivation.unwraps, ?_⟩
  intro start finish past later made id answer record hopened run hmove hreturned
  obtain ⟨hpast, hstep, hlater⟩ := run.cut
  refine ⟨exchanged_of_run hopened hpast hstep hmove hreturned, ?_⟩
  intro hquiet hepoch other hother next hlooks
  obtain ⟨hsettled, hstays⟩ := settled_of_returned hopened hpast hstep hmove hreturned
  obtain ⟨between, rest, rfl⟩ := List.append_of_mem hother
  exact (hsettled.reached hlater hquiet (hepoch.trans hstays.symm)).finds hlater.cut.2.1 hlooks

/-- An unwrapping key may be in capitals. -/
theorem capitals_unwrap_the_key :
    ∃ finish, ∃ past : History (BlobCredentials MemoryBlobs),
      ∃ made other : Made (Activity (BlobCredentials MemoryBlobs)) (Move _) Reply,
        Run step? (blank memory) (past ++ made :: [other]) finish ∧
          Exchanged past made 0 { kA := some "44", kB := some "ba", isVerified := true } ∧
          Finds other 1 { kA := some "44", kB := some "ba", isVerified := true } := by
  obtain ⟨finish, run⟩ := run_played step? (blank memory) [
    .signIn { keyFetchToken := some "fetch", unwrapBKey := some "AB" },
    .beginKeys 0,
    .answerKeys 0 (.ok { kA := [0x44], wrapKB := [0x11] }),
    .beginKeys 1]
  refine ⟨finish, [_, _], _, _, run, ?_⟩
  obtain ⟨hexchanged, hfinds⟩ := keys_are_exact.2 (blank memory) finish [_, _] [_] _ 0
    (.ok { kA := [0x44], wrapKB := [0x11] })
    { kA := some "44", kB := some "ba", isVerified := true } (blank_opened memory) run rfl
    (List.mem_singleton_self _)
  refine ⟨hexchanged, hfinds ?_ ?_ _ (List.mem_singleton_self _) 1 ⟨rfl, rfl⟩⟩
  · simp [Move.KeepsContents]
  · obtain ⟨-, -, -, -, -, -, -, -, rfl⟩ := run
    decide

/-- Keys that were stored are not found again if they have to be read from a store that fails, or
that somebody else has emptied. -/
theorem stored_keys_are_missed :
    ∃ finish, ∃ past : History (RefusingCredentials (BlobCredentials MemoryBlobs)),
      ∃ made evicted refused second emptied third,
        Run step? (blank { store := memory })
          (past ++ made :: [evicted, refused, second, emptied, third]) finish ∧
        Exchanged past made 0 { kA := some "44", kB := some "ba", isVerified := true } ∧
        third.before.session.epoch = made.before.session.epoch ∧
        second.before.LooksForKeys 1 second.move ∧
        returnedOf second.step.effects = [(1, .error (.storage (.blob (.other "broken"))))] ∧
        third.before.LooksForKeys 2 third.move ∧
        returnedOf third.step.effects = [(2, .error .notSignedIn)] := by
  let start : Activity (RefusingCredentials (BlobCredentials MemoryBlobs)) :=
    blank { store := memory }
  obtain ⟨finish, run⟩ := run_played step? start [
    .signIn { keyFetchToken := some "fetch", unwrapBKey := some "AB" },
    .beginKeys 0,
    .answerKeys 0 (.ok { kA := [0x44], wrapKB := [0x11] }),
    .evict,
    .alterStore fun refusing => { refusing with getRefusal := some "broken" },
    .beginKeys 1,
    .alterStore fun _ => { store := memory },
    .beginKeys 2]
  obtain ⟨hpast, hstep, -⟩ := @Run.cut _ _ _ _ _ _ [_, _] [_, _, _, _, _] _ run
  have hexchanged := exchanged_of_run (blank_opened _) hpast hstep rfl (List.mem_singleton_self _)
  refine ⟨finish, [_, _], _, _, _, _, _, _, run, hexchanged, ?_, ⟨rfl, rfl⟩, rfl, ⟨rfl, rfl⟩, rfl⟩
  decide

end Activity

end AccountManager.Session
