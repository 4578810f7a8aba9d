import AccountManager.Proofs.Secrecy
import AccountManager.Proofs.Storage.Lawful
import AccountManager.Session.Activity

/-!
# Sessions that differ in secrets

Two sessions are alike if they differ in tokens, keys and assertions only. Alike sessions handle
alike moves alike: each operation goes the same way in both, so it logs the same, tells subscribers
the same and comes to results of one kind, and it leaves them alike.
-/

namespace AccountManager

namespace Storage

/-- A store in which every write succeeds and is told afterwards. -/
class Reliable (σ : Type) [CredentialStore σ] : Prop where
  put_eq_ok (store : σ) (record : CredentialRecord) :
    (CredentialStore.put store record).1 = .ok ()
  get_put (store : σ) (record : CredentialRecord) :
    CredentialStore.get (CredentialStore.put store record).2 = .ok (some record)
  clear_eq_ok (store : σ) : (CredentialStore.clear store).1 = .ok ()
  get_clear (store : σ) : CredentialStore.get (CredentialStore.clear store).2 = .ok none

/-- Memory never refuses. -/
instance : Reliable (BlobCredentials MemoryBlobs) where
  put_eq_ok _ _ := rfl
  get_put store record := by
    refine BlobCredentials.ReadsBlob.tells ⟨_, rfl⟩ record ?_
    exact contents_of_put_eq_ok rfl
  clear_eq_ok _ := rfl
  get_clear store := BlobCredentials.readsNothing _ (contents_of_clear_eq_ok rfl)

variable {σ : Type} [CredentialStore σ] [Reliable σ]

theorem put_alike (left right : σ) {record other : CredentialRecord}
    (hrecords : record.Alike other) :
    ∃ after otherAfter, CredentialStore.put left record = (.ok (), after) ∧
      CredentialStore.put right other = (.ok (), otherAfter) ∧ Storage.Alike after otherAfter := by
  refine ⟨_, _, Prod.ext (Reliable.put_eq_ok left record) rfl,
    Prod.ext (Reliable.put_eq_ok right other) rfl, ?_⟩
  unfold Storage.Alike
  rw [Reliable.get_put, Reliable.get_put]
  exact .ok (.some hrecords)

theorem clear_alike (left right : σ) :
    ∃ after otherAfter, CredentialStore.clear left = (.ok (), after) ∧
      CredentialStore.clear right = (.ok (), otherAfter) ∧ Storage.Alike after otherAfter := by
  refine ⟨_, _, Prod.ext (Reliable.clear_eq_ok left) rfl,
    Prod.ext (Reliable.clear_eq_ok right) rfl, ?_⟩
  unfold Storage.Alike
  rw [Reliable.get_clear, Reliable.get_clear]
  exact .ok .none

end Storage

/-- Whether two users were seen in one epoch and have alike records. -/
structure SignedInUser.Alike (left right : SignedInUser) : Prop where
  record : left.record.Alike right.record
  generation : left.generation = right.generation

namespace Session

open Storage

variable {σ : Type} [CredentialStore σ] {left right : Session σ}

/-- Whether two sessions differ in secrets only. -/
structure Alike (left right : Session σ) : Prop where
  store : Storage.Alike left.store right.store
  cached : Option.Rel CredentialRecord.Alike left.cached right.cached
  pendingClear : left.pendingClear = right.pendingClear
  epoch : left.epoch = right.epoch

/-! ### Operations -/

theorem evict_alike (h : left.Alike right) : left.evict.Alike right.evict :=
  { h with cached := .none }

theorem snapshot_alike (h : left.Alike right) :
    Step.Alike (ResultsAlike Eq (Option.Rel SignedInUser.Alike)) Session.Alike left.snapshot
      right.snapshot := by
  obtain ⟨store, cached, pendingClear, epoch⟩ := left
  obtain ⟨otherStore, otherCached, otherPending, otherEpoch⟩ := right
  obtain ⟨hstores, hcached, hpending, hepoch⟩ := h
  dsimp only at hstores hcached hpending hepoch
  subst hpending hepoch
  cases hcached with
  | some hrecords => exact ⟨.ok (.some ⟨hrecords, rfl⟩), ⟨hstores, .some hrecords, rfl, rfl⟩, rfl⟩
  | none =>
    cases pendingClear with
    | true => exact ⟨.ok .none, ⟨hstores, .none, rfl, rfl⟩, rfl⟩
    | false =>
      have hsame := hstores
      unfold Storage.Alike at hsame
      unfold snapshot
      dsimp only
      generalize CredentialStore.get store = told at hsame
      generalize CredentialStore.get otherStore = otherTold at hsame
      cases hsame with
      | error herrors => exact ⟨.error herrors, ⟨hstores, .none, rfl, rfl⟩, rfl⟩
      | ok hfound =>
        cases hfound with
        | none => exact ⟨.ok .none, ⟨hstores, .none, rfl, rfl⟩, rfl⟩
        | some hrecords =>
          exact ⟨.ok (.some ⟨hrecords, rfl⟩), ⟨hstores, .some hrecords, rfl, rfl⟩, rfl⟩

/-! ### What calls remember -/

/-- Whether the keys are got in one way for alike users. -/
inductive KeyPlan.Alike : KeyPlan → KeyPlan → Prop
  | present {left right : CredentialRecord} (hrecords : left.Alike right) :
      KeyPlan.Alike (.present left) (.present right)
  | fetch {left right : SignedInUser} {token otherToken unwrapBKey otherKey : String}
      (husers : left.Alike right) (hdigits : DigitsAlike unwrapBKey otherKey) :
      KeyPlan.Alike (.fetch left token unwrapBKey) (.fetch right otherToken otherKey)

/-- Whether two waits are equally far in one epoch. -/
structure Poll.Alike (left right : Poll) : Prop where
  generation : left.generation = right.generation
  asked : left.asked = right.asked

inductive PollPlan.Alike : PollPlan → PollPlan → Prop
  | verified {left right : CredentialRecord} (hrecords : left.Alike right) :
      PollPlan.Alike (.verified left) (.verified right)
  | ask {left right : Poll} (hpolls : left.Alike right) : PollPlan.Alike (.ask left) (.ask right)
  | sleep {left right : Poll} (hpolls : left.Alike right) :
      PollPlan.Alike (.sleep left) (.sleep right)

/-- Whether two calls wait for the same, on behalf of alike users. -/
inductive Waiting.Alike : Waiting → Waiting → Prop
  | turn : Waiting.Alike .turn .turn
  | keys {left right : SignedInUser} {unwrapBKey otherKey : String} (husers : left.Alike right)
      (hdigits : DigitsAlike unwrapBKey otherKey) :
      Waiting.Alike (.keys left unwrapBKey) (.keys right otherKey)
  | status {left right : Poll} (hpolls : left.Alike right) :
      Waiting.Alike (.status left) (.status right)
  | timer {left right : Poll} (hpolls : left.Alike right) :
      Waiting.Alike (.timer left) (.timer right)

theorem keyPlan_alike {user other : SignedInUser} (h : user.Alike other) :
    ResultsAlike AccountError.Alike KeyPlan.Alike (keyPlan user) (keyPlan other) := by
  unfold keyPlan
  rw [h.record.hasKeys]
  split
  · exact .ok (.present h.record)
  · have htokens := rel_of_isSome_eq h.record.keyFetchToken
    have hunwraps := h.record.unwrapBKey
    generalize user.record.keyFetchToken = token at htokens
    generalize other.record.keyFetchToken = otherToken at htokens
    generalize user.record.unwrapBKey = unwrapBKey at hunwraps
    generalize other.record.unwrapBKey = otherKey at hunwraps
    cases htokens with
    | none => exact .error rfl
    | some =>
      cases hunwraps with
      | none => exact .error rfl
      | some hdigits => exact .ok (.fetch h hdigits)

theorem withKeys_alike {record other : CredentialRecord} (h : record.Alike other)
    (kA kB otherA otherB : String) : (withKeys record kA kB).Alike (withKeys other otherA otherB) :=
  { h with
    isVerified := rfl
    keyFetchToken := rfl
    unwrapBKey := .none
    kA := rfl
    kB := rfl }

theorem beginKeys_alike (h : left.Alike right) :
    Step.Alike (ResultsAlike AccountError.Alike KeyPlan.Alike) Session.Alike left.beginKeys
      right.beginKeys := by
  obtain ⟨hlooked, hstate, hshown⟩ := snapshot_alike h
  unfold beginKeys
  dsimp only
  generalize left.snapshot.result = looked at hlooked
  generalize right.snapshot.result = otherLooked at hlooked
  cases hlooked with
  | error herrors =>
    subst herrors
    exact ⟨.error rfl, hstate, hshown⟩
  | ok hfound =>
    cases hfound with
    | none => exact ⟨.error rfl, hstate, hshown⟩
    | @some user other husers =>
      have hplans := keyPlan_alike husers
      dsimp only
      generalize keyPlan user = plan at hplans
      generalize keyPlan other = otherPlan at hplans
      cases hplans with
      | error herrors => exact ⟨.error herrors, hstate, hshown⟩
      | ok hplan =>
        cases hplan with
        | present hrecords => exact ⟨.ok (.present hrecords), hstate, hshown⟩
        | fetch husers hdigits =>
          refine ⟨.ok (.fetch husers hdigits), hstate, ?_⟩
          simp only [shownOf_append, hshown]
          rfl

theorem ask_alike (h : left.Alike right) {poll other : Poll} (hpolls : poll.Alike other) :
    Step.Alike (ResultsAlike AccountError.Alike PollPlan.Alike) Session.Alike (left.ask poll)
      (right.ask other) := by
  unfold ask
  rw [h.epoch, hpolls.generation]
  split
  · exact ⟨.error rfl, h, rfl⟩
  · exact ⟨.ok (.ask ⟨rfl, congrArg (· + 1) hpolls.asked⟩), h, rfl⟩

theorem beginVerification_alike (h : left.Alike right) {record other : CredentialRecord}
    (hrecords : record.Alike other) :
    Step.Alike (ResultsAlike AccountError.Alike PollPlan.Alike) Session.Alike
      (left.beginVerification record) (right.beginVerification other) := by
  unfold beginVerification
  rw [hrecords.isVerified]
  split
  · exact ⟨.ok (.verified hrecords), h, rfl⟩
  · have htokens := rel_of_isSome_eq hrecords.sessionToken
    generalize record.sessionToken = token at htokens
    generalize other.sessionToken = otherToken at htokens
    cases htokens with
    | none => exact ⟨.error rfl, h, rfl⟩
    | some => exact ask_alike h ⟨h.epoch, rfl⟩

section Reliable

variable [Reliable σ] {record other : CredentialRecord}

theorem signIn_alike (h : left.Alike right) (hrecords : record.Alike other) :
    Step.Alike Eq Session.Alike (left.signIn record) (right.signIn other) := by
  obtain ⟨after, otherAfter, hput, hotherPut, hstores⟩ :=
    put_alike left.store right.store hrecords
  unfold signIn
  rw [hput, hotherPut]
  exact ⟨rfl, ⟨hstores, .some hrecords, rfl, congrArg (· + 1) h.epoch⟩, rfl⟩

theorem signOut_alike (h : left.Alike right) :
    Step.Alike Eq Session.Alike left.signOut right.signOut := by
  obtain ⟨after, otherAfter, hclear, hotherClear, hstores⟩ := clear_alike left.store right.store
  unfold signOut
  rw [hclear, hotherClear]
  exact ⟨rfl, ⟨hstores, .none, rfl, congrArg (· + 1) h.epoch⟩, rfl⟩

theorem commit_alike (h : left.Alike right) (generation : Nat) (hrecords : record.Alike other) :
    Step.Alike Eq Session.Alike (left.commit generation record)
      (right.commit generation other) := by
  obtain ⟨after, otherAfter, hput, hotherPut, hstores⟩ :=
    put_alike left.store right.store hrecords
  unfold commit
  rw [hput, hotherPut, h.epoch]
  split
  · exact ⟨rfl, h, rfl⟩
  · exact ⟨rfl, ⟨hstores, .some hrecords, h.pendingClear, rfl⟩, rfl⟩

/-- The answer to a key fetch is taken alike if it brings keys of the same lengths. -/
theorem finishKeys_alike (h : left.Alike right) {user otherUser : SignedInUser}
    {unwrapBKey otherKey : String} {answer otherAnswer : Except RemoteError KeyBundle}
    (husers : user.Alike otherUser) (hdigits : DigitsAlike unwrapBKey otherKey)
    (hanswers : ResultsAlike Eq KeyBundle.Alike answer otherAnswer) :
    Step.Alike (ResultsAlike AccountError.Alike CredentialRecord.Alike) Session.Alike
      (left.finishKeys user unwrapBKey answer)
      (right.finishKeys otherUser otherKey otherAnswer) := by
  unfold finishKeys
  cases hanswers with
  | error herrors =>
    subst herrors
    exact ⟨.error rfl, h, rfl⟩
  | @ok bundle otherBundle hbundles =>
    have hderived := deriveKB_alike hbundles.2 hdigits
    dsimp only
    generalize KeyDerivation.deriveKB bundle.wrapKB unwrapBKey = derived at hderived
    generalize KeyDerivation.deriveKB otherBundle.wrapKB otherKey = otherDerived at hderived
    cases hderived with
    | error herrors => exact ⟨.error herrors, h, rfl⟩
    | @ok kB otherB =>
      have hupdated := withKeys_alike husers.record (Hex.encode bundle.kA) kB
        (Hex.encode otherBundle.kA) otherB
      have hcommitted := commit_alike h user.generation hupdated
      rw [← husers.generation]
      dsimp only
      generalize left.commit user.generation _ = committed at hcommitted
      generalize right.commit user.generation _ = otherCommitted at hcommitted
      obtain ⟨hresult, hstate, hshown⟩ := hcommitted
      rw [hresult]
      cases otherCommitted.result with
      | error error => exact ⟨.error rfl, hstate, hshown⟩
      | ok _ =>
        refine ⟨.ok hupdated, hstate, ?_⟩
        simp only [shownOf_append, hshown]

theorem finishVerification_alike (h : left.Alike right) (generation : Nat) :
    Step.Alike (ResultsAlike AccountError.Alike CredentialRecord.Alike) Session.Alike
      (left.finishVerification generation) (right.finishVerification generation) := by
  obtain ⟨hlooked, hloaded, hlogged⟩ := snapshot_alike h
  unfold finishVerification
  dsimp only
  generalize left.snapshot.result = looked at hlooked
  generalize right.snapshot.result = otherLooked at hlooked
  cases hlooked with
  | error herrors =>
    subst herrors
    exact ⟨.error rfl, hloaded, hlogged⟩
  | ok hfound =>
    cases hfound with
    | none => exact ⟨.error rfl, hloaded, hlogged⟩
    | @some user other husers =>
      dsimp only
      rw [husers.generation]
      split
      · exact ⟨.error rfl, hloaded, hlogged⟩
      · have hcommitted := commit_alike hloaded generation husers.record.verified
        generalize left.snapshot.state.commit generation _ = committed at hcommitted
        generalize right.snapshot.state.commit generation _ = otherCommitted at hcommitted
        obtain ⟨hresult, hstate, hshown⟩ := hcommitted
        rw [hresult]
        cases otherCommitted.result with
        | error error =>
          refine ⟨.error rfl, hstate, ?_⟩
          simp only [shownOf_append, hlogged, hshown]
        | ok _ =>
          refine ⟨.ok husers.record.verified, hstate, ?_⟩
          simp only [shownOf_append, hlogged, hshown]

theorem answerStatus_alike (h : left.Alike right) (polling : Polling) {poll other : Poll}
    (hpolls : poll.Alike other) (answer : Except RemoteError Bool) :
    Step.Alike (ResultsAlike AccountError.Alike PollPlan.Alike) Session.Alike
      (left.answerStatus polling poll answer) (right.answerStatus polling other answer) := by
  unfold answerStatus
  split
  · exact ⟨.error rfl, h, rfl⟩
  · obtain ⟨hresult, hstate, hshown⟩ := finishVerification_alike h other.generation
    rw [hpolls.generation]
    exact ⟨hresult.map fun _ _ hrecords => .verified hrecords, hstate, hshown⟩
  · rw [hpolls.asked]
    split
    · exact ⟨.ok (.sleep hpolls), h, rfl⟩
    · exact ⟨.error rfl, h, rfl⟩

end Reliable

/-! ### Moves -/

/-- Whether two moves let the same happen to alike records. -/
inductive Move.Alike : Move σ → Move σ → Prop
  | look : Move.Alike .look .look
  | evict : Move.Alike .evict .evict
  | signIn {record other : CredentialRecord} (hrecords : record.Alike other) :
      Move.Alike (.signIn record) (.signIn other)
  | signOut : Move.Alike .signOut .signOut
  | beginKeys (id : CallId) : Move.Alike (.beginKeys id) (.beginKeys id)
  | takeTurn (id : CallId) : Move.Alike (.takeTurn id) (.takeTurn id)
  | answerKeys (id : CallId) {answer other : Except RemoteError KeyBundle}
      (hanswers : ResultsAlike Eq KeyBundle.Alike answer other) :
      Move.Alike (.answerKeys id answer) (.answerKeys id other)
  | beginVerification (id : CallId) {record other : CredentialRecord}
      (hrecords : record.Alike other) :
      Move.Alike (.beginVerification id record) (.beginVerification id other)
  | answerStatus (id : CallId) (answer : Except RemoteError Bool) :
      Move.Alike (.answerStatus id answer) (.answerStatus id answer)
  | wake (id : CallId) : Move.Alike (.wake id) (.wake id)
  | drop (id : CallId) : Move.Alike (.drop id) (.drop id)
  | alterStore {change other : σ → σ}
      (hchanges : ∀ left right, Storage.Alike left right →
        Storage.Alike (change left) (other right)) :
      Move.Alike (.alterStore change) (.alterStore other)

/-- Whether two moves give back the same, but for secrets. -/
inductive Reply.Alike : Reply → Reply → Prop
  | none : Reply.Alike .none .none
  | user {left right : Except StorageError (Option CredentialRecord)}
      (husers : ResultsAlike Eq (Option.Rel CredentialRecord.Alike) left right) :
      Reply.Alike (.user left) (.user right)
  | stored (result : Except StorageError Unit) : Reply.Alike (.stored result) (.stored result)

/-- What is shown of what a move gives back: a record is described. -/
def Reply.shown : Reply → Option (Except StorageError (Option String))
  | .none => Option.none
  | .user found => some (found.map fun held => held.map CredentialRecord.description)
  | .stored result => some (result.map fun _ => Option.none)

theorem Reply.Alike.shown {left right : Reply} (h : left.Alike right) :
    left.shown = right.shown := by
  cases h with
  | none => rfl
  | stored => rfl
  | user husers =>
    cases husers with
    | error herrors => rw [herrors]
    | ok hfound =>
      have hdescribed := map_eq_of_rel hfound fun _ _ hrecords => hrecords.description
      exact congrArg (fun described => some (Except.ok described)) hdescribed

namespace Activity

variable {left right : Activity σ} {id : CallId}

/-- Whether two activities differ in secrets only. -/
structure Alike (left right : Activity σ) : Prop where
  session : left.session.Alike right.session
  polling : left.polling = right.polling
  fetching : left.fetching = right.fetching
  queue : left.queue = right.queue
  calls : List.Forall₂ (EntriesAlike Waiting.Alike) left.calls right.calls

theorem Alike.withSession (h : left.Alike right) {session other : Session σ}
    (hsessions : session.Alike other) :
    Alike { left with session } { right with session := other } :=
  { h with session := hsessions }

theorem waiting?_alike (h : left.Alike right) (id : CallId) :
    Option.Rel Waiting.Alike (left.waiting? id) (right.waiting? id) :=
  rel_value h.calls id

theorem forget_alike (h : left.Alike right) (id : CallId) :
    (left.forget id).Alike (right.forget id) :=
  { h with calls := rel_erase h.calls id }

theorem passTurn_alike (h : left.Alike right) : left.passTurn.Alike right.passTurn := by
  unfold passTurn
  rw [h.queue]
  split
  · exact { h with fetching := rfl, queue := rfl }
  · exact { h with fetching := rfl, queue := rfl }

theorem suspend_alike (h : left.Alike right) (id : CallId) {waiting other : Waiting}
    (hwaiting : waiting.Alike other) :
    (left.suspend id waiting).Alike (right.suspend id other) := by
  unfold suspend
  rw [isSome_eq_of_rel (waiting?_alike h id)]
  split
  · exact { h with calls := rel_replace h.calls id hwaiting }
  · exact { h with calls := List.rel_append h.calls (.cons ⟨rfl, hwaiting⟩ .nil) }

theorem dropCall_alike (h : left.Alike right) (id : CallId) :
    (left.dropCall id).Alike (right.dropCall id) := by
  have hrest := forget_alike h id
  unfold dropCall
  rw [h.fetching]
  split
  · exact passTurn_alike hrest
  · exact { hrest with queue := congrArg (List.filter _) hrest.queue }

theorem returnKeys_alike (h : left.Alike right) (id : CallId)
    {result other : Except AccountError CredentialRecord} {effects otherEffects : List Effect}
    (hresults : ResultsAlike AccountError.Alike CredentialRecord.Alike result other)
    (hshown : shownOf effects = shownOf otherEffects) :
    Step.Alike Reply.Alike Activity.Alike (left.returnKeys id result effects)
      (right.returnKeys id other otherEffects) := by
  refine ⟨.none, passTurn_alike (forget_alike h id), ?_⟩
  unfold returnKeys
  rw [shownOf_append, shownOf_append, hshown,
    shownOf_returned id (hresults.map fun _ _ hrecords => .record hrecords)]

theorem continuePoll_alike (h : left.Alike right) (id : CallId)
    {step other : Step (Session σ) (Except AccountError PollPlan)}
    (hsteps : Step.Alike (ResultsAlike AccountError.Alike PollPlan.Alike) Session.Alike step
      other) :
    Step.Alike Reply.Alike Activity.Alike (left.continuePoll id step)
      (right.continuePoll id other) := by
  obtain ⟨result, session, effects⟩ := step
  obtain ⟨otherResult, otherSession, otherEffects⟩ := other
  obtain ⟨hresults, hsessions, hshown⟩ := hsteps
  dsimp only at hresults hsessions hshown
  have hnext := h.withSession hsessions
  have hreturn {result other : Except AccountError Answer}
      (hresults : ResultsAlike AccountError.Alike Answer.Alike result other) :
      shownOf (effects ++ [.returned id result]) =
        shownOf (otherEffects ++ [.returned id other]) := by
    rw [shownOf_append, shownOf_append, hshown, shownOf_returned id hresults]
  cases hresults with
  | error herrors => exact ⟨.none, forget_alike hnext id, hreturn (.error herrors)⟩
  | ok hplans =>
    cases hplans with
    | verified hrecords =>
      exact ⟨.none, forget_alike hnext id, hreturn (.ok (.record hrecords))⟩
    | ask hpolls => exact ⟨.none, suspend_alike hnext id (.status hpolls), hshown⟩
    | sleep hpolls => exact ⟨.none, suspend_alike hnext id (.timer hpolls), hshown⟩

theorem enterKeys_alike (h : left.Alike right) (id : CallId) :
    Step.Alike Reply.Alike Activity.Alike (left.enterKeys id) (right.enterKeys id) := by
  obtain ⟨hresult, hstate, hshown⟩ := beginKeys_alike h.session
  have hnext := h.withSession hstate
  unfold enterKeys
  dsimp only
  generalize left.session.beginKeys.result = plan at hresult
  generalize right.session.beginKeys.result = otherPlan at hresult
  cases hresult with
  | error herrors => exact returnKeys_alike hnext id (.error herrors) hshown
  | ok hplans =>
    cases hplans with
    | present hrecords => exact returnKeys_alike hnext id (.ok hrecords) hshown
    | fetch husers hdigits =>
      exact ⟨.none, suspend_alike hnext id (.keys husers hdigits), hshown⟩

/-- Alike calls let alike moves happen alike. -/
theorem step?_alike [Reliable σ] (h : left.Alike right) {move other : Move σ}
    (hmoves : move.Alike other) :
    Option.Rel (Step.Alike Reply.Alike Activity.Alike) (left.step? move) (right.step? other) := by
  have hbusy (id : CallId) : (left.waiting? id).isSome = (right.waiting? id).isSome :=
    isSome_eq_of_rel (waiting?_alike h id)
  cases hmoves with
  | look =>
    obtain ⟨hresult, hstate, hshown⟩ := snapshot_alike h.session
    refine .some ⟨.user (hresult.map fun _ _ hfound => ?_), h.withSession hstate, hshown⟩
    exact rel_map hfound fun _ _ husers => husers.record
  | evict => exact .some ⟨.none, h.withSession (evict_alike h.session), rfl⟩
  | signIn hrecords =>
    obtain ⟨hresult, hstate, hshown⟩ := signIn_alike h.session hrecords
    unfold step?
    dsimp only
    rw [hresult]
    exact .some ⟨.stored _, h.withSession hstate, hshown⟩
  | signOut =>
    obtain ⟨hresult, hstate, hshown⟩ := signOut_alike h.session
    unfold step?
    dsimp only
    rw [hresult]
    exact .some ⟨.stored _, h.withSession hstate, hshown⟩
  | beginKeys id =>
    have hfree : left.fetching.isNone = right.fetching.isNone := by rw [h.fetching]
    have hheld : Alike { left with fetching := some id } { right with fetching := some id } :=
      { h with fetching := rfl }
    have hqueued : Alike { left with queue := left.queue ++ [id] }
        { right with queue := right.queue ++ [id] } :=
      { h with queue := congrArg (· ++ [id]) h.queue }
    unfold step?
    dsimp only
    rw [hbusy, hfree]
    split
    · exact .none
    · split
      · exact .some (enterKeys_alike hheld id)
      · exact .some ⟨.none, suspend_alike hqueued id .turn, rfl⟩
  | takeTurn id =>
    have hturn : left.waiting? id = some .turn ↔ right.waiting? id = some .turn := by
      have hwaiting := waiting?_alike h id
      generalize left.waiting? id = waiting at hwaiting
      generalize right.waiting? id = other at hwaiting
      cases hwaiting with
      | none => exact Iff.rfl
      | some hwaiting => cases hwaiting <;> simp
    unfold step?
    dsimp only
    rw [h.fetching, if_congr (and_congr_right fun _ => hturn) rfl rfl]
    split
    · exact .some (enterKeys_alike h id)
    · exact .none
  | answerKeys id hanswers =>
    have hwaiting := waiting?_alike h id
    unfold step?
    dsimp only
    generalize left.waiting? id = waiting at hwaiting
    generalize right.waiting? id = other at hwaiting
    cases hwaiting with
    | none => exact .none
    | some hwaiting =>
      cases hwaiting with
      | turn | status | timer => exact .none
      | keys husers hdigits =>
        obtain ⟨hresult, hstate, hshown⟩ := finishKeys_alike h.session husers hdigits hanswers
        exact .some (returnKeys_alike (h.withSession hstate) id hresult hshown)
  | beginVerification id hrecords =>
    unfold step?
    dsimp only
    rw [hbusy]
    split
    · exact .none
    · exact .some (continuePoll_alike h id (beginVerification_alike h.session hrecords))
  | answerStatus id answer =>
    have hwaiting := waiting?_alike h id
    unfold step?
    dsimp only
    rw [h.polling]
    generalize left.waiting? id = waiting at hwaiting
    generalize right.waiting? id = other at hwaiting
    cases hwaiting with
    | none => exact .none
    | some hwaiting =>
      cases hwaiting with
      | turn | keys | timer => exact .none
      | status hpolls =>
        exact .some (continuePoll_alike h id (answerStatus_alike h.session _ hpolls answer))
  | wake id =>
    have hwaiting := waiting?_alike h id
    unfold step?
    dsimp only
    generalize left.waiting? id = waiting at hwaiting
    generalize right.waiting? id = other at hwaiting
    cases hwaiting with
    | none => exact .none
    | some hwaiting =>
      cases hwaiting with
      | turn | keys | status => exact .none
      | timer hpolls => exact .some (continuePoll_alike h id (ask_alike h.session hpolls))
  | drop id =>
    unfold step?
    dsimp only
    rw [hbusy]
    split
    · exact .some ⟨.none, dropCall_alike h id, rfl⟩
    · exact .none
  | alterStore hchanges =>
    have hstore := hchanges _ _ h.session.store
    exact .some ⟨.none, h.withSession { h.session with store := hstore }, rfl⟩

end Activity

end Session

end AccountManager
