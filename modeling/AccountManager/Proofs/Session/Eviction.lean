import AccountManager.Proofs.Session.Provenance

/-!
# Evicting the cached record

The cached record is the one that the store tells, so a session may forget it at any time. Whatever
is done next comes to the same, seen from outside, and leaves the same session but for the cache.
-/

namespace AccountManager

/-! ### What is seen of a step -/

def Effect.isLog : Effect → Bool
  | .log _ => true
  | .event _ | .call _ | .returned _ _ => false

/-- The effects that are more than a line in a log. -/
def outward (effects : List Effect) : List Effect := effects.filter fun effect => !effect.isLog

@[simp] theorem outward_nil : outward [] = [] := rfl

@[simp] theorem outward_log (record : Log.Record) : outward [.log record] = [] := rfl

@[simp] theorem outward_append (left right : List Effect) :
    outward (left ++ right) = outward left ++ outward right :=
  List.filter_append left right

/-- What is seen of a step by those who read no log and see its state through `view`. -/
def Step.seen {σ α : Type} (view : σ → σ) (step : Step σ α) : Step σ α :=
  ⟨step.result, view step.state, outward step.effects⟩

theorem Step.seen_inj {σ α : Type} {view : σ → σ} {step other : Step σ α}
    (h : step.seen view = other.seen view) :
    step.result = other.result ∧ view step.state = view other.state ∧
      outward step.effects = outward other.effects := by
  simpa [seen] using h

namespace Session

open Storage

variable {σ : Type} {session other : Session σ}

section Store

variable [CredentialStore σ]

/-- Whether the cached record is the one that the store tells. -/
def Transparent (session : Session σ) : Prop :=
  ∀ record, session.cached = some record →
    session.pendingClear = false ∧ CredentialStore.get session.store = .ok (some record)

/-! ### Operations -/

theorem seen_snapshot (h : session.Transparent) :
    session.evict.snapshot.seen evict = session.snapshot.seen evict := by
  cases hcached : session.cached with
  | none => rw [show session.evict = session by rw [evict, ← hcached]]
  | some record =>
    obtain ⟨hreadable, hget⟩ := h record hcached
    unfold snapshot Step.seen
    simp [evict, hcached, hreadable, hget, debug]

theorem seen_signIn (session : Session σ) (record : CredentialRecord) :
    (session.evict.signIn record).seen evict = (session.signIn record).seen evict := by
  unfold signIn evict
  dsimp only
  split <;> rfl

theorem of_signOut_pendingClear (hpending : session.signOut.state.pendingClear = true) :
    ∃ error, session.signOut.result = .error error := by
  unfold signOut at hpending ⊢
  split at hpending
  · exact ⟨_, rfl⟩
  · cases hpending

theorem seen_commit (session : Session σ) (generation : Nat) (record : CredentialRecord) :
    (session.evict.commit generation record).seen evict =
      (session.commit generation record).seen evict := by
  unfold commit evict
  dsimp only
  split
  · rfl
  · split <;> rfl

theorem seen_beginKeys (h : session.Transparent) :
    session.evict.beginKeys.seen evict = session.beginKeys.seen evict := by
  obtain ⟨hresult, hstate, heffects⟩ := Step.seen_inj (seen_snapshot h)
  unfold beginKeys Step.seen
  dsimp only
  rw [hresult]
  split
  · simp only [hstate, heffects]
  · simp only [hstate, heffects]
  · split <;> simp only [hstate, heffects, outward_append]

theorem seen_finishKeys (session : Session σ) (user : SignedInUser) (unwrapBKey : String)
    (answer : Except RemoteError KeyBundle) :
    (session.evict.finishKeys user unwrapBKey answer).seen evict =
      (session.finishKeys user unwrapBKey answer).seen evict := by
  unfold finishKeys
  split
  · rfl
  · split
    · rfl
    · unfold Step.seen
      dsimp only
      generalize withKeys user.record _ _ = updated
      obtain ⟨hresult, hstate, heffects⟩ :=
        Step.seen_inj (seen_commit session user.generation updated)
      rw [hresult]
      split <;> simp only [hstate, heffects, outward_append]

theorem seen_finishVerification (h : session.Transparent) (generation : Nat) :
    (session.evict.finishVerification generation).seen evict =
      (session.finishVerification generation).seen evict := by
  obtain ⟨hresult, hstate, heffects⟩ := Step.seen_inj (seen_snapshot h)
  unfold finishVerification Step.seen
  dsimp only
  rw [hresult]
  split
  · simp only [hstate, heffects]
  · simp only [hstate, heffects]
  · rename_i user hlooked
    split
    · simp only [hstate, heffects]
    · generalize ({ user.record with isVerified := true } : CredentialRecord) = updated
      have hcommit := seen_commit session.snapshot.state generation updated
      rw [← hstate, seen_commit] at hcommit
      obtain ⟨hcommitted, hafter, hlogged⟩ := Step.seen_inj hcommit
      rw [hcommitted]
      split <;> simp only [hafter, hlogged, heffects, outward_append]

theorem seen_answerStatus (h : session.Transparent) (polling : Polling) (poll : Poll)
    (answer : Except RemoteError Bool) :
    (session.evict.answerStatus polling poll answer).seen evict =
      (session.answerStatus polling poll answer).seen evict := by
  unfold answerStatus
  split
  · rfl
  · obtain ⟨hresult, hstate, heffects⟩ :=
      Step.seen_inj (seen_finishVerification h poll.generation)
    unfold Step.seen
    dsimp only
    rw [hresult, hstate, heffects]
  · split <;> rfl

end Store

theorem seen_ask (session : Session σ) (poll : Poll) :
    (session.evict.ask poll).seen evict = (session.ask poll).seen evict := by
  unfold ask evict
  dsimp only
  split <;> rfl

theorem seen_beginVerification (session : Session σ) (record : CredentialRecord) :
    (session.evict.beginVerification record).seen evict =
      (session.beginVerification record).seen evict := by
  unfold beginVerification
  split
  · rfl
  · split
    · rfl
    · exact seen_ask session _

namespace Activity

variable {activity : Activity σ} {move : Move σ} {id : CallId}

/-! ### Moves -/

/-- The calls of a session whose record was evicted. -/
def evicted (activity : Activity σ) : Activity σ :=
  { activity with session := activity.session.evict }

theorem evicted_suspend (activity : Activity σ) (id : CallId) (waiting : Waiting) :
    (activity.suspend id waiting).evicted = activity.evicted.suspend id waiting := by
  unfold suspend
  split <;> rename_i hwaiting
  · exact (if_pos hwaiting).symm
  · exact (if_neg hwaiting).symm

theorem evicted_passTurn (activity : Activity σ) :
    activity.passTurn.evicted = activity.evicted.passTurn := by
  unfold passTurn evicted
  dsimp only
  split <;> rfl

theorem evicted_dropCall (activity : Activity σ) (id : CallId) :
    (activity.dropCall id).evicted = activity.evicted.dropCall id := by
  unfold dropCall
  dsimp only
  split <;> rename_i hfetching
  · rw [evicted_passTurn]
    exact (if_pos hfetching).symm
  · exact (if_neg hfetching).symm

theorem seen_returnKeys {left right : Activity σ} (hsame : left.evicted = right.evicted)
    (result : Except AccountError CredentialRecord) {before after : List Effect}
    (heffects : outward before = outward after) :
    (left.returnKeys id result before).seen evicted =
      (right.returnKeys id result after).seen evicted := by
  have hforgotten : (left.forget id).evicted = (right.forget id).evicted :=
    congrArg (fun activity => activity.forget id) hsame
  unfold returnKeys Step.seen
  simp only [evicted_passTurn, hforgotten, outward_append, heffects]

theorem seen_continuePoll (activity : Activity σ) (id : CallId)
    {left right : Step (Session σ) (Except AccountError PollPlan)}
    (hsame : left.seen evict = right.seen evict) :
    (activity.evicted.continuePoll id left).seen evicted =
      (activity.continuePoll id right).seen evicted := by
  obtain ⟨hresult, hstate, heffects⟩ := Step.seen_inj hsame
  have hactivity : evicted { activity.evicted with session := left.state } =
      evicted { activity with session := right.state } := by
    unfold evicted
    rw [hstate]
  have hforgotten := congrArg (fun activity => activity.forget id) hactivity
  unfold continuePoll Step.seen
  dsimp only
  rw [hresult]
  split
  · simp only [outward_append, heffects]
    exact congrArg (Step.mk _ · _) hforgotten
  · simp only [outward_append, heffects]
    exact congrArg (Step.mk _ · _) hforgotten
  · simp only [evicted_suspend, hactivity, heffects]
  · simp only [evicted_suspend, hactivity, heffects]

variable [CredentialStore σ]

theorem seen_enterKeys (activity : Activity σ) (h : activity.session.Transparent) (id : CallId) :
    (activity.evicted.enterKeys id).seen evicted = (activity.enterKeys id).seen evicted := by
  obtain ⟨hresult, hstate, heffects⟩ := Step.seen_inj (seen_beginKeys h)
  have hactivity : evicted { activity.evicted with
      session := activity.session.evict.beginKeys.state } =
        evicted { activity with session := activity.session.beginKeys.state } := by
    unfold evicted
    rw [hstate]
  unfold enterKeys
  dsimp only
  rw [show activity.evicted.session = activity.session.evict from rfl, hresult]
  split
  · exact seen_returnKeys hactivity _ heffects
  · exact seen_returnKeys hactivity _ heffects
  · unfold Step.seen
    simp only [evicted_suspend, hactivity, heffects]

omit [CredentialStore σ] in
theorem seen_moved (activity : Activity σ) (reply : Reply) {left right : Session σ}
    {before after : List Effect} (hstate : left.evict = right.evict)
    (heffects : outward before = outward after) :
    Step.seen evicted ⟨reply, { activity.evicted with session := left }, before⟩ =
      Step.seen evicted ⟨reply, { activity with session := right }, after⟩ := by
  unfold Step.seen evicted
  simp only [hstate, heffects]

/-- What a move comes to does not depend on whether the record was evicted. -/
theorem seen_step (h : activity.session.Transparent) (move : Move σ) :
    (activity.evicted.step? move).map (Step.seen evicted) =
      (activity.step? move).map (Step.seen evicted) := by
  have hwaiting (id : CallId) : activity.evicted.waiting? id = activity.waiting? id := rfl
  have hsession : activity.evicted.session = activity.session.evict := rfl
  have hfetching : activity.evicted.fetching = activity.fetching := rfl
  cases move with
  | look =>
    obtain ⟨hresult, hstate, heffects⟩ := Step.seen_inj (seen_snapshot h)
    simp only [step?, hsession, hresult]
    exact congrArg some (seen_moved activity _ hstate heffects)
  | evict => rfl
  | signIn record =>
    obtain ⟨hresult, hstate, heffects⟩ := Step.seen_inj (seen_signIn activity.session record)
    simp only [step?, hsession, hresult]
    exact congrArg some (seen_moved activity _ hstate heffects)
  | signOut => rfl
  | beginKeys id =>
    simp only [step?, hwaiting, hfetching]
    split
    · rfl
    · split
      · exact congrArg some (seen_enterKeys { activity with fetching := some id } h id)
      · refine congrArg some ?_
        unfold Step.seen
        simp only [evicted_suspend]
        rfl
  | takeTurn id =>
    simp only [step?, hwaiting, hfetching]
    split
    · exact congrArg some (seen_enterKeys activity h id)
    · rfl
  | answerKeys id answer =>
    simp only [step?, hwaiting, hsession]
    split
    · rename_i user unwrapBKey _
      obtain ⟨hresult, hstate, heffects⟩ :=
        Step.seen_inj (seen_finishKeys activity.session user unwrapBKey answer)
      rw [hresult]
      refine congrArg some (seen_returnKeys ?_ _ heffects)
      unfold evicted
      simp only [hstate]
    · rfl
  | beginVerification id record =>
    simp only [step?, hwaiting]
    split
    · rfl
    · exact congrArg some (seen_continuePoll activity id (seen_beginVerification _ record))
  | answerStatus id answer =>
    simp only [step?, hwaiting]
    split
    · exact congrArg some (seen_continuePoll activity id (seen_answerStatus h _ _ answer))
    · rfl
  | wake id =>
    simp only [step?, hwaiting]
    split
    · exact congrArg some (seen_continuePoll activity id (seen_ask _ _))
    · rfl
  | drop id =>
    simp only [step?, hwaiting]
    split
    · refine congrArg some ?_
      unfold Step.seen
      simp only [evicted_dropCall]
      rfl
    · rfl
  | alterStore change => rfl

/-- The cached record is the one that the store tells, if it tells what it holds. -/
theorem Faithful.transparent [LawfulStore σ] (h : activity.Faithful)
    (htells : Tells activity.session.store) : activity.session.Transparent := by
  intro record hcached
  obtain ⟨hreadable, hcontents⟩ := h.cached record hcached
  exact ⟨hreadable, htells record hcontents⟩

end Activity

end Session

end AccountManager
