import AccountManager.Proofs.Accounts.SessionPart
import AccountManager.Proofs.Session.Eviction

/-!
# Evicting the cached record of an account manager

The cache is only there to save reads. Calls to evict the record may be put into a run or taken out
of it wherever one likes: the calls return the same, subscribers are told the same, the service is
called in the same way and the store goes through the same states. A new account manager over the
same store sees the same user, unless the last sign-out could not erase it.
-/

namespace AccountManager.Accounts

open Storage

variable {σ : Type}

def Move.isEvict : Move σ → Bool
  | .session .evict => true
  | _ => false

/-- Whether two lists of moves differ by calls to evict the record only. -/
inductive ApartByEvictions : List (Move σ) → List (Move σ) → Prop
  | nil : ApartByEvictions [] []
  | left {moves others : List (Move σ)} (h : ApartByEvictions moves others) :
      ApartByEvictions (.session .evict :: moves) others
  | right {moves others : List (Move σ)} (h : ApartByEvictions moves others) :
      ApartByEvictions moves (.session .evict :: others)
  | both {moves others : List (Move σ)} (move : Move σ) (h : ApartByEvictions moves others) :
      ApartByEvictions (move :: moves) (move :: others)

/-- What those who read no log notice of a run, beside calls to evict the record: the replies, the
effects, and what becomes of the store. -/
def noticed (history : List (Made (Activity σ) (Move σ) Session.Reply)) :
    List (Session.Reply × List Effect × σ) :=
  (history.filter fun made => !made.move.isEvict).map fun made =>
    (made.step.result, outward made.step.effects, made.after.accounts.activity.session.store)

theorem noticed_cons (made : Made (Activity σ) (Move σ) Session.Reply)
    (rest : List (Made (Activity σ) (Move σ) Session.Reply)) :
    noticed (made :: rest) =
      if made.move.isEvict then noticed rest
      else (made.step.result, outward made.step.effects,
        made.after.accounts.activity.session.store) :: noticed rest := by
  unfold noticed
  cases hevict : made.move.isEvict <;> simp [hevict]

namespace Activity

variable {activity : Activity σ} {id : CallId}

def evicted (activity : Activity σ) : Activity σ :=
  activity.withCalls activity.accounts.activity.evicted

variable [CredentialStore σ]

theorem seen_moveSession? (h : activity.session.Transparent) (move : Session.Move σ) :
    (activity.evicted.moveSession? move).map (Step.seen evicted) =
      (activity.moveSession? move).map (Step.seen evicted) := by
  have hinner := Session.Activity.seen_step h move
  have hcalls : activity.evicted.accounts.activity = activity.accounts.activity.evicted := rfl
  unfold moveSession?
  rw [hcalls]
  cases hright : activity.accounts.activity.step? move with
  | none =>
    rw [hright] at hinner
    rw [Option.map_eq_none_iff.1 hinner]
  | some right =>
    rw [hright] at hinner
    obtain ⟨left, hleft, hsame⟩ := Option.map_eq_some_iff.1 hinner
    obtain ⟨hresult, hstate, heffects⟩ := Step.seen_inj hsame
    have hepoch : left.state.session.epoch = right.state.session.epoch :=
      congrArg (fun calls => calls.session.epoch) hstate
    rw [hleft]
    dsimp only
    rw [hresult]
    split
    all_goals
      refine congrArg some ?_
      unfold Step.seen evicted withCalls
      simp only [resetProvisioner, Accounts.epoch, hstate, hepoch, heffects, outward_append]

omit [CredentialStore σ] in
theorem seen_returnAssertion {left right : Activity σ} (hsame : left.evicted = right.evicted)
    (id : CallId) (result : Except AccountError String) {before after : List Effect}
    (heffects : outward before = outward after) :
    (left.returnAssertion id result before).seen evicted =
      (right.returnAssertion id result after).seen evicted := by
  have hforgotten : (left.forget id).evicted = (right.forget id).evicted :=
    congrArg (fun activity => activity.forget id) hsame
  unfold returnAssertion Step.seen
  simp only [hforgotten, outward_append, heffects]

omit [CredentialStore σ] in
/-- What is planned for the certificate does not depend on the cache. -/
theorem seen_certified {left right : Activity σ} (hsame : left.evicted = right.evicted)
    (id : CallId) (generation : Nat) (audience : String) {before after : List Effect}
    (heffects : outward before = outward after)
    (planned :
      Step Provisioner (Except AccountError (EphemeralKey × Provisioner.CertificatePlan))) :
    (left.certified id generation audience before planned).seen evicted =
      (right.certified id generation audience after planned).seen evicted := by
  have hprovisioned : (left.withProvisioner planned.state).evicted =
      (right.withProvisioner planned.state).evicted :=
    congrArg (fun activity => activity.withProvisioner planned.state) hsame
  have hsetting : left.accounts.setting = right.accounts.setting :=
    congrArg (fun activity => activity.accounts.setting) hsame
  have hmore : outward (before ++ planned.effects) = outward (after ++ planned.effects) := by
    rw [outward_append, outward_append, heffects]
  unfold certified
  dsimp only
  split
  · exact seen_returnAssertion hprovisioned id _ hmore
  · have hassertion (key : EphemeralKey) (certificate : String) :
        assertionOf (left.withProvisioner planned.state).accounts key audience certificate =
          assertionOf (right.withProvisioner planned.state).accounts key audience certificate :=
      congrArg (fun setting => Provisioner.assertion setting key certificate audience) hsetting
    rw [hassertion]
    exact seen_returnAssertion hprovisioned id _ hmore
  · rename_i key requestId _
    refine congrArg₂ (Step.mk _) ?_ hmore
    exact congrArg (fun activity => activity.await id ⟨generation, key, requestId, audience⟩)
      hprovisioned
  · rename_i key requestId _
    refine congrArg₂ (Step.mk _) ?_ hmore
    exact congrArg
      (fun activity =>
        (activity.await id ⟨generation, key, requestId, audience⟩).signing requestId)
      hprovisioned

theorem seen_beginAssertion (h : activity.session.Transparent) (id : CallId) (audience : String) :
    (activity.evicted.beginAssertion id audience).seen evicted =
      (activity.beginAssertion id audience).seen evicted := by
  obtain ⟨hresult, hstate, heffects⟩ := Step.seen_inj (Session.seen_snapshot h)
  have hlooked : activity.evicted.looked.evicted = activity.looked.evicted :=
    congrArg (fun session => activity.withCalls { activity.accounts.activity with session }) hstate
  by_cases huser : ∃ user token, activity.session.snapshot.result = .ok (some user) ∧
      user.record.isVerified = true ∧ user.record.sessionToken = some token
  · obtain ⟨user, token, hseen, hverified, htoken⟩ := huser
    have hseenToo : activity.evicted.session.snapshot.result = .ok (some user) :=
      hresult.trans hseen
    rw [beginAssertion_of_user hseen hverified htoken,
      beginAssertion_of_user hseenToo hverified htoken]
    exact seen_certified hlooked id activity.session.epoch audience heffects _
  · have hsession : activity.evicted.accounts.activity.session = activity.session.evict := rfl
    have hsame : activity.accounts.activity.session = activity.session := rfl
    unfold beginAssertion
    simp only [hsession, hsame, hresult]
    split
    · exact seen_returnAssertion hlooked id _ heffects
    · exact seen_returnAssertion hlooked id _ heffects
    · rename_i user hseen
      split
      · exact seen_returnAssertion hlooked id _ heffects
      · rename_i hverified
        split
        · exact seen_returnAssertion hlooked id _ heffects
        · rename_i token htoken
          exact absurd ⟨user, token, hseen, by simpa using hverified, htoken⟩ huser

theorem step?_evict (activity : Activity σ) :
    activity.step? (.session .evict) = some ⟨.none, activity.evicted, []⟩ := rfl

theorem seen_step (h : activity.session.Transparent) (move : Move σ) :
    (activity.evicted.step? move).map (Step.seen evicted) =
      (activity.step? move).map (Step.seen evicted) := by
  have hbusy (id : CallId) : activity.evicted.isBusy id = activity.isBusy id := rfl
  cases move with
  | session move =>
    have hmove := seen_moveSession? h move
    cases move with
    | beginKeys id | beginVerification id =>
      simp only [step?, hbusy]
      split
      · rfl
      · exact hmove
    | _ => exact hmove
  | setClock now => rfl
  | beginAssertion id audience =>
    simp only [step?, hbusy]
    split
    · rfl
    · exact congrArg some (seen_beginAssertion h id audience)
  | answerCertificate requestId answer =>
    have hsigning : activity.evicted.signing? requestId = activity.signing? requestId := rfl
    simp only [step?, hsigning]
    split <;> rfl
  | resume id =>
    have hwait : activity.evicted.wait? id = activity.wait? id := rfl
    simp only [step?, hwait]
    split
    · rfl
    · rename_i wait _
      have hsigning :
        activity.evicted.signing? wait.requestId = activity.signing? wait.requestId := rfl
      rw [hsigning]
      split
      · rfl
      · refine congrArg some ?_
        unfold resume
        exact seen_returnAssertion rfl id _ rfl
  | drop id =>
    have hwait : activity.evicted.wait? id = activity.wait? id := rfl
    simp only [step?, hwait]
    split <;> rfl

/-! ### Runs -/

section Runs

variable [LawfulStore σ] {start finish twin : Activity σ} {move : Move σ} {history : History σ}
  {step : Step (Activity σ) Session.Reply} {moves others : List (Move σ)}

/-- What holds of the calls and of the cached record in every state of a run. -/
structure Sound (activity : Activity σ) : Prop where
  orderly : activity.Orderly
  faithful : activity.accounts.activity.Faithful

theorem Sound.transparent (h : activity.Sound) (htells : Tells activity.session.store) :
    activity.session.Transparent := h.faithful.transparent htells

theorem sound_of_run (hopened : start.Opened) (run : Run step? start history finish)
    (hquiet : ∀ made ∈ history, made.move.KeepsContents) : finish.Sound := by
  obtain ⟨parts, hparts, hrelated⟩ := session_of_run hopened run
  refine ⟨orderly_of_run hopened run, ?_⟩
  refine Session.Activity.faithful_of_run hopened.session hparts fun part hpart => ?_
  obtain ⟨made, hmade, hmadePart⟩ := hrelated.whole part hpart
  exact hmadePart.keepsContents (hquiet made hmade)

theorem sound_step (hstep : activity.step? move = some step) (hquiet : move.KeepsContents)
    (h : activity.Sound) : step.state.Sound := by
  refine ⟨orderly_step hstep h.orderly, ?_⟩
  rcases session_of_step? h.orderly.settled hstep with
    ⟨-, hsame⟩ | ⟨part, inner, hpart, hinner, hstate, -⟩
  · rw [hsame]
    exact h.faithful
  · rw [← hstate]
    refine h.faithful.of_step? hinner ?_
    rcases Move.of_onSession? hpart with rfl | rfl
    · exact hquiet
    · trivial

/-- Two account managers that differ by the cached record make the same moves. -/
theorem twin_step (hstart : start.Sound) (htwin : twin.Sound) (hsame : start.evicted = twin.evicted)
    (htells : Tells start.session.store) (hstep : start.step? move = some step) :
    ∃ twinStep, twin.step? move = some twinStep ∧ twinStep.seen evicted = step.seen evicted := by
  have hstore : twin.session.store = start.session.store :=
    (congrArg (fun activity => activity.session.store) hsame).symm
  have hseen : (twin.step? move).map (Step.seen evicted) = some (step.seen evicted) := by
    rw [← seen_step (htwin.transparent (hstore ▸ htells)) move, ← hsame,
      seen_step (hstart.transparent htells) move, hstep]
    rfl
  obtain ⟨twinStep, htwinStep, heq⟩ := Option.map_eq_some_iff.1 hseen
  exact ⟨twinStep, htwinStep, heq⟩

/-- Calls to evict the record may be put in and taken out. -/
theorem twin_of_apart (hapart : ApartByEvictions moves others)
    (run : Run step? start history finish) (hmoves : history.map Made.move = moves)
    (hquiet : ∀ made ∈ history, made.move.KeepsContents)
    (htells : ∀ made ∈ history, Tells made.before.session.store) (hstart : start.Sound)
    (htwin : twin.Sound) (hsame : start.evicted = twin.evicted) :
    ∃ twins last, Run step? twin twins last ∧ twins.map Made.move = others ∧
      noticed twins = noticed history ∧ finish.evicted = last.evicted := by
  induction hapart generalizing start twin history with
  | nil =>
    obtain rfl := List.map_eq_nil_iff.1 hmoves
    obtain rfl : start = finish := run
    exact ⟨[], twin, rfl, rfl, rfl, hsame⟩
  | left hapart ih =>
    obtain ⟨made, rest, rfl, hmove, hrest⟩ := List.map_eq_cons_iff.1 hmoves
    obtain ⟨rfl, hstep, hlater⟩ := run
    have hsound := sound_step hstep (hquiet made List.mem_cons_self) hstart
    have hafter : made.after = made.before.evicted := by
      rw [hmove, step?_evict] at hstep
      exact (congrArg Step.state (Option.some.inj hstep)).symm
    obtain ⟨twins, last, htwins, hmap, hnoticed, hlast⟩ := ih hlater hrest
      (fun other hother => hquiet other (List.mem_cons_of_mem made hother))
      (fun other hother => htells other (List.mem_cons_of_mem made hother)) hsound htwin
      (hafter ▸ hsame)
    refine ⟨twins, last, htwins, hmap, hnoticed.trans ?_, hlast⟩
    rw [noticed_cons, hmove]
    rfl
  | right hapart ih =>
    obtain ⟨twins, last, htwins, hmap, hnoticed, hlast⟩ := ih run hmoves hquiet htells hstart
      (sound_step (step?_evict twin) trivial htwin) hsame
    exact ⟨⟨twin, .session .evict, ⟨.none, twin.evicted, []⟩⟩ :: twins, last,
      ⟨rfl, step?_evict twin, htwins⟩, congrArg (_ :: ·) hmap, hnoticed, hlast⟩
  | both move hapart ih =>
    obtain ⟨made, rest, rfl, rfl, hrest⟩ := List.map_eq_cons_iff.1 hmoves
    obtain ⟨rfl, hstep, hlater⟩ := run
    have hkeeps := hquiet made List.mem_cons_self
    have hreads := htells made List.mem_cons_self
    obtain ⟨step, htwinStep, hseen⟩ := twin_step hstart htwin hsame hreads hstep
    obtain ⟨hresult, hstate, heffects⟩ := Step.seen_inj hseen
    obtain ⟨twins, last, htwins, hmap, hnoticed, hlast⟩ := ih hlater hrest
      (fun other hother => hquiet other (List.mem_cons_of_mem made hother))
      (fun other hother => htells other (List.mem_cons_of_mem made hother))
      (sound_step hstep hkeeps hstart) (sound_step htwinStep hkeeps htwin) hstate.symm
    have hstore : step.state.accounts.activity.session.store =
        made.step.state.accounts.activity.session.store :=
      congrArg (fun activity => activity.accounts.activity.session.store) hstate
    refine ⟨⟨twin, made.move, step⟩ :: twins, last, ⟨rfl, htwinStep, htwins⟩,
      congrArg (_ :: ·) hmap, ?_, hlast⟩
    rw [noticed_cons, noticed_cons, hnoticed]
    simp only [Made.after, hresult, heffects, hstore]

/-! ### Starting again -/

theorem pendingClear_step (horderly : activity.Orderly) (hstep : activity.step? move = some step)
    (hquiet : move.KeepsContents) (hpending : step.state.session.pendingClear = true) :
    (move = .session .signOut ∧ ∃ error, step.result = .stored (.error error)) ∨
      move ≠ .session .signOut ∧ activity.session.pendingClear = true := by
  cases allows_of_step? horderly.settled hstep with
  | setClock | answerCertificate | drop | resume =>
    exact .inr ⟨fun hmove => (by cases hmove), hpending⟩
  | beginAssertion hnew hfree hbegins =>
    refine .inr ⟨fun hmove => (by cases hmove), ?_⟩
    have hlooked := Session.snapshot_pendingClear activity.session
    cases hbegins <;> exact hlooked.symm.trans hpending
  | session hfree hinner hepoch =>
    have halters := Session.Activity.alters_of_step? hinner hepoch hquiet
    refine .inr ⟨fun hmove => ?_, halters.pendingClear.symm.trans hpending⟩
    obtain rfl := Move.session.inj hmove
    exact hepoch (.signOut _)
  | newEpoch hinner hepoch hextra =>
    rcases Session.Activity.presents_of_beginsEpoch hinner hepoch with
      ⟨record, -, -, hpresents⟩ | ⟨rfl, -⟩
    · exact absurd (hpresents.readable.symm.trans hpending) Bool.false_ne_true
    · cases hinner
      obtain ⟨error, hresult⟩ := Session.of_signOut_pendingClear hpending
      exact .inl ⟨rfl, error, congrArg Session.Reply.stored hresult⟩

/-- If the store is not to be read, the last sign-out could not erase it. -/
theorem erase_failed_of_pending (hopened : start.Opened) (run : Run step? start history finish)
    (hquiet : ∀ made ∈ history, made.move.KeepsContents)
    (hpending : finish.session.pendingClear = true) :
    ∃ signOut error, LastOf (fun made => made.move = .session .signOut) history signOut ∧
      signOut.step.result = .stored (.error error) := by
  induction history using List.reverseRecOn generalizing finish with
  | nil =>
    obtain rfl : start = finish := run
    obtain ⟨config, seeds, clock, store, rfl⟩ := hopened.eq
    cases hpending
  | append_singleton past made ih =>
    obtain ⟨hpast, hstep, rfl⟩ := run_concat.1 run
    rcases pendingClear_step (orderly_of_run hopened hpast) hstep (hquiet made (by simp)) hpending
      with ⟨hmove, error, herror⟩ | ⟨hother, hbefore⟩
    · exact ⟨made, error, .of_concat past hmove, herror⟩
    · obtain ⟨signOut, error, hlast, herror⟩ :=
        ih hpast (fun other hmade => hquiet other (List.mem_append_left _ hmade)) hbefore
      exact ⟨signOut, error, hlast.concat hother, herror⟩

omit [LawfulStore σ] in
theorem look_new (store : σ) (epoch : Nat) :
    (Session.snapshot { store, epoch }).result.map (fun user => user.map SignedInUser.record) =
      CredentialStore.get store := by
  unfold Session.snapshot
  dsimp only
  cases CredentialStore.get store with
  | error error => rfl
  | ok found => cases found <;> rfl

/-- The record that is cached is the one the store tells, and none is cached while the store is not
to be read. So nobody notices whether records are evicted, and a new account manager over the same
store sees the same user, if the last sign-out could erase the store. -/
theorem eviction_is_unnoticed {β : Type} [BlobStore β] [LawfulBlobs β]
    {start finish : Activity (BlobCredentials β)} {history : History (BlobCredentials β)}
    (hopened : start.Opened) (run : Run step? start history finish)
    (hquiet : ∀ made ∈ history, made.move.KeepsContents)
    (hreads : ∀ made ∈ history, made.before.session.store.ReadsBlob)
    (hfinish : finish.session.store.ReadsBlob) :
    (∀ record, finish.session.cached = some record →
      CredentialStore.get finish.session.store = .ok (some record)) ∧
    (finish.session.pendingClear = true → finish.session.cached = none) ∧
    (∀ moves, ApartByEvictions (history.map Made.move) moves →
      ∃ twins last, Run step? start twins last ∧ twins.map Made.move = moves ∧
        noticed twins = noticed history ∧ last.session.store = finish.session.store) ∧
    ((∀ signOut, LastOf (fun made => made.move = .session .signOut) history signOut →
        signOut.step.result = .stored (.ok ())) →
      ∀ config seeds clock accounts,
        Accounts.new config seeds clock finish.session.store = .ok accounts →
          accounts.activity.session.snapshot.result.map (fun user => user.map SignedInUser.record) =
            finish.session.snapshot.result.map fun user => user.map SignedInUser.record) := by
  have hsound := sound_of_run hopened run hquiet
  have htransparent := hsound.transparent hfinish.tells
  refine ⟨fun record hcached => (htransparent record hcached).2, fun hpending => ?_, ?_, ?_⟩
  · refine Option.eq_none_iff_forall_ne_some.2 fun record hcached => ?_
    have hreadable := (htransparent record hcached).1
    rw [hpending] at hreadable
    cases hreadable
  · intro moves hapart
    have hnone : Run step? start [] start := rfl
    have hstart := sound_of_run hopened hnone fun made hmade => by cases hmade
    obtain ⟨twins, last, htwins, hmap, hnoticed, hlast⟩ :=
      twin_of_apart hapart run rfl hquiet (fun made hmade => (hreads made hmade).tells)
        hstart hstart rfl
    refine ⟨twins, last, htwins, hmap, hnoticed, ?_⟩
    exact (congrArg (fun activity => activity.session.store) hlast).symm
  · intro herased config seeds clock accounts hnew
    have hclear : finish.session.pendingClear = false := by
      rw [← Bool.not_eq_true]
      intro hpending
      obtain ⟨signOut, error, hlast, herror⟩ := erase_failed_of_pending hopened run hquiet hpending
      cases (herased signOut hlast).symm.trans herror
    have hevicted : finish.session.evict =
        { store := finish.session.store, epoch := finish.session.epoch } := by
      unfold Session.evict
      rw [hclear]
    have hlooked := (Step.seen_inj (Session.seen_snapshot htransparent)).1
    rw [← hlooked, hevicted, look_new]
    unfold Accounts.new at hnew
    split at hnew
    · cases hnew
    · cases hnew
      exact look_new finish.session.store 0

/-- A record is evicted before it is looked at. -/
theorem look_after_eviction :
    ∃ finish last, ∃ history twins : History (BlobCredentials MemoryBlobs),
      Run step? (blank memory) history finish ∧ Run step? (blank memory) twins last ∧
        history.map Made.move =
          [.session (.signIn { uid := some "uid" }), .session .look, .session .signOut] ∧
        twins.map Made.move =
          [.session (.signIn { uid := some "uid" }), .session .evict, .session .look,
            .session .evict, .session .signOut] ∧
        noticed twins = noticed history ∧ last.session.store = finish.session.store := by
  obtain ⟨finish, run⟩ := run_played step? (blank memory) [
    .session (.signIn { uid := some "uid" }), .session .look, .session .signOut]
  have hreads (store : BlobCredentials MemoryBlobs) : store.ReadsBlob := ⟨_, rfl⟩
  obtain ⟨-, -, hevicts, -⟩ := @eviction_is_unnoticed _ _ _ _ _ [_, _, _] (blank_opened memory) run
    (by simp [Move.KeepsContents, Session.Move.KeepsContents]) (fun made _ => hreads _) (hreads _)
  obtain ⟨twins, last, htwins, hmap, hnoticed, hlast⟩ := hevicts
    [.session (.signIn { uid := some "uid" }), .session .evict, .session .look,
      .session .evict, .session .signOut]
    (.both _ (.right (.both _ (.right (.both _ .nil)))))
  exact ⟨finish, last, [_, _, _], twins, run, htwins, rfl, hmap, hnoticed, hlast⟩

end Runs

end Activity

end AccountManager.Accounts
