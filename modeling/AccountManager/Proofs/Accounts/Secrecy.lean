import AccountManager.Proofs.Accounts.Epochs
import AccountManager.Proofs.Session.Secrecy

/-!
# Account managers that differ in secrets

Whatever differs in the tokens and keys of a user, in the certificates and in the random bytes of
the key pairs, everything that is shown is the same: the log, the events, the kinds of the results,
the descriptions of the records and what is at hand until when. That holds step by step, and so for
whole runs, however the calls interleave.
-/

namespace AccountManager

/-! ### What is at hand -/

/-- Whether two key pairs have one number and may be used equally long. -/
structure EphemeralKey.Alike (left right : EphemeralKey) : Prop where
  id : left.id = right.id
  validUntil : left.validUntil = right.validUntil

/-- Whether two certificates answer one request and may be used equally long. -/
structure Certificate.Alike (left right : Certificate) : Prop where
  validUntil : left.validUntil = right.validUntil
  keyId : left.keyId = right.keyId
  requestId : left.requestId = right.requestId

namespace Provisioner

/-- Whether two provisioners differ in key pairs and in the texts of certificates only. -/
structure Alike (left right : Provisioner) : Prop where
  generation : left.generation = right.generation
  key : Option.Rel EphemeralKey.Alike left.key right.key
  certificate : Option.Rel Certificate.Alike left.certificate right.certificate
  inFlight : left.inFlight = right.inFlight
  lastId : left.lastId = right.lastId
  generated : left.generated = right.generated

/-- Whether keys and certificates last equally long from one time on. -/
structure Setting.Alike (left right : Setting) : Prop where
  config : left.config = right.config
  now : left.now = right.now

inductive CertificatePlan.Alike : CertificatePlan → CertificatePlan → Prop
  | ready (text other : String) : CertificatePlan.Alike (.ready text) (.ready other)
  | joined (requestId : Nat) : CertificatePlan.Alike (.joined requestId) (.joined requestId)
  | requested (requestId : Nat) :
      CertificatePlan.Alike (.requested requestId) (.requested requestId)

variable {left right : Provisioner} {setting other : Setting}

theorem validKey?_alike (h : left.Alike right) (now : UInt64) :
    Option.Rel EphemeralKey.Alike (left.validKey? now) (right.validKey? now) :=
  rel_filter h.key fun _ _ hkeys => by rw [hkeys.validUntil]

theorem validCertificate?_alike (h : left.Alike right) (keyId : Nat) (now : UInt64) :
    Option.Rel Certificate.Alike (left.validCertificate? keyId now)
      (right.validCertificate? keyId now) :=
  rel_filter h.certificate fun _ _ hsame => by rw [hsame.keyId, hsame.validUntil]

theorem state_alike (h : left.Alike right) (now : UInt64) : left.state now = right.state now := by
  have hkey := validKey?_alike h now
  unfold Provisioner.state
  generalize left.validKey? now = key at hkey
  generalize right.validKey? now = otherKey at hkey
  cases hkey with
  | none => rfl
  | @some key otherKey hkeys =>
    dsimp only
    rw [hkeys.id, isSome_eq_of_rel (validCertificate?_alike h otherKey.id now)]

theorem reset_alike (h : left.Alike right) (generation : Nat) :
    (left.reset generation).Alike (right.reset generation) :=
  { h with generation := rfl, key := .none, certificate := .none, inFlight := rfl }

theorem adopt_alike (h : left.Alike right) (generation : Nat) :
    (left.adopt generation).Alike (right.adopt generation) := by
  unfold adopt
  rw [h.generation]
  split
  · exact h
  · exact reset_alike h generation

theorem freshKey_alike (h : left.Alike right) (hsettings : setting.Alike other) :
    Step.Alike EphemeralKey.Alike Provisioner.Alike (left.freshKey setting)
      (right.freshKey other) := by
  have hvalid := validKey?_alike h other.now
  unfold freshKey
  rw [hsettings.now]
  generalize left.validKey? other.now = key at hvalid
  generalize right.validKey? other.now = otherKey at hvalid
  cases hvalid with
  | some hkeys => exact ⟨hkeys, h, rfl⟩
  | none =>
    dsimp only
    rw [hsettings.config, h.lastId]
    exact ⟨⟨rfl, rfl⟩,
      ⟨h.generation, .some ⟨rfl, rfl⟩, .none, rfl, rfl, congrArg (· + 1) h.generated⟩, rfl⟩

/-- A certificate is planned alike, whichever tokens it is requested with. -/
theorem certify_alike (h : left.Alike right) (hsettings : setting.Alike other)
    {epoch otherEpoch generation otherGeneration : Nat} (hepochs : epoch = otherEpoch)
    (hgenerations : generation = otherGeneration) (token otherToken : String) :
    Step.Alike
      (ResultsAlike AccountError.Alike fun found others =>
        found.1.Alike others.1 ∧ found.2.Alike others.2)
      Provisioner.Alike (left.certify setting epoch generation token)
      (right.certify other otherEpoch otherGeneration otherToken) := by
  subst hepochs hgenerations
  have hfresh := freshKey_alike (adopt_alike h generation) hsettings
  unfold certify
  split
  · exact ⟨.error rfl, h, rfl⟩
  · dsimp only
    generalize (left.adopt generation).freshKey setting = fresh at hfresh
    generalize (right.adopt generation).freshKey other = otherFresh at hfresh
    obtain ⟨hkeys, hstates, hshown⟩ := hfresh
    have hcertificates := validCertificate?_alike hstates otherFresh.result.id other.now
    rw [hkeys.id, hsettings.now, hstates.inFlight]
    generalize fresh.state.validCertificate? _ _ = certificate at hcertificates
    generalize otherFresh.state.validCertificate? _ _ = otherCertificate at hcertificates
    cases hcertificates with
    | some => exact ⟨.ok ⟨hkeys, .ready _ _⟩, hstates, hshown⟩
    | none =>
      dsimp only
      split
      · refine ⟨.ok ⟨hkeys, .joined _⟩, hstates, ?_⟩
        simp only [shownOf_append, hshown]
      · rw [hstates.lastId]
        refine ⟨.ok ⟨hkeys, .requested _⟩, ?_, ?_⟩
        · exact { hstates with inFlight := rfl, lastId := rfl }
        · simp only [shownOf_append, hshown]
          rfl

theorem finish_alike (h : left.Alike right) (hsettings : setting.Alike other)
    {epoch otherEpoch generation otherGeneration : Nat} (hepochs : epoch = otherEpoch)
    (hgenerations : generation = otherGeneration) {key otherKey : EphemeralKey}
    (hkeys : key.Alike otherKey) (requestId : Nat) {answer otherAnswer : Except RemoteError String}
    (hanswers : ResultsAlike Eq (fun _ _ => True) answer otherAnswer) :
    Step.Alike (ResultsAlike AccountError.Alike fun _ _ => True) Provisioner.Alike
      (left.finish setting epoch generation key requestId answer)
      (right.finish other otherEpoch otherGeneration otherKey requestId otherAnswer) := by
  subst hepochs hgenerations
  have hsettled : Alike
      (if left.inFlight.map InFlight.requestId = some requestId then
        { left with inFlight := none } else left)
      (if right.inFlight.map InFlight.requestId = some requestId then
        { right with inFlight := none } else right) := by
    rw [h.inFlight]
    split
    · exact { h with inFlight := rfl }
    · exact h
  unfold finish
  dsimp only
  generalize (if left.inFlight.map InFlight.requestId = some requestId then _ else _) = settled
    at hsettled ⊢
  generalize (if right.inFlight.map InFlight.requestId = some requestId then _ else _) = others
    at hsettled ⊢
  rw [hsettled.generation]
  split
  · exact ⟨.error rfl, hsettled, rfl⟩
  · cases hanswers with
    | error herrors =>
      subst herrors
      exact ⟨.error rfl, hsettled, rfl⟩
    | ok =>
      have hinstalled : settled.certificate.map Certificate.requestId =
          others.certificate.map Certificate.requestId :=
        map_eq_of_rel hsettled.certificate fun _ _ hsame => hsame.requestId
      have hcurrent : settled.key.map EphemeralKey.id = others.key.map EphemeralKey.id :=
        map_eq_of_rel hsettled.key fun _ _ hsame => hsame.id
      dsimp only
      rw [hinstalled, hcurrent, hkeys.id, hsettings.now, hsettings.config]
      split
      · exact ⟨.ok trivial,
          { hsettled with generation := rfl, certificate := .some ⟨rfl, rfl, rfl⟩ }, rfl⟩
      · exact ⟨.ok trivial, hsettled, rfl⟩

end Provisioner

namespace Accounts

open Storage

variable {σ : Type} [CredentialStore σ]

/-- Whether two account managers differ in secrets only; their key pairs may be made from any
bytes. -/
structure Alike (left right : Accounts σ) : Prop where
  config : left.config = right.config
  clock : left.clock = right.clock
  activity : left.activity.Alike right.activity
  provisioner : left.provisioner.Alike right.provisioner

/-- Whether two calls wait for certificates of alike keys, for one audience. -/
structure CertificateWait.Alike (left right : CertificateWait) : Prop where
  generation : left.generation = right.generation
  key : left.key.Alike right.key
  requestId : left.requestId = right.requestId
  audience : left.audience = right.audience

/-- Whether two requests are both open, or were answered with some certificate, or with the same
error. -/
structure Signing.Alike (left right : Signing) : Prop where
  requestId : left.requestId = right.requestId
  answer : Option.Rel (ResultsAlike Eq fun _ _ => True) left.answer right.answer

/-- Whether two moves let the same happen to alike records, with any certificates. -/
inductive Move.Alike : Move σ → Move σ → Prop
  | session {move other : Session.Move σ} (hmoves : move.Alike other) :
      Move.Alike (.session move) (.session other)
  | setClock (now : UInt64) : Move.Alike (.setClock now) (.setClock now)
  | beginAssertion (id : CallId) (audience : String) :
      Move.Alike (.beginAssertion id audience) (.beginAssertion id audience)
  | answerCertificate (requestId : Nat) {answer other : Except RemoteError String}
      (hanswers : ResultsAlike Eq (fun _ _ => True) answer other) :
      Move.Alike (.answerCertificate requestId answer) (.answerCertificate requestId other)
  | resume (id : CallId) : Move.Alike (.resume id) (.resume id)
  | drop (id : CallId) : Move.Alike (.drop id) (.drop id)

section Parts

variable {left right : Accounts σ}

theorem Alike.setting (h : left.Alike right) : left.setting.Alike right.setting :=
  ⟨h.config, h.clock⟩

theorem Alike.epoch (h : left.Alike right) : left.epoch = right.epoch := h.activity.session.epoch

theorem Alike.reset (h : left.Alike right) :
    left.resetProvisioner.Alike right.resetProvisioner := by
  unfold resetProvisioner
  rw [h.epoch]
  exact { h with provisioner := Provisioner.reset_alike h.provisioner right.epoch }

theorem Alike.keyValidUntil (h : left.Alike right) : left.keyValidUntil = right.keyValidUntil :=
  map_eq_of_rel h.provisioner.key fun _ _ hsame => hsame.validUntil

theorem Alike.certificateValidUntil (h : left.Alike right) :
    left.certificateValidUntil = right.certificateValidUntil :=
  map_eq_of_rel h.provisioner.certificate fun _ _ hsame => hsame.validUntil

theorem Alike.state (h : left.Alike right) : left.state = right.state := by
  unfold Accounts.state
  rw [h.clock, Provisioner.state_alike h.provisioner right.clock]

end Parts

namespace Activity

variable {left right : Activity σ}

/-- Whether two account managers with their calls under way differ in secrets only. -/
structure Alike (left right : Activity σ) : Prop where
  accounts : left.accounts.Alike right.accounts
  waits : List.Forall₂ (EntriesAlike CertificateWait.Alike) left.waits right.waits
  signings : List.Forall₂ Signing.Alike left.signings right.signings

theorem wait?_alike (h : left.Alike right) (id : CallId) :
    Option.Rel CertificateWait.Alike (left.wait? id) (right.wait? id) :=
  rel_value h.waits id

theorem signing?_alike (h : left.Alike right) (requestId : Nat) :
    Option.Rel Signing.Alike (left.signing? requestId) (right.signing? requestId) :=
  rel_find? h.signings fun _ _ hsame => by rw [hsame.requestId]

theorem forget_alike (h : left.Alike right) (id : CallId) :
    (left.forget id).Alike (right.forget id) :=
  { h with waits := rel_erase h.waits id }

theorem isBusy_alike (h : left.Alike right) (id : CallId) : left.isBusy id = right.isBusy id := by
  unfold isBusy
  rw [isSome_eq_of_rel (wait?_alike h id),
    isSome_eq_of_rel (Session.Activity.waiting?_alike h.accounts.activity id)]

theorem returnAssertion_alike (h : left.Alike right) (id : CallId)
    {result other : Except AccountError String} {effects otherEffects : List Effect}
    (hresults : ResultsAlike AccountError.Alike (fun _ _ => True) result other)
    (hshown : shownOf effects = shownOf otherEffects) :
    Step.Alike Session.Reply.Alike Activity.Alike (left.returnAssertion id result effects)
      (right.returnAssertion id other otherEffects) := by
  refine ⟨.none, forget_alike h id, ?_⟩
  unfold returnAssertion
  rw [shownOf_append, shownOf_append, hshown,
    shownOf_returned id (hresults.map fun _ _ _ => .assertion _ _)]

theorem answer_alike (h : left.Alike right) (requestId : Nat)
    {answer other : Except RemoteError String}
    (hanswers : ResultsAlike Eq (fun _ _ => True) answer other) :
    (left.answer requestId answer).Alike (right.answer requestId other) := by
  refine { h with signings := List.rel_map (fun signing otherSigning hsame => ?_) h.signings }
  rw [hsame.requestId]
  split
  · exact ⟨rfl, .some hanswers⟩
  · exact hsame

theorem resume_alike (h : left.Alike right) (id : CallId) {wait other : CertificateWait}
    (hwaits : wait.Alike other) {answer otherAnswer : Except RemoteError String}
    (hanswers : ResultsAlike Eq (fun _ _ => True) answer otherAnswer) :
    Step.Alike Session.Reply.Alike Activity.Alike (left.resume id wait answer)
      (right.resume id other otherAnswer) := by
  obtain ⟨hresult, hstate, hshown⟩ := Provisioner.finish_alike h.accounts.provisioner
    h.accounts.setting h.accounts.epoch hwaits.generation hwaits.key other.requestId hanswers
  unfold resume
  dsimp only
  rw [hwaits.requestId]
  refine returnAssertion_alike ?_ id (hresult.map fun _ _ _ => trivial) hshown
  exact { h with accounts := { h.accounts with provisioner := hstate } }

theorem certified_alike (h : left.Alike right) (id : CallId) {generation other : Nat}
    (hgenerations : generation = other) (audience : String) {effects otherEffects : List Effect}
    (hlogged : shownOf effects = shownOf otherEffects)
    {planned others : Step Provisioner (Except AccountError
      (EphemeralKey × Provisioner.CertificatePlan))}
    (hplanned : Step.Alike
      (ResultsAlike AccountError.Alike fun found others =>
        found.1.Alike others.1 ∧ found.2.Alike others.2) Provisioner.Alike planned others) :
    Step.Alike Session.Reply.Alike Activity.Alike
      (left.certified id generation audience effects planned)
      (right.certified id other audience otherEffects others) := by
  subst hgenerations
  obtain ⟨result, provisioner, logged⟩ := planned
  obtain ⟨otherResult, otherProvisioner, otherLogged⟩ := others
  obtain ⟨hresults, hprovisioners, hshown⟩ := hplanned
  dsimp only at hresults hprovisioners hshown
  have hnext : (left.withProvisioner provisioner).Alike (right.withProvisioner otherProvisioner) :=
    { h with accounts := { h.accounts with provisioner := hprovisioners } }
  have hboth : shownOf (effects ++ logged) = shownOf (otherEffects ++ otherLogged) := by
    rw [shownOf_append, shownOf_append, hlogged, hshown]
  have hawait {key otherKey : EphemeralKey} (hkeys : key.Alike otherKey) (requestId : Nat) :
      ((left.withProvisioner provisioner).await id ⟨generation, key, requestId, audience⟩).Alike
        ((right.withProvisioner otherProvisioner).await id
          ⟨generation, otherKey, requestId, audience⟩) :=
    { hnext with waits := List.rel_append hnext.waits (.cons ⟨rfl, rfl, hkeys, rfl, rfl⟩ .nil) }
  cases hresults with
  | error herrors => exact returnAssertion_alike hnext id (.error herrors) hboth
  | @ok found others hfound =>
    obtain ⟨key, plan⟩ := found
    obtain ⟨otherKey, otherPlan⟩ := others
    obtain ⟨hkeys, hplans⟩ := hfound
    dsimp only at hkeys hplans
    cases hplans with
    | ready => exact returnAssertion_alike hnext id (.ok trivial) hboth
    | joined requestId => exact ⟨.none, hawait hkeys requestId, hboth⟩
    | requested requestId =>
      have hsignings := (hawait hkeys requestId).signings
      refine ⟨.none, { hawait hkeys requestId with signings := ?_ }, hboth⟩
      exact List.rel_append hsignings (.cons ⟨rfl, .none⟩ .nil)

theorem beginAssertion_alike (h : left.Alike right) (id : CallId) (audience : String) :
    Step.Alike Session.Reply.Alike Activity.Alike (left.beginAssertion id audience)
      (right.beginAssertion id audience) := by
  obtain ⟨hlooked, hsession, hlogged⟩ := Session.snapshot_alike h.accounts.activity.session
  unfold beginAssertion
  dsimp only
  generalize left.accounts.activity.session.snapshot = looked at hlooked hsession hlogged ⊢
  generalize right.accounts.activity.session.snapshot = others at hlooked hsession hlogged ⊢
  obtain ⟨result, session, effects⟩ := looked
  obtain ⟨otherResult, otherSession, otherEffects⟩ := others
  dsimp only at hlooked hsession hlogged ⊢
  have haccounts : Accounts.Alike
      { left.accounts with activity := { left.accounts.activity with session } }
      { right.accounts with
        activity := { right.accounts.activity with session := otherSession } } :=
    { h.accounts with activity := h.accounts.activity.withSession hsession }
  have hnext : Activity.Alike
      { left with accounts := { left.accounts with
          activity := { left.accounts.activity with session } } }
      { right with accounts := { right.accounts with
          activity := { right.accounts.activity with session := otherSession } } } :=
    { h with accounts := haccounts }
  have hrefuse (error : AccountError) := returnAssertion_alike hnext id
    (ResultsAlike.error (Eq.refl (AccountError.shown error))) hlogged
  cases hlooked with
  | error herrors =>
    subst herrors
    exact hrefuse _
  | ok hfound =>
    cases hfound with
    | none => exact hrefuse _
    | @some user other husers =>
      have htokens := rel_of_isSome_eq husers.record.sessionToken
      dsimp only
      rw [husers.record.isVerified]
      split
      · exact hrefuse _
      · generalize user.record.sessionToken = token at htokens
        generalize other.record.sessionToken = otherToken at htokens
        cases htokens with
        | none => exact hrefuse _
        | some =>
          exact certified_alike hnext id husers.generation audience hlogged
            (Provisioner.certify_alike haccounts.provisioner haccounts.setting haccounts.epoch
              husers.generation _ _)

section Moves

variable [Reliable σ]

theorem moveSession?_alike (h : left.Alike right) {move other : Session.Move σ}
    (hmoves : move.Alike other) :
    Option.Rel (Step.Alike Session.Reply.Alike Activity.Alike) (left.moveSession? move)
      (right.moveSession? other) := by
  have hsteps := Session.Activity.step?_alike h.accounts.activity hmoves
  unfold moveSession?
  generalize left.accounts.activity.step? move = step at hsteps
  generalize right.accounts.activity.step? other = otherStep at hsteps
  cases hsteps with
  | none => exact .none
  | @some step otherStep hsame =>
    obtain ⟨result, state, effects⟩ := step
    obtain ⟨otherResult, otherState, otherEffects⟩ := otherStep
    obtain ⟨hresults, hstates, hshown⟩ := hsame
    dsimp only at hresults hstates hshown
    have haccounts : Accounts.Alike { left.accounts with activity := state }
        { right.accounts with activity := otherState } :=
      { h.accounts with activity := hstates }
    have hkept : Activity.Alike { left with accounts := { left.accounts with activity := state } }
        { right with accounts := { right.accounts with activity := otherState } } :=
      { h with accounts := haccounts }
    cases hmoves with
    | signIn =>
      cases hresults with
      | none => exact .some ⟨.none, hkept, hshown⟩
      | user husers => exact .some ⟨.user husers, hkept, hshown⟩
      | stored result =>
        cases result with
        | error error => exact .some ⟨.stored _, hkept, hshown⟩
        | ok _ => exact .some ⟨.stored _, { h with accounts := haccounts.reset }, hshown⟩
    | signOut =>
      refine .some ⟨hresults, { h with accounts := haccounts.reset }, ?_⟩
      simp only [shownOf_append, hshown]
    | look | evict | beginKeys | takeTurn | answerKeys | beginVerification | answerStatus | wake
    | drop | alterStore => exact .some ⟨hresults, hkept, hshown⟩

theorem step?_alike (h : left.Alike right) {move other : Move σ} (hmoves : move.Alike other) :
    Option.Rel (Step.Alike Session.Reply.Alike Activity.Alike) (left.step? move)
      (right.step? other) := by
  cases hmoves with
  | session hmoves =>
    have hmoved := moveSession?_alike h hmoves
    cases hmoves with
    | beginKeys id | beginVerification id =>
      unfold step?
      dsimp only
      rw [isBusy_alike h]
      split
      · exact .none
      · exact hmoved
    | look | evict | signIn | signOut | takeTurn | answerKeys | answerStatus | wake | drop
    | alterStore => exact hmoved
  | setClock now =>
    exact .some ⟨.none, { h with accounts := { h.accounts with clock := rfl } }, rfl⟩
  | beginAssertion id audience =>
    unfold step?
    dsimp only
    rw [isBusy_alike h]
    split
    · exact .none
    · exact .some (beginAssertion_alike h id audience)
  | answerCertificate requestId hanswers =>
    have hsigning := signing?_alike h requestId
    unfold step?
    dsimp only
    generalize left.signing? requestId = signing at hsigning
    generalize right.signing? requestId = otherSigning at hsigning
    cases hsigning with
    | none => exact .none
    | @some signing otherSigning hsame =>
      obtain ⟨id, answer⟩ := signing
      obtain ⟨otherId, otherAnswer⟩ := otherSigning
      have hsigned := hsame.answer
      dsimp only at hsigned
      cases hsigned with
      | none => exact .some ⟨.none, answer_alike h requestId hanswers, rfl⟩
      | some => exact .none
  | resume id =>
    have hwaits := wait?_alike h id
    unfold step?
    dsimp only
    generalize left.wait? id = wait at hwaits
    generalize right.wait? id = otherWait at hwaits
    cases hwaits with
    | none => exact .none
    | @some wait otherWait hwait =>
      have hsigned : Option.Rel (ResultsAlike Eq fun _ _ => True)
          ((left.signing? wait.requestId).bind Signing.answer)
          ((right.signing? otherWait.requestId).bind Signing.answer) := by
        rw [hwait.requestId]
        exact rel_bind (signing?_alike h otherWait.requestId) fun _ _ hsame => hsame.answer
      dsimp only
      generalize (left.signing? wait.requestId).bind Signing.answer = answer at hsigned
      generalize (right.signing? otherWait.requestId).bind Signing.answer = otherAnswer at hsigned
      cases hsigned with
      | none => exact .none
      | some hanswers => exact .some (resume_alike h id hwait hanswers)
  | drop id =>
    unfold step?
    dsimp only
    rw [isSome_eq_of_rel (wait?_alike h id)]
    split
    · exact .some ⟨.none, forget_alike h id, rfl⟩
    · exact .none

/-! ### Runs -/

structure Observed where
  reply : Option (Except StorageError (Option String))
  shown : List Shown
  state : ProvisioningState
  keyValidUntil : Option UInt64
  certificateValidUntil : Option UInt64

omit [CredentialStore σ] [Reliable σ] in
/-- What a move gives back, logs, sends and lets return, and what is at hand after it until when. -/
def observed (made : Made (Activity σ) (Move σ) Session.Reply) : Observed where
  reply := made.step.result.shown
  shown := shownOf made.step.effects
  state := made.after.accounts.state
  keyValidUntil := made.after.accounts.keyValidUntil
  certificateValidUntil := made.after.accounts.certificateValidUntil

omit [Reliable σ] in
theorem observed_eq {made other : Made (Activity σ) (Move σ) Session.Reply}
    (h : Step.Alike Session.Reply.Alike Activity.Alike made.step other.step) :
    observed other = observed made := by
  have haccounts := h.state.accounts
  unfold observed Made.after
  rw [h.result.shown, h.shown, haccounts.state, haccounts.keyValidUntil,
    haccounts.certificateValidUntil]

/-- An alike account manager makes the run with alike moves, and shows the same. -/
theorem twin_of_run {start twin finish : Activity σ} {history : History σ} {moves : List (Move σ)}
    (h : start.Alike twin) (run : Run step? start history finish)
    (hmoves : List.Forall₂ Move.Alike (history.map Made.move) moves) :
    ∃ twins last, Run step? twin twins last ∧ twins.map Made.move = moves ∧
      twins.map observed = history.map observed := by
  induction history generalizing start twin moves with
  | nil =>
    cases hmoves
    exact ⟨[], twin, rfl, rfl, rfl⟩
  | cons made rest ih =>
    obtain ⟨rfl, hstep, hrest⟩ := run
    rw [List.map_cons] at hmoves
    cases hmoves with
    | @cons _ other _ others hmove hothers =>
      have hsteps := step?_alike h hmove
      rw [hstep] at hsteps
      cases hother : twin.step? other with
      | none =>
        rw [hother] at hsteps
        cases hsteps
      | some step =>
        rw [hother] at hsteps
        cases hsteps with
        | some hsame =>
          obtain ⟨twins, last, htwins, hmap, hobserved⟩ := ih hsame.state hrest hothers
          refine ⟨⟨twin, other, step⟩ :: twins, last, ⟨rfl, hother, htwins⟩, ?_, ?_⟩
          · rw [List.map_cons, hmap]
          · rw [List.map_cons, List.map_cons, hobserved, observed_eq (by exact hsame)]

end Moves

theorem new_alike {config : Config} {clock : UInt64}
    {seeds otherSeeds : Nat → Bytes} {store other : σ} {left right : Accounts σ}
    (hleft : Accounts.new config seeds clock store = .ok left)
    (hright : Accounts.new config otherSeeds clock other = .ok right)
    (hstores : Storage.Alike store other) :
    Activity.Alike ⟨left, [], []⟩ ⟨right, [], []⟩ := by
  unfold Accounts.new at hleft hright
  split at hleft
  · cases hleft
  · rename_i hvalid
    rw [hvalid] at hright
    cases hleft
    cases hright
    have hcalls : Session.Activity.Alike (newActivity config store) (newActivity config other) :=
      ⟨⟨hstores, .none, rfl, rfl⟩, rfl, rfl, rfl, .nil⟩
    exact ⟨⟨rfl, rfl, hcalls, ⟨rfl, .none, .none, rfl, rfl, rfl⟩⟩, .nil, .nil⟩

/-- What is shown does not depend on secrets. Two account managers of one configuration, over stores
in memory that hold alike records, go through the same moves, but for the tokens, keys and
assertions of the records, the bytes of the keys and the texts of the certificates that the service
hands out, and the random bytes of the key pairs. Then they log the same, send the same events,
return results of the same kinds and records with the same descriptions, and tell the same of what
is at hand. -/
theorem secrets_are_not_shown {config : Config} {clock : UInt64} {seeds otherSeeds : Nat → Bytes}
    {store other : BlobCredentials MemoryBlobs}
    {left right : Accounts (BlobCredentials MemoryBlobs)}
    {finish : Activity (BlobCredentials MemoryBlobs)}
    {history : History (BlobCredentials MemoryBlobs)} {moves : List (Move _)}
    (hleft : Accounts.new config seeds clock store = .ok left)
    (hright : Accounts.new config otherSeeds clock other = .ok right)
    (hstores : Storage.Alike store other) (run : Run step? ⟨left, [], []⟩ history finish)
    (hmoves : List.Forall₂ Move.Alike (history.map Made.move) moves) :
    (∃ twins last, Run step? ⟨right, [], []⟩ twins last ∧ twins.map Made.move = moves) ∧
    ∀ twins last, Run step? ⟨right, [], []⟩ twins last → twins.map Made.move = moves →
      twins.map observed = history.map observed := by
  obtain ⟨twins, last, htwins, hmap, hobserved⟩ :=
    twin_of_run (new_alike hleft hright hstores) run hmoves
  refine ⟨⟨twins, last, htwins, hmap⟩, fun others otherLast hothers hsame => ?_⟩
  rw [htwins.unique hothers (hsame.trans hmap.symm)]
  exact hobserved

/-- A user signs in, gets the keys and an assertion. -/
def visit (record : CredentialRecord) (bundle : KeyBundle) (certificate : String) :
    List (Move (BlobCredentials MemoryBlobs)) := [
  .session (.signIn record),
  .session (.beginKeys 0),
  .session (.answerKeys 0 (.ok bundle)),
  .beginAssertion 1 "https://example.com",
  .answerCertificate 2 (.ok certificate),
  .resume 1]

theorem visit_alike {record other : CredentialRecord} {bundle otherBundle : KeyBundle}
    (hrecords : record.Alike other) (hbundles : bundle.Alike otherBundle)
    (certificate otherCertificate : String) :
    List.Forall₂ Move.Alike (visit record bundle certificate)
      (visit other otherBundle otherCertificate) :=
  .cons (.session (.signIn hrecords)) <| .cons (.session (.beginKeys 0)) <|
    .cons (.session (.answerKeys 0 (.ok hbundles))) <| .cons (.beginAssertion 1 _) <|
      .cons (.answerCertificate 2 (.ok trivial)) <| .cons (.resume 1) .nil

/-- Two users pay a visit who differ in every token and key, to account managers that make other key
pairs. -/
theorem visits_are_told_alike :
    ∃ finish last, ∃ history twins : History (BlobCredentials MemoryBlobs),
      Run step? (blank memory) history finish ∧
      history.map Made.move =
        visit { sessionToken := some "token", keyFetchToken := some "fetch"
                unwrapBKey := some "22" } ⟨[0x44], [0x11]⟩ "certificate" ∧
      Run step? ⟨⟨{}, fun _ => List.replicate 32 2, 0, newActivity {} memory, {}⟩, [], []⟩ twins
        last ∧
      twins.map Made.move =
        visit { sessionToken := some "other token", keyFetchToken := some "once"
                unwrapBKey := some "f0" } ⟨[0x55], [0x99]⟩ "other certificate" ∧
      twins.map observed = history.map observed := by
  have hdigits : DigitsAlike "22" "f0" := .ok rfl
  have hrecords : CredentialRecord.Alike
      { sessionToken := some "token", keyFetchToken := some "fetch", unwrapBKey := some "22" }
      { sessionToken := some "other token", keyFetchToken := some "once",
        unwrapBKey := some "f0" } :=
    ⟨rfl, rfl, rfl, rfl, rfl, .some hdigits, rfl, rfl, rfl⟩
  have hbundles : KeyBundle.Alike ⟨[0x44], [0x11]⟩ ⟨[0x55], [0x99]⟩ := ⟨rfl, rfl⟩
  obtain ⟨finish, run⟩ := run_played step? (blank memory)
    (visit { sessionToken := some "token", keyFetchToken := some "fetch", unwrapBKey := some "22" }
      ⟨[0x44], [0x11]⟩ "certificate")
  obtain ⟨⟨twins, last, htwins, hmap⟩, hobserved⟩ :=
    @secrets_are_not_shown {} 0 (fun _ => List.replicate 32 1) (fun _ => List.replicate 32 2)
      memory memory _ _ _ [_, _, _, _, _, _] _ rfl rfl (.ok .none) run
      (visit_alike hrecords hbundles "certificate" "other certificate")
  exact ⟨finish, last, [_, _, _, _, _, _], twins, run, rfl, htwins, hmap,
    hobserved twins last htwins hmap⟩

end Activity

end Accounts

end AccountManager
