import AccountManager.Proofs.Accounts.SessionPart

/-!
# Where keys, requests and certificates come from

What the provisioner holds, and what the calls that wait for a certificate remember, is traced back
to the moves that brought it about: the one that generated the key, the one that asked for a
certificate for it, and the one in which the service answered. A number is given to one key or one
request only, so none of them is mistaken for that of another epoch.
-/

namespace AccountManager.Accounts

open Storage

variable {σ : Type} [CredentialStore σ]

structure Generates (made : Made (Activity σ) (Move σ) Session.Reply) (key : EphemeralKey) :
    Prop where
  new : key = made.before.provisioner.newKey made.before.accounts.setting
  drawn : made.after.provisioner.generated = made.before.provisioner.generated + 1
  numbered : key.id ≤ made.after.provisioner.lastId

omit [CredentialStore σ] in
theorem Generates.crosses {made : Made (Activity σ) (Move σ) Session.Reply} {key : EphemeralKey}
    (h : Generates made key) :
    made.before.provisioner.lastId < key.id ∧ key.id ≤ made.after.provisioner.lastId := by
  refine ⟨?_, h.numbered⟩
  rw [h.new]
  exact Nat.lt_succ_self _

/-- Whether a move asked the service, with a token, to certify a key. -/
structure Requests (made : Made (Activity σ) (Move σ) Session.Reply) (requestId : Nat)
    (token : String) (key : PublicKey) : Prop where
  call : callsOf made.step.effects = [.signCertificate token key]
  signing : made.after.signings = made.before.signings ++ [⟨requestId, none⟩]

/-- Whether the service has answered a request with a certificate. -/
def Answered (history : History σ) (requestId : Nat) (text : String) : Prop :=
  ∃ made ∈ history, made.move = .answerCertificate requestId (.ok text)

/-- Whether the service has given an answer to a request, be it a certificate or an error. -/
def Given (history : History σ) (requestId : Nat) (answer : Except RemoteError String) : Prop :=
  ∃ made ∈ history, made.move = .answerCertificate requestId answer

/-- Whether the call of a name was last begun as one for an assertion for an audience. -/
def Asked (history : History σ) (id : CallId) (audience : String) : Prop :=
  ∃ begun, LastOf (fun made => made.move.Begins id) history begun ∧
    begun.move = .beginAssertion id audience

def GeneratedIn (history : History σ) (epoch : Nat) (key : EphemeralKey) : Prop :=
  ∃ made ∈ history, made.before.session.epoch = epoch ∧ Generates made key

/-- Whether a certificate for a key was asked for in an epoch, with the token of its user. -/
def RequestedIn [LawfulStore σ] (start : Activity σ) (history : History σ) (epoch requestId : Nat)
    (key : PublicKey) : Prop :=
  ∃ made ∈ history, made.before.session.epoch = epoch ∧ ∃ token user,
    Requests made requestId token key ∧ UserOf start history epoch user ∧
      user.sessionToken = some token

section Longer

variable {history longer : History σ} {epoch requestId : Nat} {id : CallId} {text : String}
  {made : Made (Activity σ) (Move σ) Session.Reply}

omit [CredentialStore σ] in
theorem Answered.mono (h : Answered history requestId text)
    (hlonger : ∀ made ∈ history, made ∈ longer) : Answered longer requestId text := by
  obtain ⟨made, hmade, hmove⟩ := h
  exact ⟨made, hlonger made hmade, hmove⟩

omit [CredentialStore σ] in
theorem Asked.of_begun (past : History σ) {audience : String}
    (hmove : made.move = .beginAssertion id audience) : Asked (past ++ [made]) id audience :=
  ⟨made, .of_concat past (by rw [hmove]; rfl), hmove⟩

omit [CredentialStore σ] in
theorem Asked.concat {audience : String} (h : Asked history id audience)
    (hmade : ¬ made.move.Begins id) : Asked (history ++ [made]) id audience := by
  obtain ⟨begun, hbegun, hmove⟩ := h
  exact ⟨begun, hbegun.concat hmade, hmove⟩

omit [CredentialStore σ] in
theorem Asked.unique {audience other : String} (h : Asked history id audience)
    (hother : Asked history id other) : other = audience := by
  obtain ⟨begun, hbegun, hmove⟩ := h
  obtain ⟨begunToo, hbegunToo, hmoveToo⟩ := hother
  obtain rfl := hbegun.unique hbegunToo
  cases hmove.symm.trans hmoveToo
  rfl

omit [CredentialStore σ] in
theorem GeneratedIn.mono {key : EphemeralKey} (h : GeneratedIn history epoch key)
    (hlonger : ∀ made ∈ history, made ∈ longer) : GeneratedIn longer epoch key := by
  obtain ⟨made, hmade, hgenerates⟩ := h
  exact ⟨made, hlonger made hmade, hgenerates⟩

theorem UserOf.mono [LawfulStore σ] {start : Activity σ} {record : CredentialRecord}
    (h : UserOf start history epoch record) (hlonger : ∀ made ∈ history, made ∈ longer) :
    UserOf start longer epoch record := by
  rcases h with hstart | ⟨made, hmade, hsigned⟩
  · exact .inl hstart
  · exact .inr ⟨made, hlonger made hmade, hsigned⟩

theorem RequestedIn.mono [LawfulStore σ] {start : Activity σ} {key : PublicKey}
    (h : RequestedIn start history epoch requestId key)
    (hlonger : ∀ made ∈ history, made ∈ longer) :
    RequestedIn start longer epoch requestId key := by
  obtain ⟨made, hmade, hepoch, token, user, hrequests, huser, htoken⟩ := h
  exact ⟨made, hlonger made hmade, hepoch, token, user, hrequests, huser.mono hlonger, htoken⟩

end Longer

namespace Activity

variable {activity start finish : Activity σ} {move : Move σ} {history : History σ}
  {step : Step (Activity σ) Session.Reply} {id : CallId}

/-! ### Numbers -/

/-- No move changes the configuration or the source of the random bytes, and numbers only grow. -/
structure Advances (before after : Activity σ) : Prop where
  config : after.accounts.config = before.accounts.config
  seeds : after.accounts.seeds = before.accounts.seeds
  lastId : before.provisioner.lastId ≤ after.provisioner.lastId

theorem advances_of_step? (horderly : activity.Orderly) (hstep : activity.step? move = some step) :
    activity.Advances step.state := by
  cases allows_of_step? horderly.settled hstep with
  | session | newEpoch | setClock | answerCertificate | drop =>
    exact ⟨rfl, rfl, Nat.le_refl _⟩
  | beginAssertion hnew hfree hbegins =>
    cases hbegins with
    | refused error => exact ⟨rfl, rfl, Nat.le_refl _⟩
    | ready hlooked hfresh => exact ⟨rfl, rfl, hfresh.lastId_le⟩
    | joined hlooked hfresh => exact ⟨rfl, rfl, hfresh.lastId_le⟩
    | requested hlooked htoken hfresh =>
      exact ⟨rfl, rfl, Nat.le_succ_of_le hfresh.lastId_le⟩
  | @resume id wait answer hwait hanswer =>
    refine ⟨rfl, rfl, ?_⟩
    obtain ⟨certificate, hfinished⟩ := activity.provisioner.finish_state activity.accounts.setting
      activity.session.epoch wait.generation wait.key wait.requestId answer
    change activity.provisioner.lastId ≤ (activity.provisioner.finish activity.accounts.setting
      activity.session.epoch wait.generation wait.key wait.requestId answer).state.lastId
    rw [hfinished]
    exact Nat.le_of_eq (Provisioner.lastId_withoutRequest _ _).symm

theorem advances_of_mem (hopened : start.Opened) (run : Run step? start history finish)
    {made : Made (Activity σ) (Move σ) Session.Reply} (hmade : made ∈ history) :
    made.before.Orderly ∧ made.before.Advances made.after := by
  obtain ⟨earlier, hearlier, hstep⟩ := run.reached hmade
  have horderly := orderly_of_run hopened hearlier
  exact ⟨horderly, advances_of_step? horderly hstep⟩

theorem setup_of_run (hopened : start.Opened) (run : Run step? start history finish) :
    finish.accounts.config = start.accounts.config ∧
      finish.accounts.seeds = start.accounts.seeds := by
  refine run.induction (P := fun _ activity => activity.accounts.config = start.accounts.config ∧
    activity.accounts.seeds = start.accounts.seeds) ⟨rfl, rfl⟩
    fun past made hpast hstep hbefore => ?_
  have hadvances := advances_of_step? (orderly_of_run hopened hpast) hstep
  exact ⟨hadvances.config.trans hbefore.1, hadvances.seeds.trans hbefore.2⟩

/-! ### Uniqueness -/

/-- The number of a key was given to it in one move only. -/
theorem generates_once (hopened : start.Opened) (run : Run step? start history finish)
    {made other : Made (Activity σ) (Move σ) Session.Reply} {key otherKey : EphemeralKey}
    (hmade : made ∈ history) (hother : other ∈ history) (hgenerates : Generates made key)
    (hgeneratesToo : Generates other otherKey) (hid : otherKey.id = key.id) : other = made := by
  refine run.crossed_once (fun activity => activity.provisioner.lastId) (fun between hbetween => ?_)
    hmade hother hgenerates.crosses ?_
  · exact (advances_of_mem hopened run hbetween).2.lastId
  · rw [← hid]
    exact hgeneratesToo.crosses

theorem generatedIn_unique (hopened : start.Opened) (run : Run step? start history finish)
    {epoch otherEpoch : Nat} {key otherKey : EphemeralKey} (hkey : GeneratedIn history epoch key)
    (hotherKey : GeneratedIn history otherEpoch otherKey) (hid : otherKey.id = key.id) :
    otherKey = key ∧ otherEpoch = epoch := by
  obtain ⟨made, hmade, hepoch, hgenerates⟩ := hkey
  obtain ⟨other, hother, hotherEpoch, hgeneratesToo⟩ := hotherKey
  obtain rfl := generates_once hopened run hmade hother hgenerates hgeneratesToo hid
  exact ⟨hgeneratesToo.new.trans hgenerates.new.symm, hotherEpoch.symm.trans hepoch⟩

theorem requestId_of_signing {requestId : Nat} (horderly : activity.Orderly)
    (hstep : activity.step? move = some step)
    (hsigning : step.state.signings = activity.signings ++ [⟨requestId, none⟩]) :
    activity.provisioner.lastId < requestId ∧ requestId ≤ step.state.provisioner.lastId := by
  have hlength := congrArg List.length hsigning
  rw [List.length_append, List.length_singleton] at hlength
  cases allows_of_step? horderly.settled hstep with
  | session | newEpoch | setClock | drop | resume =>
    exact absurd hlength.symm (Nat.succ_ne_self _)
  | answerCertificate =>
    rw [answer, List.length_map] at hlength
    exact absurd hlength.symm (Nat.succ_ne_self _)
  | beginAssertion hnew hfree hbegins =>
    cases hbegins with
    | refused | ready | joined => exact absurd hlength.symm (Nat.succ_ne_self _)
    | requested hlooked htoken hfresh =>
      have hsame := List.append_cancel_left hsigning
      cases hsame
      exact ⟨Nat.lt_succ_of_le hfresh.lastId_le, Nat.le_refl _⟩

/-- The number of a request was given to it in one move only. -/
theorem requests_once (hopened : start.Opened) (run : Run step? start history finish)
    {made other : Made (Activity σ) (Move σ) Session.Reply} {requestId : Nat}
    {token otherToken : String} {key otherKey : PublicKey} (hmade : made ∈ history)
    (hother : other ∈ history) (hrequests : Requests made requestId token key)
    (hrequestsToo : Requests other requestId otherToken otherKey) : other = made := by
  have hcrosses {made : Made (Activity σ) (Move σ) Session.Reply} {token : String}
      {key : PublicKey} (hmade : made ∈ history) (hrequests : Requests made requestId token key) :
      made.before.provisioner.lastId < requestId ∧
        requestId ≤ made.after.provisioner.lastId := by
    obtain ⟨earlier, hearlier, hstep⟩ := run.reached hmade
    exact requestId_of_signing (orderly_of_run hopened hearlier) hstep hrequests.signing
  refine run.crossed_once (fun activity => activity.provisioner.lastId) (fun between hbetween => ?_)
    hmade hother (hcrosses hmade hrequests) (hcrosses hother hrequestsToo)
  exact (advances_of_mem hopened run hbetween).2.lastId

theorem requestedIn_unique [LawfulStore σ] (hopened : start.Opened)
    (run : Run step? start history finish) {epoch otherEpoch requestId : Nat}
    {key otherKey : PublicKey} (hrequested : RequestedIn start history epoch requestId key)
    (hotherRequested : RequestedIn start history otherEpoch requestId otherKey) :
    otherKey = key ∧ otherEpoch = epoch := by
  obtain ⟨made, hmade, hepoch, token, user, hrequests, -, -⟩ := hrequested
  obtain ⟨other, hother, hotherEpoch, otherToken, otherUser, hrequestsToo, -, -⟩ := hotherRequested
  obtain rfl := requests_once hopened run hmade hother hrequests hrequestsToo
  have hcall := hrequestsToo.call.symm.trans hrequests.call
  simp only [List.cons.injEq, RemoteCall.signCertificate.injEq, and_true] at hcall
  exact ⟨hcall.2, hotherEpoch.symm.trans hepoch⟩

/-! ### Answers -/

omit [CredentialStore σ] in
theorem signing?_answer (activity : Activity σ) (requestId other : Nat)
    (answer : Except RemoteError String) :
    (activity.answer requestId answer).signing? other =
      (activity.signing? other).map fun signing =>
        if signing.requestId = requestId then { signing with answer := some answer }
        else signing := by
  have hkey : ((fun signing : Signing => decide (signing.requestId = other)) ∘ fun signing =>
      if signing.requestId = requestId then { signing with answer := some answer } else signing) =
        fun signing => decide (signing.requestId = other) := by
    funext signing
    by_cases hid : signing.requestId = requestId <;> simp [hid]
  unfold signing? Activity.answer
  rw [List.find?_map, hkey]

theorem answered_of_step? {signing : Signing} {answer : Except RemoteError String}
    (horderly : activity.Orderly) (hstep : activity.step? move = some step)
    (hsigning : signing ∈ step.state.signings) (hanswer : signing.answer = some answer) :
    signing ∈ activity.signings ∨ move = .answerCertificate signing.requestId answer := by
  cases allows_of_step? horderly.settled hstep with
  | session | newEpoch | setClock | drop | resume => exact .inl hsigning
  | beginAssertion hnew hfree hbegins =>
    cases hbegins with
    | refused | ready | joined => exact .inl hsigning
    | requested =>
      rcases List.mem_append.1 hsigning with hold | hlast
      · exact .inl hold
      · obtain rfl := List.mem_singleton.1 hlast
        cases hanswer
  | @answerCertificate requestId held hunanswered given =>
    obtain ⟨earlier, hearlier, rfl⟩ := List.mem_map.1 hsigning
    by_cases hid : earlier.requestId = requestId
    · rw [if_pos hid] at hanswer ⊢
      obtain rfl := Option.some.inj hanswer
      exact .inr (by rw [hid])
    · rw [if_neg hid] at hanswer ⊢
      exact .inl hearlier

/-- A request that was answered keeps its answer. -/
theorem answer_of_step? {requestId : Nat} {answer : Except RemoteError String}
    (horderly : activity.Orderly) (hstep : activity.step? move = some step)
    (hanswer : (activity.signing? requestId).bind Signing.answer = some answer) :
    (step.state.signing? requestId).bind Signing.answer = some answer := by
  cases allows_of_step? horderly.settled hstep with
  | session | newEpoch | setClock | drop | resume => exact hanswer
  | beginAssertion hnew hfree hbegins =>
    cases hbegins with
    | refused | ready | joined => exact hanswer
    | requested =>
      obtain ⟨signing, hsigning, hheld⟩ := Option.bind_eq_some_iff.1 hanswer
      refine Option.bind_eq_some_iff.2 ⟨signing, ?_, hheld⟩
      change ((activity.signings ++ _).find? _) = _
      rw [List.find?_append, show activity.signings.find? _ = some signing from hsigning]
      rfl
  | @answerCertificate other held hunanswered given =>
    obtain ⟨signing, hsigning, hheld⟩ := Option.bind_eq_some_iff.1 hanswer
    have hid : signing.requestId = requestId := by simpa using List.find?_some hsigning
    have hother : ¬ signing.requestId = other := by
      rintro rfl
      rw [hid, hsigning] at hunanswered
      cases hunanswered
      cases hheld
    change ((activity.answer other given).signing? requestId).bind Signing.answer = some answer
    rw [signing?_answer, hsigning, Option.map_some, if_neg hother]
    exact hheld

theorem answer_of_given (hopened : start.Opened) (run : Run step? start history finish)
    {requestId : Nat} {answer : Except RemoteError String}
    (hgiven : Given history requestId answer) :
    (finish.signing? requestId).bind Signing.answer = some answer := by
  induction history using List.reverseRecOn generalizing finish with
  | nil =>
    obtain ⟨made, hmade, -⟩ := hgiven
    cases hmade
  | append_singleton past made ih =>
    obtain ⟨hpast, hstep, rfl⟩ := run_concat.1 run
    have horderly := orderly_of_run hopened hpast
    obtain ⟨other, hother, hmove⟩ := hgiven
    rcases List.mem_append.1 hother with hearlier | hlast
    · exact answer_of_step? horderly hstep (ih hpast ⟨other, hearlier, hmove⟩)
    · obtain rfl := List.mem_singleton.1 hlast
      obtain ⟨activity, move, step⟩ := other
      dsimp only at hmove hstep horderly
      subst hmove
      cases allows_of_step? horderly.settled hstep with
      | answerCertificate hunanswered =>
        have hid := List.find?_some hunanswered
        change ((activity.answer requestId answer).signing? requestId).bind Signing.answer = _
        rw [signing?_answer, hunanswered, Option.map_some, if_pos (by simpa using hid)]
        rfl

/-- A request is answered once. -/
theorem given_unique (hopened : start.Opened) (run : Run step? start history finish)
    {requestId : Nat} {answer other : Except RemoteError String}
    (hgiven : Given history requestId answer) (hother : Given history requestId other) :
    other = answer := by
  have hanswer := answer_of_given hopened run hgiven
  rw [answer_of_given hopened run hother] at hanswer
  exact Option.some.inj hanswer

theorem answered_unique (hopened : start.Opened) (run : Run step? start history finish)
    {requestId : Nat} {text other : String} (hanswered : Answered history requestId text)
    (hanswers : Answered history requestId other) : other = text :=
  Except.ok.inj (given_unique hopened run hanswered hanswers)

end Activity

end AccountManager.Accounts
