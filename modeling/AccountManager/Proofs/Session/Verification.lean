import AccountManager.Proofs.Session.Provenance

/-!
# Whose verification is credited

A wait asks about the session token of the record that it was begun with, but it marks the record of
the user who is signed in. The two need not belong together: a wait that is begun with the record of
somebody else is tied to the epoch in which it begins and so to its user. What follows says what a
record is marked for, and in which of the cases the service has vouched for that very record.
-/

namespace AccountManager.Session

open Storage

variable {σ : Type} [CredentialStore σ]

/-- Whether a move is a positive answer of the service to a call. -/
def Move.Grants (id : CallId) : Move σ → Prop
  | .answerStatus other (.ok true) => other = id
  | .answerKeys other (.ok _) => other = id
  | _ => False

/-- Whether a move is a positive answer to what the service was last asked. -/
def Answers (past : History σ) (made : Made (Activity σ) (Move σ) Reply) (call : RemoteCall) :
    Prop :=
  ∃ id epoch, made.move.Grants id ∧ Asks past id epoch call

/-- Whether the service has given a positive answer in an epoch. -/
def Granted (history : History σ) (epoch : Nat) (call : RemoteCall) : Prop :=
  ∃ past made rest, history = past ++ made :: rest ∧ made.before.session.epoch = epoch ∧
    Answers past made call

/-- The calls that are made with the tokens of a record. -/
inductive Concerns (record : CredentialRecord) : RemoteCall → Prop
  | status {token : String} (htoken : record.sessionToken = some token) :
      Concerns record (.checkStatus token)
  | keys {token : String} (htoken : record.keyFetchToken = some token) :
      Concerns record (.fetchKeys token)

/-- Whether the service has vouched for a record in an epoch: it said that the address behind its
session token was verified, or it handed out the keys for its token. -/
def Vouched (history : History σ) (epoch : Nat) (record : CredentialRecord) : Prop :=
  ∃ call, Concerns record call ∧ Granted history epoch call

/-- Why a record was marked as verified: its keys came, or a wait of this epoch was told that the
address behind the record it was begun with was verified. In the second case the service has vouched
for the marked record only if it had done so before or if the two records share a session token. -/
inductive Marks (past : History σ) (made : Made (Activity σ) (Move σ) Reply)
    (old new : CredentialRecord) : Prop
  | keys {id : CallId} {bundle : KeyBundle} {kB : String}
      (hmove : made.move = .answerKeys id (.ok bundle))
      (hnew : new = withKeys old (Hex.encode bundle.kA) kB)
      (hvouched : Vouched (past ++ [made]) made.before.session.epoch old) : Marks past made old new
  | verified {id : CallId} {token : String} {given : CredentialRecord}
      (hmove : made.move = .answerStatus id (.ok true))
      (hnew : new = { old with isVerified := true })
      (hawaits : Awaits past id made.before.session.epoch token given)
      (hasks : Asks past id made.before.session.epoch (.checkStatus token))
      (hvouched : Vouched (past ++ [made]) made.before.session.epoch old ↔
        Vouched past made.before.session.epoch old ∨ given.sessionToken = old.sessionToken) :
      Marks past made old new

section Vouched

variable {past : History σ} {made : Made (Activity σ) (Move σ) Reply} {epoch : Nat}
  {call : RemoteCall} {record : CredentialRecord} {id : CallId}

omit [CredentialStore σ] in
theorem granted_concat :
    Granted (past ++ [made]) epoch call ↔
      Granted past epoch call ∨ made.before.session.epoch = epoch ∧ Answers past made call := by
  constructor
  · rintro ⟨earlier, answer, rest, heq, hepoch, hanswers⟩
    rcases List.eq_nil_or_concat rest with rfl | ⟨between, last, rfl⟩
    · obtain ⟨rfl, hlast⟩ := List.append_inj' heq rfl
      obtain rfl := (List.cons.inj hlast).1
      exact .inr ⟨hepoch, hanswers⟩
    · rw [List.concat_eq_append, ← List.cons_append, ← List.append_assoc] at heq
      exact .inl ⟨earlier, answer, between, (List.append_inj' heq rfl).1, hepoch, hanswers⟩
  · rintro (⟨earlier, answer, rest, rfl, hepoch, hanswers⟩ | ⟨hepoch, hanswers⟩)
    · exact ⟨earlier, answer, rest ++ [made], by simp, hepoch, hanswers⟩
    · exact ⟨past, made, [], rfl, hepoch, hanswers⟩

omit [CredentialStore σ] in
theorem Granted.asked (h : Granted past epoch call) :
    ∃ asked ∈ past, callsOf asked.step.effects = [call] := by
  obtain ⟨earlier, answer, rest, rfl, -, id, asking, -, asked, hlast, -, hcalls⟩ := h
  exact ⟨asked, List.mem_append_left _ hlast.mem, hcalls⟩

omit [CredentialStore σ] in
theorem vouched_concat :
    Vouched (past ++ [made]) epoch record ↔
      Vouched past epoch record ∨ made.before.session.epoch = epoch ∧
        ∃ call, Concerns record call ∧ Answers past made call := by
  unfold Vouched
  simp only [granted_concat, and_or_left, exists_or]
  apply or_congr_right
  constructor
  · rintro ⟨call, hconcerns, hepoch, hanswers⟩
    exact ⟨hepoch, call, hconcerns, hanswers⟩
  · rintro ⟨hepoch, call, hconcerns, hanswers⟩
    exact ⟨call, hconcerns, hepoch, hanswers⟩

omit [CredentialStore σ] in
/-- An answer about a session token vouches for the records that have this token. -/
theorem vouched_of_status {asked : Nat} {token : String}
    (hmove : made.move = .answerStatus id (.ok true))
    (hasks : Asks past id asked (.checkStatus token)) :
    Vouched (past ++ [made]) made.before.session.epoch record ↔
      Vouched past made.before.session.epoch record ∨ record.sessionToken = some token := by
  rw [vouched_concat]
  refine or_congr_right ⟨?_, fun htoken => ⟨rfl, _, .status htoken, id, asked, ?_, hasks⟩⟩
  · rintro ⟨-, call, hconcerns, other, epoch, hgrants, hasksToo⟩
    rw [hmove] at hgrants
    obtain rfl : id = other := hgrants
    obtain rfl := hasks.unique hasksToo
    cases hconcerns with
    | status htoken => exact htoken
  · rw [hmove]
    rfl

end Vouched

variable [LawfulStore σ]

namespace Activity

variable {activity start finish : Activity σ} {move : Move σ} {step : Step (Activity σ) Reply}
  {past : History σ} {made : Made (Activity σ) (Move σ) Reply} {id : CallId}
  {old new : CredentialRecord}

theorem marks_of_writes (hopened : start.Opened) (run : Run step? start past activity)
    (hquiet : ∀ other ∈ past, other.move.KeepsContents)
    (hold : contents activity.session.store = some (.ok old)) (hunverified : old.isVerified = false)
    (hwrites : activity.Writes move new) :
    UserOf start past activity.session.epoch old ∧
      Marks past ⟨activity, move, step⟩ old new := by
  have hfaithful := faithful_of_run hopened run hquiet
  have hbelongs := belongs_of_run hopened run hquiet
  have huser : UserOf start past activity.session.epoch old := by
    obtain ⟨user, huser, hderived⟩ := hbelongs.shown old (.stored (hfaithful.readable hwrites) hold)
    rwa [hderived.eq_of_unverified hunverified]
  refine ⟨huser, ?_⟩
  cases hwrites with
  | keys hwaiting hepoch =>
    obtain ⟨owner, howner, hderived⟩ := hbelongs.remembered _ _ _ hwaiting
    obtain rfl := userOf_unique run huser (hepoch ▸ howner)
    cases explains_of_run hopened run hwaiting with
    | keys hbegan htoken hasks =>
      refine .keys rfl hderived.withKeys_eq (vouched_concat.2 (.inr ⟨rfl, _, ?_, _, _, rfl, hasks⟩))
      exact .keys (hderived.keyFetchToken htoken)
  | @verified id poll user hwaiting hepoch hlooked =>
    have hsame := (hfaithful.seen hlooked).2
    rw [hold] at hsame
    cases explains_of_run hopened run hwaiting with
    | status hawaits hasks =>
      rw [hepoch] at hawaits hasks
      refine .verified rfl ?_ hawaits hasks ?_
      · rw [Except.ok.inj (Option.some.inj hsame)]
      · rw [vouched_of_status rfl hasks, hawaits.token, eq_comm]

/-- A call that returns what it wrote, and that was begun as a wait, returns the record of the user
who is signed in, in the epoch in which it was begun. -/
theorem returned_of_writes (hopened : start.Opened) (run : Run step? start past activity)
    (hquiet : ∀ other ∈ past, other.move.KeepsContents) (hwrites : activity.Writes move new)
    (hcaller : move.caller? = some id) {epoch : Nat} {given : CredentialRecord}
    (hbegan : Began (past ++ [⟨activity, move, step⟩]) id epoch (.beginVerification id given)) :
    epoch = activity.session.epoch ∧
      ∃ user, UserOf start past epoch user ∧ Derived user new ∧ new.isVerified = true := by
  cases hwrites with
  | keys hwaiting hepoch =>
    obtain rfl := Option.some.inj hcaller
    cases explains_of_run hopened run hwaiting with
    | keys hbeganKeys htoken hasks =>
      have hbegins := (hbegan.unique (hbeganKeys.concat fun hbegins => hbegins)).2
      cases hbegins
  | verified hwaiting hepoch hlooked =>
    obtain rfl := Option.some.inj hcaller
    cases explains_of_run hopened run hwaiting with
    | status hawaits hasks =>
      obtain ⟨rfl, -⟩ := hbegan.unique (hawaits.began.concat fun hbegins => hbegins)
      rw [hepoch]
      obtain ⟨user, huser, hderived⟩ := (belongs_of_run hopened run hquiet).seen hlooked
      exact ⟨rfl, user, huser, hderived.verified, rfl⟩

omit [LawfulStore σ] in
theorem of_returned_wait (hopened : start.Opened) (run : Run step? start past activity)
    (hstep : activity.step? move = some step) {epoch : Nat} {given : CredentialRecord}
    {answer : Answer}
    (hbegan : Began (past ++ [⟨activity, move, step⟩]) id epoch (.beginVerification id given))
    (hunverified : given.isVerified = false)
    (hreturned : (id, .ok answer) ∈ returnedOf step.effects) :
    ∃ record, answer = .record record ∧ move.caller? = some id ∧ activity.Writes move record := by
  obtain ⟨record, rfl, hreturns⟩ := returns_of_step? hstep hreturned
  refine ⟨record, rfl, ?_⟩
  cases hreturns with
  | present hmove hlooked =>
    rcases hmove with rfl | rfl
    · have hbegins := (hbegan.unique ⟨_, .of_concat past rfl, rfl, rfl⟩).2
      cases hbegins
    · cases allows_of_step? hstep with
      | takeTurn hturn hwaiting =>
        cases explains_of_run hopened run hwaiting with
        | turn hbeganKeys =>
          have hbegins := (hbegan.unique (hbeganKeys.concat fun hbegins => hbegins)).2
          cases hbegins
  | given hverified =>
    have hbegins := (hbegan.unique ⟨_, .of_concat past rfl, rfl, rfl⟩).2
    cases hbegins
    rw [hunverified] at hverified
    cases hverified
  | written hcaller hwrites => exact ⟨hcaller, hwrites⟩

/-- A stored record that is not verified is replaced by one that is when a record is signed in, or
when it is marked. -/
theorem marks_of_change (hopened : start.Opened) (run : Run step? start past activity)
    (hquiet : ∀ other ∈ past, other.move.KeepsContents) (hstep : activity.step? move = some step)
    (hkeeps : move.KeepsContents)
    (hold : contents activity.session.store = some (.ok old)) (hunverified : old.isVerified = false)
    (hnew : contents step.state.session.store = some (.ok new))
    (hverified : new.isVerified = true) :
    move = .signIn new ∧ step.result = .stored (.ok ()) ∨
      step.state.session.epoch = activity.session.epoch ∧
        UserOf start past activity.session.epoch old ∧
        Marks past ⟨activity, move, step⟩ old new := by
  have hchanged : contents step.state.session.store ≠ contents activity.session.store := by
    intro hsame
    rw [hnew, hold] at hsame
    cases hsame
    rw [hunverified] at hverified
    cases hverified
  by_cases hepoch : BeginsEpoch move step.result
  · left
    rcases presents_of_beginsEpoch hstep hepoch with
      ⟨record, rfl, hresult, hpresents⟩ | ⟨rfl, -⟩
    · obtain rfl := Except.ok.inj (Option.some.inj (hpresents.stored.symm.trans hnew))
      exact ⟨rfl, hresult⟩
    · cases allows_of_step? hstep with
      | signOut =>
        rcases signOut_contents activity.session with hnone | hsame
        · cases hnone.symm.trans hnew
        · exact absurd hsame hchanged
  · right
    rcases (alters_of_step? hstep hepoch hkeeps).contents with hkept | ⟨record, hheld, hwrites⟩
    · exact absurd hkept hchanged
    · obtain rfl := Except.ok.inj (Option.some.inj (hheld.symm.trans hnew))
      exact ⟨epoch_of_not_beginsEpoch hstep hepoch,
        marks_of_writes hopened run hquiet hold hunverified hwrites⟩

/-- A stored record that is not verified gives way to one that is when a record is signed in, or it
is the record of the user of the epoch and it is marked: because its keys came, or because a wait of
the epoch was told so, and then the service has vouched for it only if the wait was begun with a
record of the same session token or if the service had vouched for it before. A wait that was begun
with a record that is not verified returns the record of the user of the epoch, which carries the
session token of the given record just if the user does. -/
theorem verification_marks_the_user (hopened : start.Opened)
    (run : Run step? start (past ++ [made]) finish)
    (hquiet : ∀ other ∈ past ++ [made], other.move.KeepsContents) :
    (∀ old new, contents made.before.session.store = some (.ok old) → old.isVerified = false →
      contents finish.session.store = some (.ok new) → new.isVerified = true →
        made.move = .signIn new ∧ made.step.result = .stored (.ok ()) ∨
          finish.session.epoch = made.before.session.epoch ∧
            UserOf start past made.before.session.epoch old ∧ Marks past made old new) ∧
    ∀ id epoch given answer, Began (past ++ [made]) id epoch (.beginVerification id given) →
      given.isVerified = false → (id, .ok answer) ∈ returnedOf made.step.effects →
        finish.session.epoch = epoch ∧ ∃ user record, UserOf start past epoch user ∧
          answer = .record record ∧ Derived user record ∧ record.isVerified = true ∧
          (record.sessionToken = given.sessionToken ↔
            user.sessionToken = given.sessionToken) := by
  obtain ⟨hpast, hstep, rfl⟩ := run_concat.1 run
  have hpastQuiet : ∀ other ∈ past, other.move.KeepsContents := fun other hother =>
    hquiet other (List.mem_append_left _ hother)
  have hkeeps := hquiet made (List.mem_append_right _ (List.mem_singleton_self made))
  constructor
  · intro old new hold hunverified hnew hverified
    exact marks_of_change hopened hpast hpastQuiet hstep hkeeps hold hunverified hnew hverified
  · intro id epoch given answer hbegan hunverified hreturned
    obtain ⟨record, rfl, hcaller, hwrites⟩ :=
      of_returned_wait hopened hpast hstep hbegan hunverified hreturned
    obtain ⟨rfl, user, huser, hderived, hverified⟩ :=
      returned_of_writes hopened hpast hpastQuiet hwrites hcaller hbegan
    refine ⟨epoch_of_not_beginsEpoch hstep fun hepoch => ?_, user, record, huser, rfl, hderived,
      hverified, by rw [hderived.sessionToken]⟩
    rw [hepoch.caller?_eq_none] at hcaller
    cases hcaller

/-- A user waits for the verification of the own address. -/
theorem own_verification_marks_the_user :
    ∃ finish past, ∃ made : Made (Activity (BlobCredentials MemoryBlobs)) (Move _) Reply,
      Run step? (blank memory) (past ++ [made]) finish ∧
        UserOf (blank memory) past made.before.session.epoch { sessionToken := some "token" } ∧
        Marks past made { sessionToken := some "token" }
          { sessionToken := some "token", isVerified := true } := by
  obtain ⟨finish, run⟩ := run_played step? (blank memory) [
    .signIn { sessionToken := some "token" },
    .beginVerification 0 { sessionToken := some "token" },
    .answerStatus 0 (.ok true)]
  have hfinish : contents finish.session.store =
      some (.ok { sessionToken := some "token", isVerified := true }) := by
    obtain ⟨-, -, -, -, -, -, rfl⟩ := run
    exact contents_of_put_eq_ok rfl
  refine ⟨finish, [_, _], _, run, ?_⟩
  refine (fun hmarks => ?_) (@verification_marks_the_user _ _ _ _ _ [_, _] _ (blank_opened memory)
    run ?_).1
  · rcases hmarks _ _ (@contents_of_put_eq_ok _ _ _ memory _ _ rfl) rfl hfinish rfl with
      ⟨hmove, -⟩ | ⟨-, hmarked⟩
    · cases hmove
    · exact hmarked
  · intro other hother
    simp only [List.cons_append, List.nil_append, List.mem_cons, List.not_mem_nil,
      or_false] at hother
    rcases hother with rfl | rfl | rfl <;> trivial

/-- A wait that is begun with the record of the last user marks the user who is signed in by now,
for whom the service was never asked. -/
theorem verification_is_credited_to_another :
    ∃ finish past, ∃ made : Made (Activity (BlobCredentials MemoryBlobs)) (Move _) Reply,
      Run step? (blank memory) (past ++ [made]) finish ∧
        contents made.before.session.store = some (.ok { sessionToken := some "second" }) ∧
        contents finish.session.store =
          some (.ok { sessionToken := some "second", isVerified := true }) ∧
        ¬ Vouched (past ++ [made]) finish.session.epoch { sessionToken := some "second" } ∧
        Began (past ++ [made]) 0 2 (.beginVerification 0 { sessionToken := some "first" }) ∧
        (0, .ok (.record { sessionToken := some "second", isVerified := true })) ∈
          returnedOf made.step.effects := by
  obtain ⟨finish, run⟩ := run_played step? (blank memory) [
    .signIn { sessionToken := some "first" },
    .signIn { sessionToken := some "second" },
    .beginVerification 0 { sessionToken := some "first" },
    .answerStatus 0 (.ok true)]
  refine ⟨finish, [_, _, _], _, run, contents_of_put_eq_ok rfl, ?_, ?_, ?_, ?_⟩
  · obtain ⟨-, -, -, -, -, -, -, -, rfl⟩ := run
    exact contents_of_put_eq_ok rfl
  · rintro ⟨call, hconcerns, hgranted⟩
    obtain ⟨asked, hmade, hcalls⟩ := hgranted.asked
    simp only [List.cons_append, List.nil_append, List.mem_cons, List.not_mem_nil,
      or_false] at hmade
    rcases hmade with rfl | rfl | rfl | rfl
    · cases hcalls
    · cases hcalls
    · cases hcalls
      cases hconcerns with
      | status htoken => exact absurd htoken (by decide)
    · cases hcalls
  · refine ⟨_, ⟨[_, _], [_], rfl, rfl, fun other hother => ?_⟩, rfl, rfl⟩
    obtain rfl := List.mem_singleton.1 hother
    exact fun hbegins => hbegins
  · exact List.mem_singleton_self _

end Activity

end AccountManager.Session
