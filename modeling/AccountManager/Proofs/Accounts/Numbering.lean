import AccountManager.Proofs.Accounts.Sharing

/-!
# The numbers of keys and requests

Keys and requests for certificates are numbered together. The last number is all that the
provisioner remembers of the epochs that have passed, and the certificate and the request at hand
know their key by its number alone: that each of them is given once is what keeps a certificate
from being taken for that of another key.
-/

namespace AccountManager.Accounts

open Storage

variable {σ : Type}

/-! ### What a move makes -/

/-- What is there now and was not there before. -/
def arrived? {α : Type} [DecidableEq α] (before after : Option α) : Option α :=
  after.filter fun value => before ≠ some value

section Arrived

variable {α : Type} [DecidableEq α] {before after : Option α}

theorem numbers_of_kept (number : α → Nat)
    (hkept : ∀ value, after = some value → before = some value) :
    (arrived? before after).toList.map number = [] := by
  cases after with
  | none => rfl
  | some value => simp [arrived?, hkept value rfl]

theorem held_or_arrived {value : α} (hafter : after = some value) :
    before = some value ∨ arrived? before after = some value := by
  by_cases hbefore : before = some value
  · exact .inl hbefore
  · exact .inr (by simp [arrived?, hafter, hbefore])

theorem numbers_of_new {value : α} (number : α → Nat) (hnew : before ≠ some value) :
    (arrived? before (some value)).toList.map number = [number value] := by
  simp [arrived?, hnew]

end Arrived

def newKey? (made : Made (Activity σ) (Move σ) Session.Reply) : Option EphemeralKey :=
  arrived? made.before.provisioner.key made.after.provisioner.key

def newRequest? (made : Made (Activity σ) (Move σ) Session.Reply) : Option InFlight :=
  arrived? made.before.provisioner.inFlight made.after.provisioner.inFlight

def keysMade (history : History σ) : List EphemeralKey := history.filterMap newKey?

def requestsMade (history : History σ) : List InFlight := history.filterMap newRequest?

/-- The numbers that were given to keys and to requests. -/
def numbersGiven (history : History σ) : List Nat :=
  (keysMade history).map EphemeralKey.id ++ (requestsMade history).map InFlight.requestId

/-- The keys that the service is asked to certify. -/
def certificatesAsked (effects : List Effect) : List PublicKey :=
  (callsOf effects).filterMap fun call =>
    match call with
    | .signCertificate _ key => some key
    | _ => none

/-- How many keys and requests a move makes, and which numbers they get. -/
structure Draws (made : Made (Activity σ) (Move σ) Session.Reply) (keys requests : Nat) :
    Prop where
  keyIds : (newKey? made).toList.map EphemeralKey.id =
    List.range' (made.before.provisioner.lastId + 1) keys
  requestIds : (newRequest? made).toList.map InFlight.requestId =
    List.range' (made.before.provisioner.lastId + 1 + keys) requests
  lastId : made.after.provisioner.lastId = made.before.provisioner.lastId + keys + requests
  generated : made.after.provisioner.generated = made.before.provisioner.generated + keys
  asked : (certificatesAsked made.step.effects).length = requests

namespace Activity

variable {activity start finish : Activity σ} {move : Move σ} {history : History σ}
  {step : Step (Activity σ) Session.Reply} {made : Made (Activity σ) (Move σ) Session.Reply}

theorem draws_nothing
    (hkey : ∀ key, made.after.provisioner.key = some key →
      made.before.provisioner.key = some key)
    (hrequest : ∀ request, made.after.provisioner.inFlight = some request →
      made.before.provisioner.inFlight = some request)
    (hlastId : made.after.provisioner.lastId = made.before.provisioner.lastId)
    (hgenerated : made.after.provisioner.generated = made.before.provisioner.generated)
    (hasked : certificatesAsked made.step.effects = []) : Draws made 0 0 where
  keyIds := numbers_of_kept _ hkey
  requestIds := numbers_of_kept _ hrequest
  lastId := hlastId
  generated := hgenerated
  asked := by rw [hasked]; rfl

theorem keyIds_of_getsKey {provisioner : Provisioner} {setting : Provisioner.Setting}
    {fresh : Step Provisioner EphemeralKey} (hgets : provisioner.GetsKey setting fresh)
    (hkeyed : ∀ key, provisioner.key = some key → key.id ≤ provisioner.lastId) :
    ∃ keys, (arrived? provisioner.key fresh.state.key).toList.map EphemeralKey.id =
        List.range' (provisioner.lastId + 1) keys ∧
      fresh.state.lastId = provisioner.lastId + keys ∧
        fresh.state.generated = provisioner.generated + keys := by
  cases hgets with
  | kept hkey hvalid =>
    exact ⟨0, numbers_of_kept _ fun _ hheld => hheld, rfl, rfl⟩
  | made hexpired hlogs =>
    have hnew : provisioner.key ≠ some (provisioner.newKey setting) := fun hheld =>
      Nat.not_succ_le_self _ (hkeyed _ hheld)
    exact ⟨1, numbers_of_new _ hnew, rfl, rfl⟩

variable [CredentialStore σ]

theorem draws_of_beginsAssertion {id : CallId} {audience : String} (horderly : activity.Orderly)
    (hcoherent : activity.Coherent) (hbegins : activity.BeginsAssertion id audience step) :
    ∃ keys requests, Draws ⟨activity, .beginAssertion id audience, step⟩ keys requests := by
  have hlooks := activity.session.snapshot_onlyLogs.2.1
  cases hbegins with
  | refused =>
    exact ⟨0, 0, draws_nothing (fun _ hkey => hkey) (fun _ hrequest => hrequest) rfl rfl
      (by simp [certificatesAsked, hlooks])⟩
  | ready hlooked hgets hcertificate hkey hvalid hlogs
  | joined hlooked hgets hrequest hkey hlogs =>
    obtain ⟨keys, hkeyIds, hlastId, hgenerated⟩ := keyIds_of_getsKey hgets hcoherent.keyed
    exact ⟨keys, 0, hkeyIds, numbers_of_kept _ fun _ => hgets.inFlight, hlastId, hgenerated,
      by simp [certificatesAsked, hlogs.2.1]⟩
  | @requested user token fresh effects hlooked htoken hgets hlogs =>
    obtain ⟨keys, hkeyIds, hlastId, hgenerated⟩ := keyIds_of_getsKey hgets hcoherent.keyed
    have hnew : activity.provisioner.inFlight ≠
        some ⟨fresh.result.id, fresh.state.lastId + 1⟩ := fun hheld =>
      Nat.not_succ_le_self _ (Nat.le_trans (horderly.outstanding _ hheld) hgets.lastId_le)
    have hnumber : fresh.state.lastId + 1 = activity.provisioner.lastId + 1 + keys := by omega
    exact ⟨keys, 1, hkeyIds, (numbers_of_new _ hnew).trans (congrArg (fun id => [id]) hnumber),
      congrArg Nat.succ hlastId, hgenerated, by simp [certificatesAsked, hlogs.2.1]⟩

theorem certificatesAsked_of_lastId (horderly : activity.Orderly)
    (hstep : activity.step? move = some step)
    (hsame : step.state.provisioner.lastId = activity.provisioner.lastId) :
    certificatesAsked step.effects = [] := by
  rw [certificatesAsked, List.filterMap_eq_nil_iff]
  intro call hcall
  cases call with
  | fetchKeys | checkStatus => rfl
  | signCertificate token key =>
    obtain ⟨fresh, hrequesting, -⟩ := requesting_of_call horderly hstep hcall
    have hlater := hrequesting.gets.lastId_le
    rw [← hsame, hrequesting.state] at hlater
    exact absurd hlater (Nat.not_succ_le_self _)

/-- Every move gives the numbers that come next to what it makes, and no others. -/
theorem draws_of_step? (horderly : activity.Orderly) (hcoherent : activity.Coherent)
    (hstep : activity.step? move = some step) :
    ∃ keys requests, Draws ⟨activity, move, step⟩ keys requests := by
  have hasked := certificatesAsked_of_lastId horderly hstep
  cases allows_of_step? horderly.settled hstep with
  | session | setClock | answerCertificate | drop =>
    exact ⟨0, 0, draws_nothing (fun _ hkey => hkey) (fun _ hrequest => hrequest) rfl rfl
      (hasked rfl)⟩
  | newEpoch =>
    exact ⟨0, 0, draws_nothing (fun _ hkey => by cases hkey) (fun _ hrequest => by cases hrequest)
      rfl rfl (hasked rfl)⟩
  | beginAssertion hnew hfree hbegins => exact draws_of_beginsAssertion horderly hcoherent hbegins
  | @resume id wait answer hwait hanswer =>
    obtain ⟨certificate, hfinished⟩ := activity.provisioner.finish_state activity.accounts.setting
      activity.session.epoch wait.generation wait.key wait.requestId answer
    have hafter : (activity.resume id wait answer).state.provisioner =
        { activity.provisioner.withoutRequest wait.requestId with certificate } := hfinished
    have hlastId : (activity.resume id wait answer).state.provisioner.lastId =
        activity.provisioner.lastId := by
      rw [hafter]
      exact Provisioner.lastId_withoutRequest _ _
    refine ⟨0, 0, draws_nothing (fun key hkey => ?_) (fun request hrequest => ?_) hlastId ?_
      (hasked hlastId)⟩
    · rw [Made.after, hafter] at hkey
      exact (Provisioner.key_withoutRequest _ _).symm.trans hkey
    · rw [Made.after, hafter] at hrequest
      exact Provisioner.inFlight_of_withoutRequest hrequest
    · rw [Made.after, hafter]
      exact Provisioner.generated_withoutRequest _ _

/-! ### What a run makes -/

/-- The numbers up to the last one were given, each to one key or to one request, and whatever was
generated, asked for or is at hand is among what they were given to. -/
structure Tallied (history : History σ) (provisioner : Provisioner) : Prop where
  numbers : (numbersGiven history).Perm (List.range' 1 provisioner.lastId)
  generated : (keysMade history).length = provisioner.generated
  asked : (requestsMade history).length =
    (history.flatMap fun made => certificatesAsked made.step.effects).length
  key : ∀ key, provisioner.key = some key → key ∈ keysMade history
  inFlight : ∀ request, provisioner.inFlight = some request → request ∈ requestsMade history

omit [CredentialStore σ] in
theorem filterMap_concat {β : Type}
    (find? : Made (Activity σ) (Move σ) Session.Reply → Option β) :
    (history ++ [made]).filterMap find? = history.filterMap find? ++ (find? made).toList := by
  rw [List.filterMap_append, List.filterMap_cons, List.filterMap_nil]
  cases find? made <;> rfl

omit [CredentialStore σ] in
theorem keysMade_concat :
    keysMade (history ++ [made]) = keysMade history ++ (newKey? made).toList :=
  filterMap_concat newKey?

omit [CredentialStore σ] in
theorem requestsMade_concat :
    requestsMade (history ++ [made]) = requestsMade history ++ (newRequest? made).toList :=
  filterMap_concat newRequest?

omit [CredentialStore σ] in
/-- The numbers that a move gives come next after those that were given before. -/
theorem range'_of_draws {keys requests : Nat} (hdraws : Draws made keys requests) :
    List.range' 1 made.after.provisioner.lastId =
      List.range' 1 made.before.provisioner.lastId ++
        ((newKey? made).toList.map EphemeralKey.id ++
          (newRequest? made).toList.map InFlight.requestId) := by
  rw [hdraws.keyIds, hdraws.requestIds, hdraws.lastId, List.range'_append_1, Nat.add_comm _ 1,
    Nat.add_assoc, List.range'_append_1]

omit [CredentialStore σ] in
theorem Tallied.concat {keys requests : Nat}
    (h : Tallied history made.before.provisioner) (hdraws : Draws made keys requests) :
    Tallied (history ++ [made]) made.after.provisioner := by
  have hkeys : (newKey? made).toList.length = keys := by
    simpa using congrArg List.length hdraws.keyIds
  have hrequests : (newRequest? made).toList.length = requests := by
    simpa using congrArg List.length hdraws.requestIds
  refine ⟨?_, ?_, ?_, fun key hkey => ?_, fun request hrequest => ?_⟩
  · -- The numbers of new keys move in front of those of older requests.
    rw [range'_of_draws hdraws, numbersGiven, keysMade_concat, requestsMade_concat,
      List.map_append, List.map_append, List.append_assoc]
    refine ((List.perm_append_comm_assoc _ _ _).append_left _).trans ?_
    rw [← List.append_assoc]
    exact h.numbers.append_right _
  · rw [keysMade_concat, List.length_append, hkeys, hdraws.generated, h.generated]
  · rw [requestsMade_concat, List.length_append, hrequests, List.flatMap_append,
      List.length_append, h.asked]
    simp [hdraws.asked]
  · rw [keysMade_concat, List.mem_append, Option.mem_toList]
    exact (held_or_arrived hkey).imp (h.key key) id
  · rw [requestsMade_concat, List.mem_append, Option.mem_toList]
    exact (held_or_arrived hrequest).imp (h.inFlight request) id

theorem tallied_of_run (hopened : start.Opened) (run : Run step? start history finish) :
    Tallied history finish.provisioner := by
  refine run.induction (P := fun past activity => Tallied past activity.provisioner) ?_
    fun past made hpast hstep hbefore => ?_
  · obtain ⟨config, seeds, clock, store, rfl⟩ := hopened.eq
    exact ⟨.refl _, rfl, rfl, fun key hkey => (by cases hkey),
      fun request hrequest => (by cases hrequest)⟩
  · obtain ⟨keys, requests, hdraws⟩ :=
      draws_of_step? (orderly_of_run hopened hpast) (coherent_of_run hopened hpast) hstep
    exact hbefore.concat hdraws

/-! ### What the ends tell -/

omit [CredentialStore σ] in
theorem state_eq_absent_iff (accounts : Accounts σ) :
    accounts.state = .absent ↔
      accounts.keyValidUntil = none ∨
        ∃ ends, accounts.keyValidUntil = some ends ∧ ends ≤ accounts.clock := by
  have hexpired : accounts.state = .absent ↔
      accounts.provisioner.validKey? accounts.clock = none := by
    refine ⟨fun habsent => ?_, Provisioner.state_of_no_key⟩
    have hreports := accounts.provisioner.reports_state accounts.clock
    unfold Accounts.state at habsent
    rw [habsent] at hreports
    cases hreports with
    | absent hnone => exact hnone
  rw [hexpired, keyValidUntil, Provisioner.validKey?]
  cases accounts.provisioner.key <;> simp

omit [CredentialStore σ] in
/-- The certificate at hand is that of the key at hand, so its own end tells whether there is one to
use. -/
theorem state_eq_provisioned_iff {accounts : Accounts σ} (hmatched : accounts.provisioner.Matched)
    (hpresent : accounts.state ≠ .absent) :
    accounts.state = .provisioned ↔
      ∃ ends, accounts.certificateValidUntil = some ends ∧ accounts.clock < ends := by
  have hreports := accounts.provisioner.reports_state accounts.clock
  change accounts.provisioner.Reports accounts.clock accounts.state at hreports
  generalize accounts.state = state at hreports hpresent
  unfold certificateValidUntil
  cases hreports with
  | absent => exact absurd rfl hpresent
  | @keyOnly key hkey hnone =>
    refine ⟨fun hstate => (by cases hstate), fun ⟨ends, hends, hvalid⟩ => ?_⟩
    obtain ⟨certificate, hcertificate, rfl⟩ := Option.map_eq_some_iff.1 hends
    have hown := hmatched.certificate certificate hcertificate
    rw [(Provisioner.validKey?_eq_some_iff.1 hkey).1] at hown
    cases hnone.symm.trans (Provisioner.validCertificate?_eq_some_iff.2
      ⟨hcertificate, (Option.some.inj hown).symm, hvalid⟩)
  | @provisioned key certificate hkey hfound =>
    obtain ⟨hcertificate, -, hvalid⟩ := Provisioner.validCertificate?_eq_some_iff.1 hfound
    exact ⟨fun _ => ⟨_, Option.map_eq_some_iff.2 ⟨certificate, hcertificate, rfl⟩, hvalid⟩,
      fun _ => rfl⟩

/-- What the provisioner holds fits together in every state that can be reached: it belongs to the
epoch of the session, the certificate and the request are those of the key, and no number was given
twice, whatever was dropped since. So the ends of the key and of the certificate tell the state. -/
theorem provisioner_is_consistent (hopened : start.Opened)
    (run : Run step? start history finish) :
    finish.provisioner.generation = finish.session.epoch ∧
      finish.provisioner.Matched ∧
      Tallied history finish.provisioner ∧
      (numbersGiven history).Nodup ∧
      (∀ number ∈ numbersGiven history, number ≤ finish.provisioner.lastId) ∧
      (∀ made ∈ history, made.before.provisioner.lastId ≤ made.after.provisioner.lastId) ∧
      (finish.accounts.state = .absent ↔
        finish.accounts.keyValidUntil = none ∨
          ∃ ends, finish.accounts.keyValidUntil = some ends ∧ ends ≤ finish.accounts.clock) ∧
      (finish.accounts.state ≠ .absent →
        (finish.accounts.state = .provisioned ↔
          ∃ ends, finish.accounts.certificateValidUntil = some ends ∧
            finish.accounts.clock < ends)) := by
  have htallied := tallied_of_run hopened run
  refine ⟨(orderly_of_run hopened run).settled, matched_of_run hopened run, htallied,
    htallied.numbers.nodup_iff.2 List.nodup_range', fun number hnumber => ?_, fun made hmade => ?_,
    state_eq_absent_iff _, state_eq_provisioned_iff (matched_of_run hopened run)⟩
  · have hgiven := List.mem_range'_1.1 (htallied.numbers.mem_iff.1 hnumber)
    omega
  · exact (advances_of_mem hopened run hmade).2.lastId

/-- A user signs out while a request is outstanding, and another one signs in whose key expires: the
numbers go on, and the late answer to the first request is not taken for that to another one. -/
theorem numbers_go_on :
    ∃ finish history,
      Run step? (blank memory) history finish ∧
        (keysMade history).map EphemeralKey.id = [1, 3, 5] ∧
        (requestsMade history).map InFlight.requestId = [2, 4, 6] ∧
        finish.accounts.clock = 0 ∧ finish.accounts.state = .provisioned ∧
        finish.provisioner.generation = finish.session.epoch ∧ finish.provisioner.Matched ∧
        Tallied history finish.provisioner ∧ (numbersGiven history).Nodup ∧
        ∃ ends, finish.accounts.certificateValidUntil = some ends ∧
          finish.accounts.clock < ends := by
  obtain ⟨finish, run⟩ := run_played step? (blank memory) [
    .session (.signIn { sessionToken := some "first", isVerified := true }),
    .beginAssertion 0 "https://example.com",
    .session .signOut,
    .session (.signIn { sessionToken := some "second", isVerified := true }),
    .beginAssertion 1 "https://example.com",
    .answerCertificate 2 (.ok "late"),
    .resume 0,
    .answerCertificate 4 (.ok "certificate"),
    .resume 1,
    .setClock 43200000,
    .beginAssertion 2 "https://example.com",
    .beginAssertion 3 "https://example.org",
    .drop 2,
    .answerCertificate 6 (.ok "other"),
    .resume 3,
    .setClock 0]
  obtain ⟨hsettled, hmatched, htallied, hnodup, -, -, -, hprovisioned⟩ :=
    provisioner_is_consistent (blank_opened memory) run
  have hstate : finish.accounts.state = .provisioned := by
    rw [← run.last]
    rfl
  exact ⟨finish, _, run, rfl, rfl, run.last ▸ rfl, hstate, hsettled, hmatched, htallied, hnodup,
    (hprovisioned (by rw [hstate]; decide)).1 hstate⟩

end Activity

end AccountManager.Accounts
