import AccountManager.Proofs.Accounts.Epochs
import AccountManager.Proofs.Session.Provenance

/-!
# The session of an account manager

Seen from its session, a run of an account manager is a run of a session: signing in and out and the
calls of the session are moves of it, a call for an assertion looks at the user, and nothing else
touches it. What holds in every run of a session therefore holds of the session of an account
manager, with the moves of the latter in place of those of the former.
-/

namespace AccountManager.Accounts

open Storage

variable {σ : Type} [CredentialStore σ]

def Move.onSession? : Move σ → Option (Session.Move σ)
  | .session move => some move
  | .beginAssertion _ _ => some .look
  | .setClock _ | .answerCertificate _ _ | .resume _ | .drop _ => none

/-- Whether a move of the session is what a move of the account manager did to it. -/
structure SessionPart (made : Made (Activity σ) (Move σ) Session.Reply)
    (part : Made (Session.Activity σ) (Session.Move σ) Session.Reply) : Prop where
  move : made.move.onSession? = some part.move
  after : part.after = made.after.accounts.activity
  result : made.move = .session part.move → part.step.result = made.step.result

/-- Whether the moves of a session are what those of an account manager did to it. -/
structure SessionParts (history : History σ) (parts : Session.History σ) : Prop where
  whole : ∀ part ∈ parts, ∃ made ∈ history, SessionPart made part
  part : ∀ made ∈ history, ∀ move, made.move = .session move → ∃ part ∈ parts,
    part.move = move ∧ SessionPart made part

/-- Whether a record is the one that was signed in to begin an epoch or, in the first one, the one
that the store held from the start. -/
def UserOf [LawfulStore σ] (start : Activity σ) (history : History σ) (epoch : Nat)
    (record : CredentialRecord) : Prop :=
  (epoch = 0 ∧ contents start.session.store = some (.ok record)) ∨
    ∃ made ∈ history, made.move = .session (.signIn record) ∧
      made.step.result = .stored (.ok ()) ∧ made.after.session.epoch = epoch

variable {activity start finish : Activity σ} {move : Move σ} {history : History σ}
  {parts : Session.History σ} {made : Made (Activity σ) (Move σ) Session.Reply}
  {step : Step (Activity σ) Session.Reply}

omit [CredentialStore σ] in
theorem Move.of_onSession? {part : Session.Move σ} (h : move.onSession? = some part) :
    move = .session part ∨ part = .look := by
  cases move with
  | session => exact .inl (congrArg Move.session (Option.some.inj h))
  | beginAssertion => exact .inr (Option.some.inj h).symm
  | setClock | answerCertificate | resume | drop => cases h

theorem SessionPart.keepsContents [LawfulStore σ]
    {part : Made (Session.Activity σ) (Session.Move σ) Session.Reply} (h : SessionPart made part)
    (hquiet : made.move.KeepsContents) : part.move.KeepsContents := by
  rcases Move.of_onSession? h.move with hmove | hmove
  · rw [hmove] at hquiet
    exact hquiet
  · rw [hmove]
    trivial

omit [CredentialStore σ] in
theorem SessionParts.concat_idle (h : SessionParts history parts)
    (hidle : made.move.onSession? = none) : SessionParts (history ++ [made]) parts where
  whole part hpart := by
    obtain ⟨other, hother, hwhole⟩ := h.whole part hpart
    exact ⟨other, List.mem_append_left _ hother, hwhole⟩
  part other hother move hmove := by
    rcases List.mem_append.1 hother with hother | hother
    · exact h.part other hother move hmove
    · obtain rfl := List.mem_singleton.1 hother
      rw [hmove] at hidle
      cases hidle

omit [CredentialStore σ] in
theorem SessionParts.concat {part : Made (Session.Activity σ) (Session.Move σ) Session.Reply}
    (h : SessionParts history parts) (hmade : SessionPart made part) :
    SessionParts (history ++ [made]) (parts ++ [part]) where
  whole other hother := by
    rcases List.mem_append.1 hother with hother | hother
    · obtain ⟨earlier, hearlier, hwhole⟩ := h.whole other hother
      exact ⟨earlier, List.mem_append_left _ hearlier, hwhole⟩
    · obtain rfl := List.mem_singleton.1 hother
      exact ⟨made, List.mem_append_right _ (List.mem_singleton_self made), hmade⟩
  part other hother move hmove := by
    rcases List.mem_append.1 hother with hother | hother
    · obtain ⟨earlier, hearlier, hpart⟩ := h.part other hother move hmove
      exact ⟨earlier, List.mem_append_left _ hearlier, hpart⟩
    · obtain rfl := List.mem_singleton.1 hother
      have hsame := hmade.move
      rw [hmove] at hsame
      exact ⟨part, List.mem_append_right _ (List.mem_singleton_self part),
        (Option.some.inj hsame).symm, hmade⟩

theorem SessionParts.userOf_iff [LawfulStore σ] (h : SessionParts history parts) {epoch : Nat}
    {record : CredentialRecord} :
    UserOf start history epoch record ↔
      Session.UserOf start.accounts.activity parts epoch record := by
  refine or_congr_right ⟨?_, ?_⟩
  · rintro ⟨made, hmade, hmove, hresult, hepoch⟩
    obtain ⟨part, hpart, hsame, hmadePart⟩ := h.part made hmade _ hmove
    refine ⟨part, hpart, hsame, ?_, ?_⟩
    · rw [hmadePart.result (hmove.trans (congrArg Move.session hsame.symm)), hresult]
    · rw [hmadePart.after]
      exact hepoch
  · rintro ⟨part, hpart, hmove, hresult, hepoch⟩
    obtain ⟨made, hmade, hmadePart⟩ := h.whole part hpart
    rcases Move.of_onSession? hmadePart.move with hsession | hlook
    · refine ⟨made, hmade, by rw [hsession, hmove], ?_, ?_⟩
      · rw [← hmadePart.result hsession, hresult]
      · rw [← hepoch, hmadePart.after]
        rfl
    · cases hmove.symm.trans hlook

namespace Activity

/-- A move makes one move of the session, or it leaves the session alone. -/
theorem session_of_step? (hsettled : activity.provisioner.generation = activity.session.epoch)
    (hstep : activity.step? move = some step) :
    move.onSession? = none ∧ step.state.accounts.activity = activity.accounts.activity ∨
      ∃ part inner, move.onSession? = some part ∧
        activity.accounts.activity.step? part = some inner ∧
        inner.state = step.state.accounts.activity ∧
        (move = .session part → inner.result = step.result) := by
  cases allows_of_step? hsettled hstep with
  | session hfree hinner hepoch => exact .inr ⟨_, _, rfl, hinner, rfl, fun _ => rfl⟩
  | newEpoch hinner hepoch hextra => exact .inr ⟨_, _, rfl, hinner, rfl, fun _ => rfl⟩
  | setClock | answerCertificate | resume | drop => exact .inl ⟨rfl, rfl⟩
  | beginAssertion hnew hfree hbegins =>
    right
    refine ⟨.look, _, rfl, rfl, ?_, fun hmove => by cases hmove⟩
    cases hbegins <;> rfl

/-- Seen from its session, a run of an account manager is a run of a session. -/
theorem session_of_run (hopened : start.Opened) (run : Run step? start history finish) :
    ∃ parts, Run Session.Activity.step? start.accounts.activity parts finish.accounts.activity ∧
      SessionParts history parts := by
  induction history using List.reverseRecOn generalizing finish with
  | nil =>
    obtain rfl : start = finish := run
    exact ⟨[], rfl, fun part hpart => (by cases hpart), fun made hmade => (by cases hmade)⟩
  | append_singleton past made ih =>
    obtain ⟨hpast, hstep, rfl⟩ := run_concat.1 run
    obtain ⟨parts, hparts, hrelated⟩ := ih hpast
    rcases session_of_step? (orderly_of_run hopened hpast).settled hstep with
      ⟨hidle, hsame⟩ | ⟨part, inner, hpart, hinner, hstate, hresult⟩
    · refine ⟨parts, ?_, hrelated.concat_idle hidle⟩
      rw [show made.after.accounts.activity = _ from hsame]
      exact hparts
    · have hmade : SessionPart made ⟨made.before.accounts.activity, part, inner⟩ :=
        ⟨hpart, hstate, hresult⟩
      exact ⟨_, run_concat.2 ⟨hparts, hinner, hmade.after⟩, hrelated.concat hmade⟩

omit [CredentialStore σ] in
theorem Opened.session (hopened : start.Opened) : start.accounts.activity.Opened := by
  obtain ⟨config, seeds, clock, store, rfl⟩ := hopened.eq
  exact ⟨store, _, rfl⟩

theorem belongs_of_run [LawfulStore σ] (hopened : start.Opened)
    (run : Run step? start history finish) (hquiet : ∀ made ∈ history, made.move.KeepsContents) :
    finish.accounts.activity.Belongs (UserOf start history) := by
  obtain ⟨parts, hparts, hrelated⟩ := session_of_run hopened run
  refine (Session.Activity.belongs_of_run hopened.session hparts fun part hpart => ?_).mono
    fun epoch user huser => hrelated.userOf_iff.2 huser
  obtain ⟨made, hmade, hmadePart⟩ := hrelated.whole part hpart
  exact hmadePart.keepsContents (hquiet made hmade)

end Activity

end AccountManager.Accounts
