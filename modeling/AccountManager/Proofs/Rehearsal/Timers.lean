import AccountManager.Rehearsal.Stage
import AccountManager.Proofs.Accounts.SessionPart
import AccountManager.Proofs.Session.Polling
import Mathlib.Logic.Relation

/-!
# Timers

In a play every call that sleeps has one timer, set when it went to sleep, and no other call has
any. Whatever happens meanwhile, the call can go on from the moment on for which the timer was set,
and not before.
-/

namespace AccountManager

open Relation Storage

variable {σ : Type} [CredentialStore σ]

namespace Accounts.Activity

variable {activity : Activity σ} {move : Session.Move σ} {step : Step (Activity σ) Session.Reply}

theorem activity_of_moveSession? (hstep : activity.moveSession? move = some step) :
    ∃ inner, activity.accounts.activity.step? move = some inner ∧
      step.state.accounts.activity = inner.state := by
  unfold moveSession? at hstep
  cases hinner : activity.accounts.activity.step? move with
  | none =>
    rw [hinner] at hstep
    cases hstep
  | some inner =>
    rw [hinner] at hstep
    dsimp only at hstep
    refine ⟨inner, rfl, ?_⟩
    split at hstep <;> cases hstep <;> rfl

theorem moveSession?_of_step? (hstep : activity.step? (.session move) = some step) :
    activity.moveSession? move = some step := by
  cases move with
  | beginKeys | beginVerification =>
    simp only [step?] at hstep
    split at hstep
    · cases hstep
    · exact hstep
  | _ => exact hstep

theorem activity_beginAssertion (activity : Activity σ) (id : CallId) (audience : String) :
    (activity.beginAssertion id audience).state.accounts.activity =
      { activity.accounts.activity with session := activity.session.snapshot.state } := by
  unfold beginAssertion
  dsimp only
  repeat' split
  all_goals rfl

end Accounts.Activity

namespace Rehearsal

/-! ### Who plays -/

namespace Subject

variable {subject : Subject σ} {move : Accounts.Move σ} {step : Step (Subject σ) Session.Reply}
  {id : CallId}

/-- A move makes one move of the session, or it leaves the session alone. -/
theorem activity_of_step? (hstep : subject.step? move = some step) :
    (∃ part inner, move.onSession? = some part ∧ subject.activity.step? part = some inner ∧
      step.state.activity = inner.state) ∨
    move.onSession? = none ∧ step.state.activity = subject.activity := by
  cases subject with
  | session activity =>
    cases move with
    | session move =>
      obtain ⟨inner, hinner, rfl⟩ := Option.map_eq_some_iff.1 hstep
      exact .inl ⟨move, inner, rfl, hinner, rfl⟩
    | _ => cases hstep
  | accounts activity =>
    obtain ⟨inner, hinner, rfl⟩ := Option.map_eq_some_iff.1 hstep
    cases move with
    | session move =>
      obtain ⟨part, hpart, hstate⟩ := Accounts.Activity.activity_of_moveSession?
        (Accounts.Activity.moveSession?_of_step? hinner)
      exact .inl ⟨move, part, rfl, hpart, hstate⟩
    | setClock now =>
      cases hinner
      exact .inr ⟨rfl, rfl⟩
    | beginAssertion id audience =>
      simp only [Accounts.Activity.step?] at hinner
      split at hinner <;> cases hinner
      exact .inl ⟨.look, _, rfl, rfl, activity.activity_beginAssertion id audience⟩
    | answerCertificate | resume | drop =>
      simp only [Accounts.Activity.step?] at hinner
      repeat' split at hinner
      all_goals first
        | cases hinner; done
        | cases hinner; exact .inr ⟨rfl, rfl⟩

/-- A call that goes to sleep was told that the address is not verified; any other call that sleeps
after a move slept before, and the move is not its own. -/
theorem denied_or_slept {poll : Session.Poll} (hstep : subject.step? move = some step)
    (hafter : step.state.activity.waiting? id = some (.timer poll)) :
    move = .session (.answerStatus id (.ok false)) ∨
      subject.activity.waiting? id = some (.timer poll) ∧
        ∀ part, move.onSession? = some part → part.caller? ≠ some id := by
  rcases activity_of_step? hstep with ⟨part, inner, hpart, hinner, hstate⟩ | ⟨hnone, hstate⟩
  · rw [hstate] at hafter
    by_cases hcaller : part.caller? = some id
    · left
      have hdenied := Session.Activity.denied_of_timer hinner hcaller hafter
      rcases Accounts.Move.of_onSession? hpart with rfl | rfl
      · rw [hdenied]
      · cases hcaller
    · refine .inr ⟨?_, fun other hother => ?_⟩
      · rwa [Session.Activity.waiting?_of_not_caller hinner hcaller] at hafter
      · rwa [← Option.some.inj (hpart.symm.trans hother)]
  · refine .inr ⟨hstate ▸ hafter, fun part hpart => ?_⟩
    cases hnone.symm.trans hpart

theorem waiting?_of_not_caller (hstep : subject.step? move = some step)
    (hcaller : move.caller? ≠ some id) :
    step.state.activity.waiting? id = subject.activity.waiting? id := by
  rcases activity_of_step? hstep with ⟨part, inner, hpart, hinner, hstate⟩ | ⟨-, hstate⟩
  · rw [hstate]
    refine Session.Activity.waiting?_of_not_caller hinner ?_
    rcases Accounts.Move.of_onSession? hpart with rfl | rfl
    · exact hcaller
    · nofun
  · rw [hstate]

theorem polling_of_step? (hstep : subject.step? move = some step) :
    step.state.activity.polling = subject.activity.polling := by
  rcases activity_of_step? hstep with ⟨part, inner, -, hinner, hstate⟩ | ⟨-, hstate⟩
  · rw [hstate]
    exact Session.Activity.polling_of_step? hinner
  · rw [hstate]

theorem step?_of_session {part : Session.Move σ}
    (hpart : (subject.activity.step? part).isSome) (hbegins : ∀ id, ¬ part.Begins id) :
    ∃ step, subject.step? (.session part) = some step := by
  obtain ⟨inner, hinner⟩ := Option.isSome_iff_exists.1 hpart
  cases subject with
  | session activity => exact ⟨_, Option.map_eq_some_iff.2 ⟨inner, hinner, rfl⟩⟩
  | accounts activity =>
    have hmove : activity.step? (.session part) = activity.moveSession? part := by
      cases part with
      | beginKeys id | beginVerification id => exact absurd rfl (hbegins id)
      | _ => rfl
    have hmoves : (activity.moveSession? part).isSome := by
      unfold Accounts.Activity.moveSession?
      rw [show activity.accounts.activity.step? part = some inner from hinner]
      dsimp only
      split <;> rfl
    obtain ⟨step, hstep⟩ := Option.isSome_iff_exists.1 hmoves
    exact ⟨_, Option.map_eq_some_iff.2 ⟨step, hmove.trans hstep, rfl⟩⟩

end Subject

/-! ### What a move does to the timers -/

namespace Stage

variable {stage next later : Stage σ} {move : Accounts.Move σ}
  {step : Step (Subject σ) Session.Reply} {id other : CallId}

def Sleeps (stage : Stage σ) (id : CallId) : Prop :=
  ∃ poll, stage.subject.activity.waiting? id = some (.timer poll)

/-- The times for which a call has a timer set. -/
def dues (stage : Stage σ) (id : CallId) : List Nat :=
  (stage.timers.filter fun timer => timer.1 = id).map Prod.snd

def interval (stage : Stage σ) : Nat := stage.subject.activity.polling.interval.nanoseconds

/-- Whether a call has a timer if it sleeps, and none otherwise. -/
inductive Timed (stage : Stage σ) (id : CallId) : Prop
  | asleep {due : Nat} (hsleeps : stage.Sleeps id) (hdues : stage.dues id = [due]) : Timed stage id
  | awake (hawake : ¬ stage.Sleeps id) (hdues : stage.dues id = []) : Timed stage id

/-- Whether two stages differ in nothing that has to do with who plays and when. -/
structure Keeps (stage next : Stage σ) : Prop where
  subject : next.subject = stage.subject
  time : next.time = stage.time
  timers : next.timers = stage.timers

omit [CredentialStore σ] in
theorem Keeps.dues (h : Keeps stage next) (id : CallId) : next.dues id = stage.dues id := by
  rw [Stage.dues, Stage.dues, h.timers]

omit [CredentialStore σ] in
theorem Keeps.sleeps (h : Keeps stage next) (id : CallId) : next.Sleeps id ↔ stage.Sleeps id := by
  rw [Sleeps, Sleeps, h.subject]

omit [CredentialStore σ] in
theorem Keeps.timed (h : Keeps stage next) (htimed : stage.Timed id) : next.Timed id := by
  cases htimed with
  | asleep hsleeps hdues => exact .asleep ((h.sleeps id).2 hsleeps) ((h.dues id).trans hdues)
  | awake hawake hdues => exact .awake (mt (h.sleeps id).1 hawake) ((h.dues id).trans hdues)

omit [CredentialStore σ] in
theorem keeps_noteCall (id : CallId) (stage : Stage σ) (call : RemoteCall) :
    Keeps stage (noteCall id stage call) := by
  unfold noteCall
  repeat' split
  all_goals exact ⟨rfl, rfl, rfl⟩

omit [CredentialStore σ] in
theorem keeps_foldl_noteCall (id : CallId) (calls : List RemoteCall) (stage : Stage σ) :
    Keeps stage (calls.foldl (noteCall id) stage) := by
  induction calls generalizing stage with
  | nil => exact ⟨rfl, rfl, rfl⟩
  | cons call rest ih =>
    have hcall := keeps_noteCall id stage call
    have hrest := ih (noteCall id stage call)
    exact ⟨hrest.subject.trans hcall.subject, hrest.time.trans hcall.time,
      hrest.timers.trans hcall.timers⟩

omit [CredentialStore σ] in
theorem any_timers_iff :
    (stage.timers.any fun timer => timer.1 = id) = true ↔ stage.dues id ≠ [] := by
  simp [dues, List.filter_eq_nil_iff]

omit [CredentialStore σ] in
theorem noteState_of_dues (hdues : stage.dues id ≠ []) : noteState id stage = stage := by
  unfold noteState
  split
  · rw [if_pos (any_timers_iff.2 hdues)]
  · rfl

omit [CredentialStore σ] in
theorem noteState_of_awake (hawake : ¬ stage.Sleeps id) : noteState id stage = stage := by
  unfold noteState
  split
  · rename_i poll hwaiting
    exact absurd ⟨poll, hwaiting⟩ hawake
  · rfl

omit [CredentialStore σ] in
theorem dues_noteState_of_sleeps (hsleeps : stage.Sleeps id) (hdues : stage.dues id = []) :
    (noteState id stage).dues id = [stage.time + stage.interval] := by
  obtain ⟨poll, hwaiting⟩ := hsleeps
  unfold noteState
  rw [hwaiting]
  dsimp only
  rw [if_neg fun hany => any_timers_iff.1 hany hdues, dues, List.filter_append, List.map_append]
  change stage.dues id ++ _ = _
  rw [hdues, List.nil_append, List.filter_cons_of_pos (by simp), List.filter_nil]
  rfl

omit [CredentialStore σ] in
theorem noteState_of_timed (h : stage.Timed id) : noteState id stage = stage := by
  cases h with
  | asleep hsleeps hdues => exact noteState_of_dues (by rw [hdues]; exact List.cons_ne_nil _ _)
  | awake hawake hdues => exact noteState_of_awake hawake

omit [CredentialStore σ] in
theorem dues_noteState_of_ne (hother : other ≠ id) :
    (noteState id stage).dues other = stage.dues other := by
  unfold noteState
  repeat' split
  · rfl
  · simp [dues, List.filter_append, Ne.symm hother]
  · rfl

omit [CredentialStore σ] in
theorem subject_noteState (id : CallId) (stage : Stage σ) :
    (noteState id stage).subject = stage.subject := by
  unfold noteState
  repeat' split
  all_goals rfl

omit [CredentialStore σ] in
theorem keeps_sweep (stage : Stage σ) : Keeps stage stage.sweep := ⟨rfl, rfl, rfl⟩

/-- What a move does to the timers is to set one for a call that went to sleep. -/
theorem move_keeps (hstep : stage.subject.step? move = some step) (id : CallId) :
    ∃ moved, Keeps { stage with subject := step.state } moved ∧
      Keeps (noteState id moved) (stage.move id move).1 := by
  unfold Stage.move
  rw [hstep]
  have hcalls := keeps_foldl_noteCall id (callsOf step.effects)
    { stage with subject := step.state, effects := stage.effects ++ step.effects }
  refine ⟨_, ?_, keeps_sweep _⟩
  exact ⟨hcalls.subject, hcalls.time, hcalls.timers⟩

theorem move_of_none (hstep : stage.subject.step? move = none) (id : CallId) :
    (stage.move id move).1 = stage := by
  unfold Stage.move
  rw [hstep]

theorem subject_move (hstep : stage.subject.step? move = some step) (id : CallId) :
    (stage.move id move).1.subject = step.state := by
  obtain ⟨moved, hmoved, hnoted⟩ := move_keeps hstep id
  rw [hnoted.subject, subject_noteState, hmoved.subject]

theorem interval_move (stage : Stage σ) (id : CallId) (move : Accounts.Move σ) :
    (stage.move id move).1.interval = stage.interval := by
  cases hstep : stage.subject.step? move with
  | none => rw [move_of_none hstep]
  | some step =>
    rw [interval, subject_move hstep, Subject.polling_of_step? hstep]
    rfl

/-- Whether a call waits for what it waited for, with the timers it had. -/
structure Leaves (stage next : Stage σ) (id : CallId) : Prop where
  waiting : next.subject.activity.waiting? id = stage.subject.activity.waiting? id
  dues : next.dues id = stage.dues id

omit [CredentialStore σ] in
theorem Leaves.trans (h : Leaves stage next id) (hlater : Leaves next later id) :
    Leaves stage later id :=
  ⟨hlater.waiting.trans h.waiting, hlater.dues.trans h.dues⟩

omit [CredentialStore σ] in
theorem Leaves.sleeps (h : Leaves stage next id) : next.Sleeps id ↔ stage.Sleeps id := by
  rw [Sleeps, Sleeps, h.waiting]

omit [CredentialStore σ] in
theorem Leaves.timed (h : Leaves stage next id) (htimed : stage.Timed id) : next.Timed id := by
  cases htimed with
  | asleep hsleeps hdues => exact .asleep (h.sleeps.2 hsleeps) (h.dues.trans hdues)
  | awake hawake hdues => exact .awake (mt h.sleeps.1 hawake) (h.dues.trans hdues)

omit [CredentialStore σ] in
theorem Keeps.leaves (h : Keeps stage next) (id : CallId) : Leaves stage next id :=
  ⟨by rw [h.subject], h.dues id⟩

theorem leaves_move_of_waiting (htimed : stage.Timed other)
    (hwaiting : ∀ step, stage.subject.step? move = some step →
      step.state.activity.waiting? other = stage.subject.activity.waiting? other)
    (id : CallId) : Leaves stage (stage.move id move).1 other := by
  cases hstep : stage.subject.step? move with
  | none =>
    rw [move_of_none hstep]
    exact ⟨rfl, rfl⟩
  | some step =>
    obtain ⟨moved, hmoved, hnoted⟩ := move_keeps hstep id
    have hleft : Leaves stage moved other := by
      refine ⟨?_, hmoved.dues other⟩
      rw [hmoved.subject]
      exact hwaiting step hstep
    refine (hleft.trans ?_).trans (hnoted.leaves other)
    by_cases hother : other = id
    · subst hother
      rw [noteState_of_timed (hleft.timed htimed)]
      exact ⟨rfl, rfl⟩
    · exact ⟨by rw [subject_noteState], dues_noteState_of_ne hother⟩

/-- A move leaves every call alone but its caller. -/
theorem leaves_move (htimed : stage.Timed other) (hcaller : move.caller? ≠ some other)
    (id : CallId) : Leaves stage (stage.move id move).1 other :=
  leaves_move_of_waiting htimed
    (fun _ hstep => Subject.waiting?_of_not_caller hstep hcaller) id

theorem timed_move (hstep : stage.subject.step? move = some step) (hdues : stage.dues id = []) :
    (stage.move id move).1.Timed id ∧ ((stage.move id move).1.Sleeps id →
      (stage.move id move).1.dues id = [stage.time + stage.interval]) := by
  obtain ⟨moved, hmoved, hnoted⟩ := move_keeps hstep id
  have hnone : moved.dues id = [] := (hmoved.dues id).trans hdues
  have hinterval : moved.interval = stage.interval := by
    rw [interval, hmoved.subject, Subject.polling_of_step? hstep]
    rfl
  have hasleep : (stage.move id move).1.Sleeps id ↔ moved.Sleeps id := by
    rw [hnoted.sleeps, Sleeps, Sleeps, subject_noteState]
  by_cases hsleeps : moved.Sleeps id
  · have hset : (stage.move id move).1.dues id = [stage.time + stage.interval] := by
      rw [hnoted.dues, dues_noteState_of_sleeps hsleeps hnone, hmoved.time, hinterval]
    exact ⟨.asleep (hasleep.2 hsleeps) hset, fun _ => hset⟩
  · rw [noteState_of_awake hsleeps] at hnoted
    exact ⟨.awake (mt hasleep.1 hsleeps) ((hnoted.dues id).trans hnone), fun hagain =>
      absurd (hasleep.1 hagain) hsleeps⟩

theorem timed_move_of_awake (htimed : stage.Timed id) (hawake : ¬ stage.Sleeps id)
    (move : Accounts.Move σ) :
    (stage.move id move).1.Timed id ∧ ((stage.move id move).1.Sleeps id →
      (stage.move id move).1.dues id = [stage.time + stage.interval]) := by
  cases htimed with
  | asleep hsleeps => exact absurd hsleeps hawake
  | awake _ hdues =>
    cases hstep : stage.subject.step? move with
    | none =>
      rw [move_of_none hstep]
      exact ⟨.awake hawake hdues, fun hsleeps => absurd hsleeps hawake⟩
    | some step => exact timed_move hstep hdues

/-! ### What a call does -/

def unset (stage : Stage σ) (id : CallId) : Stage σ :=
  { stage with timers := stage.timers.filter fun timer => timer.1 ≠ id }

omit [CredentialStore σ] in
theorem dues_unset (stage : Stage σ) (id other : CallId) :
    (stage.unset id).dues other = if other = id then [] else stage.dues other := by
  simp only [dues, unset, List.filter_filter]
  split
  · rename_i hother
    subst hother
    simp
  · rename_i hother
    congr 1
    apply List.filter_congr
    intro timer _
    simpa using fun hsame => hsame ▸ hother

/-- What a call can do: it takes what it waited for, or it wakes when its timer is due. -/
inductive Advances (stage : Stage σ) (id : CallId) : Stage σ → Prop
  | awake {moved : Stage σ} {move : Accounts.Move σ} (hawake : ¬ stage.Sleeps id)
      (hmoved : Keeps stage moved) (hcaller : ∀ other, move.caller? = some other → other = id) :
      Advances stage id (moved.move id move).1
  | wakes {due : Nat} (hsleeps : stage.Sleeps id) (hdue : due ∈ stage.dues id)
      (htime : due ≤ stage.time) :
      Advances stage id ((stage.unset id).move id (.session (.wake id))).1

omit [CredentialStore σ] in
theorem not_sleeps {waiting : Option Session.Waiting}
    (hwaiting : stage.subject.activity.waiting? id = waiting)
    (hother : ∀ poll, waiting ≠ some (.timer poll)) : ¬ stage.Sleeps id := by
  rintro ⟨poll, hsleeps⟩
  exact hother poll (hwaiting.symm.trans hsleeps)

theorem advances_of_advance? (hadvance : stage.advance? id = some next) :
    Advances stage id next := by
  have hsame {other : CallId} (h : some id = some other) : other = id := (Option.some.inj h).symm
  unfold advance? at hadvance
  split at hadvance
  · rename_i hwaiting
    split at hadvance <;> cases hadvance
    exact .awake (not_sleeps hwaiting nofun) ⟨rfl, rfl, rfl⟩ fun _ => hsame
  · rename_i hwaiting
    split at hadvance <;> cases hadvance
    exact .awake (not_sleeps hwaiting nofun) ⟨rfl, rfl, rfl⟩ fun _ => hsame
  · rename_i hwaiting
    split at hadvance <;> cases hadvance
    exact .awake (not_sleeps hwaiting nofun) ⟨rfl, rfl, rfl⟩ fun _ => hsame
  · rename_i poll hwaiting
    split at hadvance <;> cases hadvance
    rename_i hany
    obtain ⟨timer, htimer, hdue⟩ := List.any_eq_true.1 hany
    simp only [Bool.and_eq_true, decide_eq_true_eq] at hdue
    have hset : timer ∈ stage.timers.filter fun timer => timer.1 = id :=
      List.mem_filter.2 ⟨htimer, by simpa using hdue.1⟩
    exact .wakes ⟨poll, hwaiting⟩ (List.mem_map_of_mem hset) hdue.2
  · rename_i hwaiting
    have hawake := not_sleeps hwaiting nofun
    split at hadvance
    · cases hadvance
    · split at hadvance
      · cases hadvance
        exact .awake hawake ⟨rfl, rfl, rfl⟩ fun _ => hsame
      · split at hadvance <;> cases hadvance
        exact .awake hawake ⟨rfl, rfl, rfl⟩ nofun

theorem isSome_advance?_iff {due : Nat} (hsleeps : stage.Sleeps id)
    (hdues : stage.dues id = [due]) :
    (stage.advance? id).isSome ↔ due ≤ stage.time := by
  constructor
  · intro hadvance
    obtain ⟨next, hadvance⟩ := Option.isSome_iff_exists.1 hadvance
    cases advances_of_advance? hadvance with
    | awake hawake => exact absurd hsleeps hawake
    | wakes _ hdue htime =>
      rw [hdues, List.mem_singleton] at hdue
      exact hdue ▸ htime
  · intro htime
    obtain ⟨poll, hwaiting⟩ := hsleeps
    have hmem : due ∈ stage.dues id := by rw [hdues]; exact List.mem_singleton_self due
    obtain ⟨timer, htimer, rfl⟩ := List.mem_map.1 hmem
    obtain ⟨htimer, hid⟩ := List.mem_filter.1 htimer
    have hany : (stage.timers.any fun timer => timer.1 = id && timer.2 ≤ stage.time) = true :=
      List.any_eq_true.2 ⟨timer, htimer, by simpa [htime] using hid⟩
    unfold advance?
    rw [hwaiting]
    dsimp only
    rw [if_pos hany]
    rfl

/-- What can happen in a play, and whose call it belongs to: a move that belongs to none, a call
that begins, goes on or is dropped, another time, and other plans for the service. -/
inductive Act (stage : Stage σ) : Option CallId → Stage σ → Prop
  | move {move : Accounts.Move σ} (hcaller : move.caller? = none) :
      Act stage none (stage.move 0 move).1
  | enter (request : Request) : Act stage (some (stage.enter request).1) (stage.enter request).2
  | advance {id : CallId} {next : Stage σ} (hadvance : stage.advance? id = some next) :
      Act stage (some id) next
  | drop (id : CallId) : Act stage (some id) (stage.drop id)
  | time (time : Nat) : Act stage none { stage with time }
  | arrange (script : Script) (keyGate statusGate certificateGate : Gate) (effects : List Effect) :
      Act stage none { stage with script, keyGate, statusGate, certificateGate, effects }

variable {start slept : Stage σ} {caller : Option CallId} {request : Request}

omit [CredentialStore σ] in
theorem Request.caller?_move (request : Request) (id : CallId) :
    (request.move id : Accounts.Move σ).caller? = some id := by
  cases request <;> rfl

theorem enter_moves (stage : Stage σ) (request : Request) :
    ∃ entered, Keeps stage entered ∧ (stage.enter request).2 =
      (entered.move (stage.enter request).1 (request.move (stage.enter request).1)).1 := by
  refine ⟨_, ?_, rfl⟩
  exact ⟨rfl, rfl, rfl⟩

theorem drop_moves (stage : Stage σ) (id : CallId) :
    ∃ left move, Keeps (stage.unset id) left ∧ stage.drop id = (left.move id move).1 ∧
      move.caller? = some id ∧ (stage.Sleeps id → move = .session (.drop id)) := by
  unfold Stage.drop
  dsimp only
  split
  · refine ⟨_, .session (.drop id), ?_, rfl, rfl, fun _ => rfl⟩
    exact ⟨rfl, rfl, rfl⟩
  · rename_i hnone
    refine ⟨_, .drop id, ?_, rfl, rfl, ?_⟩
    · exact ⟨rfl, rfl, rfl⟩
    · rintro ⟨poll, hwaiting⟩
      exact absurd (by simp [hwaiting]) hnone

omit [CredentialStore σ] in
theorem leaves_unset (hother : id ≠ other) : Leaves stage (stage.unset other) id :=
  ⟨rfl, by rw [dues_unset, if_neg hother]⟩

/-- An act leaves every call alone but its caller. -/
theorem Act.leaves (hact : Act stage caller next) (htimed : stage.Timed id)
    (hcaller : caller ≠ some id) : Leaves stage next id := by
  cases hact with
  | move hnone => exact leaves_move htimed (by rw [hnone]; nofun) 0
  | enter request =>
    obtain ⟨entered, hentered, heq⟩ := enter_moves stage request
    rw [heq]
    refine (hentered.leaves id).trans (leaves_move (hentered.timed htimed) ?_ _)
    rwa [Request.caller?_move]
  | advance hadvance =>
    have hne := fun hsame : id = _ => hcaller (congrArg some hsame.symm)
    cases advances_of_advance? hadvance with
    | awake hawake hmoved hother =>
      refine (hmoved.leaves id).trans (leaves_move (hmoved.timed htimed) ?_ _)
      exact fun hsame => hne (hother id hsame)
    | wakes hsleeps hdue htime =>
      refine (leaves_unset hne).trans (leaves_move ((leaves_unset hne).timed htimed) ?_ _)
      exact fun hsame => hne (Option.some.inj hsame).symm
  | drop other =>
    have hne := fun hsame : id = other => hcaller (congrArg some hsame.symm)
    obtain ⟨left, move, hleft, heq, hdrops, -⟩ := drop_moves stage other
    rw [heq]
    have hleaves := (leaves_unset hne).trans (hleft.leaves id)
    refine hleaves.trans (leaves_move (hleaves.timed htimed) ?_ _)
    rwa [hdrops]
  | time | arrange => exact ⟨rfl, rfl⟩

theorem waiting_of_enter {request : Request}
    (hstep : stage.subject.step? (request.move id) = some step) (hsleeps : stage.Sleeps id) :
    step.state.activity.waiting? id = stage.subject.activity.waiting? id := by
  rcases Subject.activity_of_step? hstep with ⟨part, inner, hpart, hinner, hstate⟩ | ⟨-, hstate⟩
  · obtain ⟨poll, hwaiting⟩ := hsleeps
    cases request with
    | keys =>
      cases hpart
      cases Session.Activity.allows_of_step? hinner with
      | beginKeys hnew | queueKeys hnew => cases hwaiting.symm.trans hnew
    | verification record =>
      cases hpart
      cases Session.Activity.allows_of_step? hinner with
      | beginVerification hnew => cases hwaiting.symm.trans hnew
    | assertion =>
      cases hpart
      rw [hstate, Session.Activity.waiting?_of_not_caller hinner nofun]
  · rw [hstate]

theorem Sleeps.wakes (h : stage.Sleeps id) :
    ∃ step, stage.subject.step? (.session (.wake id)) = some step := by
  obtain ⟨poll, hwaiting⟩ := h
  refine Subject.step?_of_session ?_ fun _ hbegins => hbegins
  simp [Session.Activity.step?, hwaiting]

theorem Sleeps.drops (h : stage.Sleeps id) :
    ∃ step, stage.subject.step? (.session (.drop id)) = some step := by
  obtain ⟨poll, hwaiting⟩ := h
  refine Subject.step?_of_session ?_ fun _ hbegins => hbegins
  simp [Session.Activity.step?, hwaiting]

theorem Advances.timed (h : Advances stage id next) (htimed : stage.Timed id) :
    next.Timed id ∧ (next.Sleeps id → next.dues id = [stage.time + stage.interval]) := by
  cases h with
  | @awake moved move hawake hmoved hcaller =>
    have hmove := timed_move_of_awake (hmoved.timed htimed) (mt (hmoved.sleeps id).1 hawake) move
    rwa [hmoved.time, interval, hmoved.subject] at hmove
  | wakes hsleeps hdue htime =>
    obtain ⟨step, hstep⟩ := hsleeps.wakes
    exact timed_move hstep (by rw [dues_unset, if_pos rfl])

theorem timed_enter (htimed : stage.Timed (stage.enter request).1) :
    (stage.enter request).2.Timed (stage.enter request).1 := by
  obtain ⟨entered, hentered, heq⟩ := enter_moves stage request
  have htimedToo := hentered.timed htimed
  rw [heq]
  by_cases hsleeps : entered.Sleeps (stage.enter request).1
  · refine (leaves_move_of_waiting htimedToo (fun step hstep => ?_) _).timed htimedToo
    exact waiting_of_enter hstep hsleeps
  · exact (timed_move_of_awake htimedToo hsleeps _).1

theorem timed_drop (stage : Stage σ) (id : CallId) : (stage.drop id).Timed id := by
  obtain ⟨left, move, hleft, heq, hdrops, hasleep⟩ := drop_moves stage id
  have hdues : left.dues id = [] := by rw [hleft.dues, dues_unset, if_pos rfl]
  rw [heq]
  cases hstep : left.subject.step? move with
  | some step => exact (timed_move hstep hdues).1
  | none =>
    rw [move_of_none hstep]
    refine .awake (fun hsleeps => ?_) hdues
    have hbefore : stage.Sleeps id := (hleft.sleeps id).1 hsleeps
    obtain ⟨step, hstep'⟩ := hsleeps.drops
    rw [hasleep hbefore, hstep'] at hstep
    cases hstep

/-- What happens in a play leaves every call with a timer if it sleeps, and with none otherwise. -/
theorem Act.timed (hact : Act stage caller next) (htimed : ∀ id, stage.Timed id) (id : CallId) :
    next.Timed id := by
  by_cases hcaller : caller = some id
  · cases hact with
    | move | time | arrange => cases hcaller
    | enter request =>
      cases hcaller
      exact timed_enter (htimed _)
    | advance hadvance =>
      cases hcaller
      exact ((advances_of_advance? hadvance).timed (htimed _)).1
    | drop other =>
      cases hcaller
      exact timed_drop stage id
  · exact (hact.leaves (htimed id) hcaller).timed (htimed id)

theorem Act.interval (hact : Act stage caller next) : next.interval = stage.interval := by
  cases hact with
  | move => exact interval_move stage 0 _
  | enter request =>
    obtain ⟨entered, hentered, heq⟩ := enter_moves stage request
    rw [heq, interval_move, Stage.interval, hentered.subject]
    rfl
  | advance hadvance =>
    cases advances_of_advance? hadvance with
    | awake hawake hmoved hcaller =>
      rw [interval_move, Stage.interval, hmoved.subject]
      rfl
    | wakes hsleeps hdue htime => exact interval_move _ _ _
  | drop id =>
    obtain ⟨left, move, hleft, heq, -⟩ := drop_moves stage id
    rw [heq, interval_move, Stage.interval, hleft.subject]
    rfl
  | time | arrange => rfl

/-! ### A whole play -/

/-- Whether one act leads from a stage to the next. -/
def Happens (stage next : Stage σ) : Prop := ∃ caller, Act stage caller next

/-- Whether one act does that does not belong to a call. -/
def HappensBeside (id : CallId) (stage next : Stage σ) : Prop :=
  ∃ caller, caller ≠ some id ∧ Act stage caller next

theorem Happens.advance (hadvance : stage.advance? id = some next) : Happens stage next :=
  ⟨_, .advance hadvance⟩

/-- Whether the session comes from one stage to the next by moves of its own. -/
def Moves (stage next : Stage σ) : Prop :=
  ∃ history, Run Session.Activity.step? stage.subject.activity history next.subject.activity

theorem Moves.trans (h : Moves stage next) (hlater : Moves next later) : Moves stage later := by
  obtain ⟨history, hhistory⟩ := h
  obtain ⟨rest, hrest⟩ := hlater
  exact ⟨history ++ rest, run_append.2 ⟨_, hhistory, hrest⟩⟩

theorem Moves.of_eq (h : next.subject = stage.subject) : Moves stage next :=
  ⟨[], congrArg Subject.activity h.symm⟩

theorem moves_move (stage : Stage σ) (id : CallId) (move : Accounts.Move σ) :
    Moves stage (stage.move id move).1 := by
  cases hstep : stage.subject.step? move with
  | none => exact .of_eq (by rw [move_of_none hstep])
  | some step =>
    have hsubject := subject_move hstep id
    rcases Subject.activity_of_step? hstep with ⟨part, inner, -, hinner, hstate⟩ | ⟨-, hstate⟩
    · exact ⟨[⟨_, part, inner⟩], rfl, hinner, by rw [hsubject, hstate]; rfl⟩
    · exact ⟨[], by rw [hsubject, hstate]; rfl⟩

/-- What happens in a play happens to the session in moves of its own. -/
theorem Act.moves (hact : Act stage caller next) : Moves stage next := by
  cases hact with
  | move => exact moves_move stage 0 _
  | enter request =>
    obtain ⟨entered, hentered, heq⟩ := enter_moves stage request
    rw [heq]
    exact (Moves.of_eq hentered.subject).trans (moves_move entered _ _)
  | advance hadvance =>
    cases advances_of_advance? hadvance with
    | awake hawake hmoved hcaller => exact (Moves.of_eq hmoved.subject).trans (moves_move _ _ _)
    | wakes => exact (Moves.of_eq rfl).trans (moves_move (stage.unset _) _ _)
  | drop id =>
    obtain ⟨left, move, hleft, heq, -⟩ := drop_moves stage id
    rw [heq]
    exact (Moves.of_eq hleft.subject).trans (moves_move left id move)
  | time | arrange => exact .of_eq rfl

theorem moves_of_play (hplay : ReflTransGen Happens start stage) : Moves start stage := by
  induction hplay with
  | refl => exact .of_eq rfl
  | tail _ hnext ih =>
    obtain ⟨caller, hact⟩ := hnext
    exact ih.trans hact.moves

theorem interval_of_play (hplay : ReflTransGen Happens start stage) :
    stage.interval = start.interval := by
  induction hplay with
  | refl => rfl
  | tail _ hnext ih =>
    obtain ⟨caller, hact⟩ := hnext
    exact hact.interval.trans ih

theorem timed_of_play (hplay : ReflTransGen Happens start stage) (hstart : ∀ id, start.Timed id)
    (id : CallId) : stage.Timed id := by
  induction hplay generalizing id with
  | refl => exact hstart id
  | tail _ hnext ih =>
    obtain ⟨caller, hact⟩ := hnext
    exact hact.timed ih id

theorem leaves_of_beside (hlater : ReflTransGen (HappensBeside id) stage later)
    (htimed : stage.Timed id) : Leaves stage later id := by
  induction hlater with
  | refl => exact ⟨rfl, rfl⟩
  | tail _ hnext ih =>
    obtain ⟨caller, hcaller, hact⟩ := hnext
    exact ih.trans (hact.leaves (ih.timed htimed) hcaller)

theorem Advances.denied (h : Advances stage id next) (hsleeps : next.Sleeps id) :
    ∃ moved, Keeps stage moved ∧
      next = (moved.move id (.session (.answerStatus id (.ok false)))).1 := by
  obtain ⟨poll, hafter⟩ := hsleeps
  cases h with
  | @awake moved move hawake hmoved hcaller =>
    have hbefore : ¬ ∃ poll, moved.subject.activity.waiting? id = some (.timer poll) :=
      mt (hmoved.sleeps id).1 hawake
    cases hstep : moved.subject.step? move with
    | none =>
      rw [move_of_none hstep] at hafter
      exact absurd ⟨poll, hafter⟩ hbefore
    | some step =>
      rw [subject_move hstep] at hafter
      rcases Subject.denied_or_slept hstep hafter with rfl | ⟨hslept, -⟩
      · exact ⟨moved, hmoved, rfl⟩
      · exact absurd ⟨poll, hslept⟩ hbefore
  | wakes hasleep =>
    have hunset : (stage.unset id).Sleeps id := hasleep
    obtain ⟨step, hstep⟩ := hunset.wakes
    rw [subject_move hstep] at hafter
    rcases Subject.denied_or_slept hstep hafter with hmove | ⟨-, hother⟩
    · cases hmove
    · exact absurd rfl (hother _ rfl)

/-- A call goes to sleep with a negative answer. It can go on from the end of its interval on, and
not before, and then it wakes. -/
structure SleepsUntil (stage slept later : Stage σ) (id : CallId) (due : Nat) : Prop where
  denied : ∃ moved, Keeps stage moved ∧
    slept = (moved.move id (.session (.answerStatus id (.ok false)))).1
  due : (later.advance? id).isSome ↔ due ≤ later.time
  wakes : ∀ next, later.advance? id = some next →
    next = ((later.unset id).move id (.session (.wake id))).1

theorem sleepsUntil (hplay : ReflTransGen Happens start stage) (hstart : ∀ id, start.Timed id)
    (hadvance : stage.advance? id = some slept) (hsleeps : slept.Sleeps id)
    (hlater : ReflTransGen (HappensBeside id) slept later) :
    SleepsUntil stage slept later id (stage.time + start.interval) := by
  have hadvances := advances_of_advance? hadvance
  obtain ⟨htimed, hdues⟩ := hadvances.timed (timed_of_play hplay hstart id)
  have hleaves := leaves_of_beside hlater htimed
  have hasleep := hleaves.sleeps.2 hsleeps
  rw [interval_of_play hplay] at hdues
  refine ⟨hadvances.denied hsleeps,
    isSome_advance?_iff hasleep (hleaves.dues.trans (hdues hsleeps)), fun next hnext => ?_⟩
  cases advances_of_advance? hnext with
  | awake hawake => exact absurd hasleep hawake
  | wakes => rfl

/-! ### Plays of the driver -/

theorem play_runCall (id : CallId) (fuel : Nat) (stage : Stage σ) :
    ReflTransGen Happens stage (runCall id fuel stage) := by
  induction fuel generalizing stage with
  | zero => exact .refl
  | succ fuel ih =>
    unfold runCall
    cases hadvance : stage.advance? id with
    | none => exact .refl
    | some next => exact .head (.advance hadvance) (ih next)

theorem play_advanceFirst? {calls : List CallId}
    (hadvance : stage.advanceFirst? calls = some (id, next)) : Happens stage next := by
  induction calls with
  | nil => cases hadvance
  | cons other rest ih =>
    unfold advanceFirst? at hadvance
    cases hother : stage.advance? other with
    | none =>
      rw [hother] at hadvance
      exact ih hadvance
    | some moved =>
      rw [hother] at hadvance
      cases hadvance
      exact .advance hother

theorem play_settleFrom (fuel : Nat) (stage : Stage σ) :
    ReflTransGen Happens stage (settleFrom fuel stage) := by
  induction fuel generalizing stage with
  | zero => exact .refl
  | succ fuel ih =>
    unfold settleFrom
    cases hadvance : stage.advanceFirst? stage.calls with
    | none => exact .refl
    | some first =>
      obtain ⟨id, next⟩ := first
      exact .head (play_advanceFirst? hadvance) ((play_runCall id _ next).trans (ih _))

theorem play_settle (stage : Stage σ) : ReflTransGen Happens stage stage.settle :=
  play_settleFrom _ stage

theorem Happens.time (stage : Stage σ) (time : Nat) : Happens stage { stage with time } :=
  ⟨none, .time time⟩

theorem play_passTime (goal fuel : Nat) (stage : Stage σ) :
    ReflTransGen Happens stage (passTime goal fuel stage) := by
  induction fuel generalizing stage with
  | zero => exact .single (.time stage goal)
  | succ fuel ih =>
    unfold passTime
    split
    · exact .single (.time stage goal)
    · split
      · exact .single (.time stage goal)
      · exact .head (.time stage _) ((play_settle _).trans (ih _))

theorem play_wait (stage : Stage σ) (milliseconds : Nat) :
    ReflTransGen Happens stage (stage.wait milliseconds) := play_passTime _ _ stage

theorem play_finish (id : CallId) (fuel : Nat) (stage : Stage σ) :
    ReflTransGen Happens stage (finish id fuel stage) := by
  induction fuel generalizing stage with
  | zero => exact .refl
  | succ fuel ih =>
    have hsettled := (play_runCall id stage.patience stage).trans (play_settle _)
    unfold finish
    dsimp only
    split
    · split
      · exact hsettled
      · exact hsettled.trans (.head (.time _ _) (ih _))
    · exact hsettled

theorem play_begin (stage : Stage σ) (request : Request) :
    ReflTransGen Happens stage (stage.begin request).2 :=
  .head ⟨_, .enter request⟩ (play_runCall _ _ _)

theorem play_perform (stage : Stage σ) (request : Request) :
    ReflTransGen Happens stage (stage.perform request).2 :=
  (play_begin stage request).trans (play_finish _ _ _)

end Stage

end Rehearsal

end AccountManager
