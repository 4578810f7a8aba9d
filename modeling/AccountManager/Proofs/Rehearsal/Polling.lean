import AccountManager.Proofs.Rehearsal.Timers

/-!
# Waiting for verification

What a wait for verification does and when it does it, as the configuration has it.
-/

namespace AccountManager.Rehearsal

open Relation Storage Session

variable {σ : Type} [CredentialStore σ]

/-- What a wait is to do that is begun in an epoch. -/
def errandOf (config : Config) (id : CallId) (epoch : Nat) (token : String) : Errand :=
  ⟨id, epoch, token, ⟨.ofMilliseconds config.pollInterval.toNat, max 1 config.maxPolls.toNat⟩⟩

namespace Stage

/-- In every run of a session a wait for verification polls as it was asked to: it checks with the
token of the given record, in the epoch in which it was begun, once and then again after each
negative answer, no more often than the configuration says, and returns what the answers decide if
its epoch lasts. A play is such a run, in which a wait that got a negative answer and sleeps can go
on once the configured interval is over, and not before. -/
theorem polling_does_what_was_asked (config : Config) (store : σ) :
    (∀ (past later : History σ) (begun : Made (Activity σ) (Move σ) Reply) (finish : Activity σ)
      (id : CallId) (given : CredentialRecord) (token : String),
      Run Activity.step? (Accounts.newActivity config store) (past ++ begun :: later) finish →
      begun.move = .beginVerification id given → given.isVerified = false →
      given.sessionToken = some token → (∀ other ∈ later, ¬ other.move.Begins id) →
        ∃ count standing,
          Activity.Polls (errandOf config id begun.before.session.epoch token)
            (begun :: Activity.movesOf id later) finish count standing) ∧
    ∀ start stage : Stage σ, start.subject.activity = Accounts.newActivity config store →
      start.timers = [] → ReflTransGen Happens start stage →
        (∃ history, Run Activity.step? (Accounts.newActivity config store) history
          stage.subject.activity) ∧
        ∀ (slept later : Stage σ) (id : CallId), stage.advance? id = some slept → slept.Sleeps id →
          ReflTransGen (HappensBeside id) slept later →
            SleepsUntil stage slept later id
              (stage.time + config.pollInterval.toNat * 1000000) := by
  constructor
  · intro past later begun finish id given token run hmove hunverified htoken honce
    exact Activity.polls_of_run (errandOf config id begun.before.session.epoch token) run rfl
      (Nat.le_max_left 1 _) hmove hunverified htoken rfl honce
  · intro start stage hstart htimers hplay
    have hawake : ∀ id, start.Timed id := by
      intro id
      refine .awake ?_ (by rw [dues, htimers]; rfl)
      rintro ⟨poll, hwaiting⟩
      rw [hstart] at hwaiting
      cases hwaiting
    refine ⟨hstart ▸ moves_of_play hplay, fun slept later id hadvance hsleeps hlater => ?_⟩
    have hsleeping := sleepsUntil hplay hawake hadvance hsleeps hlater
    rwa [interval, hstart] at hsleeping

/-- A wait that may make two checks makes both of them in vain, five milliseconds apart. -/
theorem two_checks_are_made_in_vain :
    (∃ begun later finish count standing,
      Run Activity.step? (Accounts.newActivity { pollInterval := 5, maxPolls := 2 } memory)
        ([] ++ begun :: later) finish ∧
      Activity.Polls (errandOf { pollInterval := 5, maxPolls := 2 } 0 0 "token")
        (begun :: Activity.movesOf 0 later) finish count standing ∧
      checksIn (begun :: Activity.movesOf 0 later) =
        [(0, .checkStatus "token"), (0, .checkStatus "token")] ∧
      returnedIn (begun :: Activity.movesOf 0 later) =
        [(0, .error (.verificationTimedOut 2))]) ∧
    ∃ stage slept : Stage (BlobCredentials MemoryBlobs),
      stage.advance? 1 = some slept ∧ slept.Sleeps 1 ∧ slept.time = 0 ∧
        ∀ time, ({ slept with time }.advance? 1).isSome ↔ 5000000 ≤ time := by
  obtain ⟨hpolls, hplays⟩ :=
    polling_does_what_was_asked { pollInterval := 5, maxPolls := 2 } memory
  constructor
  · obtain ⟨finish, run⟩ := run_played Activity.step?
      (Accounts.newActivity { pollInterval := 5, maxPolls := 2 } memory) [
        .beginVerification 0 { sessionToken := some "token" },
        .answerStatus 0 (.ok false),
        .wake 0,
        .answerStatus 0 (.ok false)]
    obtain ⟨count, standing, hpolled⟩ :=
      hpolls [] [_, _, _] _ finish 0 _ "token" run rfl rfl rfl (by simp [Move.Begins])
    exact ⟨_, [_, _, _], finish, count, standing, run, hpolled, rfl, rfl⟩
  · let start : Stage (BlobCredentials MemoryBlobs) :=
      { subject := .session (Accounts.newActivity { pollInterval := 5, maxPolls := 2 } memory)
        script := { status := [.ok false] } }
    let stage := (start.enter (.verification { sessionToken := some "token" })).2
    obtain ⟨slept, hadvance⟩ : ∃ slept, stage.advance? 1 = some slept := ⟨_, rfl⟩
    have hasleep : slept.Sleeps 1 := by
      cases hadvance
      exact ⟨_, rfl⟩
    obtain ⟨-, hsleeps⟩ := hplays start stage rfl rfl (.single ⟨_, .enter _⟩)
    refine ⟨stage, slept, hadvance, hasleep, ?_, fun time => ?_⟩
    · cases hadvance
      rfl
    · have hdue := (hsleeps slept _ 1 hadvance hasleep (.single ⟨none, nofun, .time time⟩)).due
      have hspan : stage.time + (5 : UInt64).toNat * 1000000 = 5000000 := by decide
      rwa [hspan] at hdue

end Stage

end AccountManager.Rehearsal
