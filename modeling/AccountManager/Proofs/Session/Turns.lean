import AccountManager.Proofs.Session.Provenance

/-!
# Taking turns at the keys

One call at a time may fetch keys. The others stand in a queue, no call twice, and the right passes
to the first of them when the call that holds it returns or is dropped. So a call that waits for the
service to hand out keys is the only one that does, and as long as anybody queues somebody holds the
right.
-/

namespace AccountManager.Session

variable {σ : Type}

/-- Whether a call waits for keys or for its turn to fetch them. -/
def Waiting.ForKeys : Waiting → Prop
  | .turn | .keys _ _ => True
  | .status _ | .timer _ => False

theorem PollPlan.not_forKeys {plan : PollPlan} {waiting : Waiting}
    (hwaiting : plan.waiting? = some waiting) : ¬ waiting.ForKeys := by
  cases plan with
  | verified record => cases hwaiting
  | ask poll | sleep poll =>
    cases hwaiting
    exact fun hfor => hfor

namespace Activity

/-- Whether a call holds the right to fetch keys and every other call that wants it queues. -/
structure Behind (activity : Activity σ) (holder : CallId) : Prop where
  holds : activity.fetching = some holder
  left : holder ∉ activity.queue
  distinct : activity.queue.Nodup
  queues : ∀ id ∈ activity.queue, activity.waiting? id = some .turn
  others : ∀ id waiting, activity.waiting? id = some waiting → waiting.ForKeys → id ≠ holder →
    id ∈ activity.queue

/-- Whether the calls take turns: nobody wants keys, or one call holds the right to fetch them. -/
inductive Turns (activity : Activity σ) : Prop
  | idle (hfree : activity.fetching = none) (hqueue : activity.queue = [])
      (hnone : ∀ id waiting, activity.waiting? id = some waiting → ¬ waiting.ForKeys)
  | held (holder : CallId) (waiting : Waiting) (hbehind : activity.Behind holder)
      (hwaiting : activity.waiting? holder = some waiting) (hfor : waiting.ForKeys)

/-- Whether a call waits for keys that the service was asked for. -/
def Fetching (activity : Activity σ) (id : CallId) : Prop :=
  ∃ user unwrapBKey, activity.waiting? id = some (.keys user unwrapBKey)

@[simp] theorem fetching_suspend (activity : Activity σ) (id : CallId) (waiting : Waiting) :
    (activity.suspend id waiting).fetching = activity.fetching := by
  unfold suspend
  split <;> rfl

@[simp] theorem queue_suspend (activity : Activity σ) (id : CallId) (waiting : Waiting) :
    (activity.suspend id waiting).queue = activity.queue := by
  unfold suspend
  split <;> rfl

@[simp] theorem fetching_continuePoll (activity : Activity σ) (id : CallId)
    (continued : Step (Session σ) (Except AccountError PollPlan)) :
    (activity.continuePoll id continued).state.fetching = activity.fetching := by
  unfold continuePoll
  dsimp only
  split <;> simp [forget]

@[simp] theorem queue_continuePoll (activity : Activity σ) (id : CallId)
    (continued : Step (Session σ) (Except AccountError PollPlan)) :
    (activity.continuePoll id continued).state.queue = activity.queue := by
  unfold continuePoll
  dsimp only
  split <;> simp [forget]

theorem queue_passTurn (activity : Activity σ) :
    activity.passTurn.queue = activity.queue.tail := by
  unfold passTurn
  split <;> rename_i hqueue <;> rw [hqueue] <;> rfl

variable {activity : Activity σ} {id holder other : CallId} {waiting : Waiting}

theorem Behind.suspend (h : activity.Behind holder) (hfor : waiting.ForKeys) :
    (activity.suspend holder waiting).Turns := by
  refine .held holder waiting ⟨?_, ?_, ?_, ?_, ?_⟩ (by simp) hfor
  · rw [fetching_suspend, h.holds]
  · rw [queue_suspend]
    exact h.left
  · rw [queue_suspend]
    exact h.distinct
  · intro id hid
    rw [queue_suspend] at hid
    have hother : id ≠ holder := by
      rintro rfl
      exact h.left hid
    rw [waiting?_suspend, if_neg hother]
    exact h.queues id hid
  · intro id found hfound hwants hother
    rw [waiting?_suspend, if_neg hother] at hfound
    rw [queue_suspend]
    exact h.others id found hfound hwants hother

/-- Once the call that holds the right is over, the first in the queue holds it. -/
theorem Behind.leave (h : activity.Behind holder) : ((activity.forget holder).passTurn).Turns := by
  have hothers (id : CallId) (found : Waiting)
      (hfound : (activity.forget holder).waiting? id = some found) (hfor : found.ForKeys) :
      id ∈ activity.queue := by
    rw [waiting?_forget] at hfound
    split at hfound
    · cases hfound
    · rename_i hother
      exact h.others id found hfound hfor hother
  have hqueues (id : CallId) (hid : id ∈ activity.queue) :
      (activity.forget holder).waiting? id = some .turn := by
    have hother : id ≠ holder := by
      rintro rfl
      exact h.left hid
    rw [waiting?_forget, if_neg hother]
    exact h.queues id hid
  have hdistinct := h.distinct
  unfold passTurn
  split
  · rename_i hqueue
    change activity.queue = [] at hqueue
    refine .idle rfl hqueue fun id found hfound hfor => ?_
    have hmem := hothers id found hfound hfor
    rw [hqueue] at hmem
    cases hmem
  · rename_i next rest hqueue
    change activity.queue = next :: rest at hqueue
    rw [hqueue, List.nodup_cons] at hdistinct
    simp only [hqueue, List.mem_cons] at hqueues hothers
    refine .held next .turn ⟨rfl, hdistinct.1, hdistinct.2, ?_, ?_⟩
      (hqueues next (.inl rfl)) trivial
    · exact fun id hid => hqueues id (.inr hid)
    · exact fun id found hfound hfor hother => (hothers id found hfound hfor).resolve_left hother

theorem Turns.fetching (h : activity.Turns) (hfetching : activity.Fetching id) :
    activity.fetching = some id ∧ activity.Behind id := by
  obtain ⟨user, unwrapBKey, hwaiting⟩ := hfetching
  cases h with
  | idle hfree hqueue hnone => exact absurd trivial (hnone id _ hwaiting)
  | held holder _ hbehind =>
    by_cases hid : id = holder
    · exact ⟨hid ▸ hbehind.holds, hid ▸ hbehind⟩
    · -- The others queue, and a call that queues does not wait for keys.
      have hqueued := hbehind.queues id (hbehind.others id _ hwaiting trivial hid)
      rw [hwaiting] at hqueued
      cases hqueued

theorem Turns.alone (h : activity.Turns) (hfetching : activity.Fetching id)
    (hother : activity.Fetching other) : other = id := by
  have hid := (h.fetching hfetching).1
  rw [(h.fetching hother).1] at hid
  exact Option.some.inj hid

/-- A call that queues for its turn is behind one that holds the right, or its turn has come. -/
theorem Turns.behind (h : activity.Turns) (hwaiting : activity.waiting? id = some .turn) :
    ∃ holder, activity.Behind holder ∧ (id = holder ∨ id ∈ activity.queue) := by
  cases h with
  | idle hfree hqueue hnone => exact absurd trivial (hnone id _ hwaiting)
  | held holder _ hbehind =>
    refine ⟨holder, hbehind, ?_⟩
    by_cases hid : id = holder
    · exact .inl hid
    · exact .inr (hbehind.others id _ hwaiting trivial hid)

/-! ### One move -/

theorem Turns.poll (h : activity.Turns)
    (hbefore : ∀ waiting, activity.waiting? id = some waiting → ¬ waiting.ForKeys)
    (continued : Step (Session σ) (Except AccountError PollPlan)) :
    (activity.continuePoll id continued).state.Turns := by
  have hafter (found : Waiting)
      (hfound : (activity.continuePoll id continued).state.waiting? id = some found) :
      ¬ found.ForKeys := by
    obtain ⟨plan, -, hplan⟩ := of_waiting?_continuePoll hfound
    exact PollPlan.not_forKeys hplan
  have hsame {other : CallId} (hother : other ≠ id) :
      (activity.continuePoll id continued).state.waiting? other = activity.waiting? other := by
    rw [waiting?_continuePoll, if_neg hother]
  cases h with
  | idle hfree hqueue hnone =>
    refine .idle (by simp [hfree]) (by simp [hqueue]) fun other found hfound => ?_
    by_cases hother : other = id
    · exact hafter found (hother ▸ hfound)
    · rw [hsame hother] at hfound
      exact hnone other found hfound
  | held holder waiting hbehind hwaiting hfor =>
    have hpolls {other : CallId} {found : Waiting} (hfound : activity.waiting? other = some found)
        (hwants : found.ForKeys) : other ≠ id := by
      rintro rfl
      exact hbefore found hfound hwants
    refine .held holder waiting ⟨?_, ?_, ?_, ?_, ?_⟩
      ((hsame (hpolls hwaiting hfor)).trans hwaiting) hfor
    · rw [fetching_continuePoll, hbehind.holds]
    · rw [queue_continuePoll]
      exact hbehind.left
    · rw [queue_continuePoll]
      exact hbehind.distinct
    · intro other hqueued
      rw [queue_continuePoll] at hqueued
      have hturn := hbehind.queues other hqueued
      rw [hsame (hpolls hturn trivial)]
      exact hturn
    · intro other found hfound hwants hne
      rw [queue_continuePoll]
      by_cases hother : other = id
      · exact absurd hwants (hafter found (hother ▸ hfound))
      · rw [hsame hother] at hfound
        exact hbehind.others other found hfound hwants hne

theorem Turns.join (h : activity.Turns) (hnew : activity.waiting? id = none)
    (hheld : activity.fetching ≠ none) :
    (Activity.suspend { activity with queue := activity.queue ++ [id] } id .turn).Turns := by
  cases h with
  | idle hfree => exact absurd hfree hheld
  | held holder waiting hbehind hwaiting hfor =>
    have hholder : id ≠ holder := by
      rintro rfl
      rw [hnew] at hwaiting
      cases hwaiting
    have hqueued : id ∉ activity.queue := by
      intro hmem
      have hturn := hbehind.queues id hmem
      rw [hnew] at hturn
      cases hturn
    have hsame {other : CallId} (hother : other ≠ id) :
        (Activity.suspend { activity with queue := activity.queue ++ [id] } id .turn).waiting?
          other = activity.waiting? other := by
      rw [waiting?_suspend, if_neg hother]
      rfl
    refine .held holder waiting ⟨?_, ?_, ?_, ?_, ?_⟩ ((hsame hholder.symm).trans hwaiting) hfor
    · rw [fetching_suspend, hbehind.holds]
    · rw [queue_suspend, List.mem_append, List.mem_singleton]
      exact fun hmem => hmem.elim hbehind.left hholder.symm
    · rw [queue_suspend, List.nodup_append]
      refine ⟨hbehind.distinct, by simp, fun other hmem last hlast => ?_⟩
      obtain rfl := List.mem_singleton.1 hlast
      rintro rfl
      exact hqueued hmem
    · intro other hmem
      by_cases hother : other = id
      · rw [hother, waiting?_suspend, if_pos rfl]
      · rw [queue_suspend, List.mem_append, List.mem_singleton] at hmem
        rw [hsame hother]
        exact hbehind.queues other (hmem.resolve_right hother)
    · intro other found hfound hwants hne
      rw [queue_suspend, List.mem_append, List.mem_singleton]
      by_cases hother : other = id
      · exact .inr hother
      · rw [hsame hother] at hfound
        exact .inl (hbehind.others other found hfound hwants hne)

theorem Turns.drop (h : activity.Turns) (hwaiting : activity.waiting? id = some waiting) :
    (activity.dropCall id).Turns := by
  have hforgotten {other : CallId} (hother : other ≠ id) :
      (activity.forget id).waiting? other = activity.waiting? other := by
    rw [waiting?_forget, if_neg hother]
  have hgone : (activity.forget id).waiting? id = none := by rw [waiting?_forget, if_pos rfl]
  unfold dropCall
  dsimp only
  cases h with
  | idle hfree hqueue hnone =>
    rw [if_neg (by simp [hfree])]
    refine .idle hfree (by simp [forget, hqueue]) fun other found hfound => ?_
    change (activity.forget id).waiting? other = some found at hfound
    by_cases hother : other = id
    · rw [hother, hgone] at hfound
      cases hfound
    · rw [hforgotten hother] at hfound
      exact hnone other found hfound
  | held holder held hbehind hholds hfor =>
    by_cases hid : holder = id
    · subst hid
      rw [if_pos hbehind.holds]
      exact hbehind.leave
    · rw [if_neg fun hsame => hid (Option.some.inj (hbehind.holds.symm.trans hsame))]
      refine .held holder held ⟨hbehind.holds, ?_, hbehind.distinct.filter _, ?_, ?_⟩
        ((hforgotten hid).trans hholds) hfor
      · exact fun hmem => hbehind.left (List.mem_filter.1 hmem).1
      · intro other hmem
        obtain ⟨hqueued, hother⟩ := List.mem_filter.1 hmem
        exact (hforgotten (by simpa using hother)).trans (hbehind.queues other hqueued)
      · intro other found hfound hwants hne
        change (activity.forget id).waiting? other = some found at hfound
        by_cases hother : other = id
        · rw [hother, hgone] at hfound
          cases hfound
        · rw [hforgotten hother] at hfound
          exact List.mem_filter.2
            ⟨hbehind.others other found hfound hwants hne, by simpa using hother⟩

section Step

open Storage

variable [CredentialStore σ] {move : Move σ} {step : Step (Activity σ) Reply}

theorem Behind.enterKeys (h : activity.Behind holder) :
    (activity.enterKeys holder).state.Turns := by
  have hmoved : Behind { activity with session := activity.session.beginKeys.state } holder :=
    ⟨h.holds, h.left, h.distinct, h.queues, h.others⟩
  unfold Activity.enterKeys
  dsimp only
  split
  · exact hmoved.leave
  · exact hmoved.leave
  · exact hmoved.suspend trivial

/-- The calls go on taking turns. -/
theorem turns_step (hstep : activity.step? move = some step) (h : activity.Turns) :
    step.state.Turns := by
  have hsession (session : Session σ) : Turns { activity with session } := by
    cases h with
    | idle hfree hqueue hnone => exact .idle hfree hqueue hnone
    | held holder waiting hbehind hwaiting hfor =>
      exact .held holder waiting
        ⟨hbehind.holds, hbehind.left, hbehind.distinct, hbehind.queues, hbehind.others⟩
        hwaiting hfor
  cases allows_of_step? hstep with
  | look | evict | signIn | signOut | alterStore => exact hsession _
  | @beginKeys id hnew hfree =>
    refine Behind.enterKeys ?_
    cases h with
    | idle _ hqueue hnone =>
      refine ⟨rfl, ?_, ?_, ?_, fun other found hfound hfor => ?_⟩
      · simp [hqueue]
      · simp [hqueue]
      · simp [hqueue]
      · exact absurd hfor (hnone other found hfound)
    | held _ _ hbehind =>
      rw [hbehind.holds] at hfree
      cases hfree
  | queueKeys hnew hheld => exact h.join hnew hheld
  | takeTurn hturn hwaiting =>
    obtain ⟨holder, hbehind, -⟩ := h.behind hwaiting
    obtain rfl := Option.some.inj (hturn.symm.trans hbehind.holds)
    exact hbehind.enterKeys
  | answerKeys hwaiting answer =>
    have hbehind := (h.fetching ⟨_, _, hwaiting⟩).2
    exact Behind.leave ⟨hbehind.holds, hbehind.left, hbehind.distinct, hbehind.queues,
      hbehind.others⟩
  | beginVerification hnew given =>
    refine h.poll (fun waiting hwaiting => ?_) _
    rw [hnew] at hwaiting
    cases hwaiting
  | answerStatus hasked | wake hasked =>
    refine h.poll (fun waiting hwaiting => ?_) _
    rw [hasked] at hwaiting
    cases hwaiting
    exact fun hfor => hfor
  | drop hwaiting => exact h.drop hwaiting

/-- Once keys have come nobody waits for any. -/
theorem Turns.none_after_answer {answer : Except RemoteError KeyBundle} (h : activity.Turns)
    (hstep : activity.step? (.answerKeys holder answer) = some step) :
    ¬ step.state.Fetching id := by
  rintro ⟨user, unwrapBKey, hafter⟩
  cases allows_of_step? hstep with
  | answerKeys hwaiting =>
    rw [waiting?_returnKeys] at hafter
    split at hafter
    · cases hafter
    · rename_i hother
      exact hother (h.alone ⟨_, _, hwaiting⟩ ⟨_, _, hafter⟩)

theorem turns_of_run {start finish : Activity σ} {history : History σ} (hopened : start.Opened)
    (run : Run step? start history finish) : finish.Turns := by
  refine run.invariant (P := Turns) ?_ turns_step
  obtain ⟨store, polling, rfl⟩ := hopened
  exact .idle rfl rfl fun id waiting hwaiting => by cases hwaiting

end Step

end Activity

end AccountManager.Session
