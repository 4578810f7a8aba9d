import AccountManager.Effect
import Mathlib.Data.List.Induction

/-!
# Runs

A run is a list of moves, each made in the state that the one before it left. The move is kept
together with that state and with what came of it, so that a statement about a run can speak of the
past: which call was started when, and what was answered to it.
-/

namespace AccountManager

/-- A move that was made: the state it was made in, and what came of it. -/
structure Made (σ μ β : Type) where
  before : σ
  move : μ
  step : Step σ β

variable {σ μ β : Type}

def Made.after (made : Made σ μ β) : σ := made.step.state

/-- Whether some moves lead from one state to another. -/
def Run (step? : σ → μ → Option (Step σ β)) (start : σ) : List (Made σ μ β) → σ → Prop
  | [], finish => start = finish
  | made :: rest, finish =>
    made.before = start ∧ step? start made.move = some made.step ∧ Run step? made.after rest finish

variable {step? : σ → μ → Option (Step σ β)} {start finish : σ} {past rest : List (Made σ μ β)}
  {made : Made σ μ β}

theorem run_append :
    Run step? start (past ++ rest) finish ↔
      ∃ middle, Run step? start past middle ∧ Run step? middle rest finish := by
  induction past generalizing start with
  | nil => simp [Run]
  | cons made past ih => simp [Run, ih, and_assoc]

theorem run_concat :
    Run step? start (past ++ [made]) finish ↔
      Run step? start past made.before ∧ step? made.before made.move = some made.step ∧
        made.after = finish := by
  rw [run_append]
  constructor
  · rintro ⟨middle, hpast, rfl, hstep, hfinish⟩
    exact ⟨hpast, hstep, hfinish⟩
  · rintro ⟨hpast, hstep, hfinish⟩
    exact ⟨made.before, hpast, rfl, hstep, hfinish⟩

theorem Run.last {history : List (Made σ μ β)} (run : Run step? start history finish) :
    history.foldl (fun _ made => made.after) start = finish := by
  induction history generalizing start with
  | nil => exact run
  | cons made rest ih => exact ih run.2.2

/-- A run cut at one of its moves. -/
theorem Run.cut (run : Run step? start (past ++ made :: rest) finish) :
    Run step? start past made.before ∧ step? made.before made.move = some made.step ∧
      Run step? made.after rest finish := by
  obtain ⟨middle, hpast, rfl, hstep, hrest⟩ := run_append.1 run
  exact ⟨hpast, hstep, hrest⟩

/-- Each move of a run was made in a state that the run had reached. -/
theorem Run.reached (run : Run step? start past finish) (hmade : made ∈ past) :
    ∃ earlier, Run step? start earlier made.before ∧
      step? made.before made.move = some made.step := by
  obtain ⟨earlier, rest, rfl⟩ := List.append_of_mem hmade
  exact ⟨earlier, run.cut.1, run.cut.2.1⟩

theorem Run.unique {history others : List (Made σ μ β)} {last : σ}
    (run : Run step? start history finish) (hother : Run step? start others last)
    (hmoves : others.map Made.move = history.map Made.move) : others = history := by
  induction history generalizing start others with
  | nil => exact List.map_eq_nil_iff.1 hmoves
  | cons made rest ih =>
    obtain ⟨other, later, rfl, hmove, hlater⟩ := List.map_eq_cons_iff.1 hmoves
    obtain ⟨hbefore, hstep, hrest⟩ := run
    obtain ⟨hotherBefore, hotherStep, hotherRest⟩ := hother
    obtain rfl : other = made := by
      obtain ⟨before, move, step⟩ := made
      obtain ⟨otherBefore, otherMove, otherStep⟩ := other
      dsimp only at hbefore hstep hotherBefore hotherStep hmove
      subst hbefore hotherBefore hmove
      cases hstep.symm.trans hotherStep
      rfl
    rw [ih hrest hotherRest hlater]

/-- What holds at the start and is kept by a move holds at the end, where the move may look at all
that was done before it. -/
theorem Run.induction {P : List (Made σ μ β) → σ → Prop} {history : List (Made σ μ β)}
    (run : Run step? start history finish) (hstart : P [] start)
    (hmove : ∀ past made, Run step? start past made.before →
      step? made.before made.move = some made.step → P past made.before →
        P (past ++ [made]) made.after) :
    P history finish := by
  induction history using List.reverseRecOn generalizing finish with
  | nil =>
    obtain rfl : start = finish := run
    exact hstart
  | append_singleton past made ih =>
    obtain ⟨hpast, hstep, rfl⟩ := run_concat.1 run
    exact hmove past made hpast hstep (ih hpast)

/-- The same from a move on: what holds after it and is kept by every later move holds at the end.
What was done up to a later move is a beginning of the run. -/
theorem Run.induction_after {P : List (Made σ μ β) → σ → Prop} {later : List (Made σ μ β)}
    (run : Run step? start (past ++ made :: later) finish) (hafter : P [] made.after)
    (hmove : ∀ between other, other ∈ later → past ++ made :: between <+: past ++ made :: later →
      Run step? start (past ++ made :: between) other.before →
        step? other.before other.move = some other.step → P between other.before →
          P (between ++ [other]) other.after) :
    P later finish := by
  induction later using List.reverseRecOn generalizing finish with
  | nil =>
    obtain ⟨-, -, rfl⟩ := run_concat.1 run
    exact hafter
  | append_singleton between other ih =>
    have hsofar : past ++ made :: between <+: past ++ made :: (between ++ [other]) := by simp
    rw [← List.cons_append, ← List.append_assoc] at run
    obtain ⟨hcut, hstep, rfl⟩ := run_concat.1 run
    refine hmove between other (by simp) hsofar hcut hstep (ih hcut ?_)
    intro earlier next hnext hearlier
    exact hmove earlier next (List.mem_append_left _ hnext) (hearlier.trans hsofar)

/-- What the moves of a run keep holds at the end if it holds at the start. -/
theorem Run.kept {P : σ → Prop} {history : List (Made σ μ β)}
    (run : Run step? start history finish) (hstart : P start)
    (hmove : ∀ made ∈ history, step? made.before made.move = some made.step →
      P made.before → P made.after) :
    P finish := by
  induction history generalizing start with
  | nil =>
    obtain rfl : start = finish := run
    exact hstart
  | cons made rest ih =>
    obtain ⟨rfl, hstep, hrest⟩ := run
    exact ih hrest (hmove made List.mem_cons_self hstep hstart) fun other hother =>
      hmove other (List.mem_cons_of_mem made hother)

theorem Run.invariant {P : σ → Prop} {history : List (Made σ μ β)}
    (run : Run step? start history finish) (hstart : P start)
    (hmove : ∀ {state move step}, step? state move = some step → P state → P step.state) :
    P finish :=
  run.kept hstart fun _ _ => hmove

theorem Run.le {history : List (Made σ μ β)} (run : Run step? start history finish)
    (measure : σ → Nat)
    (hmono : ∀ made ∈ history, measure made.before ≤ measure made.after) :
    measure start ≤ measure finish := by
  induction history generalizing start with
  | nil =>
    obtain rfl : start = finish := run
    exact Nat.le_refl _
  | cons made rest ih =>
    obtain ⟨rfl, -, hrest⟩ := run
    exact Nat.le_trans (hmono made List.mem_cons_self)
      (ih hrest fun other hother => hmono other (List.mem_cons_of_mem made hother))

private theorem Run.not_crossed_twice {past later rest : List (Made σ μ β)} {made : Made σ μ β}
    {other : Made σ μ β} {measure : σ → Nat} {number : Nat}
    (run : Run step? start (past ++ other :: (later ++ made :: rest)) finish)
    (hmono : ∀ between ∈ later, measure between.before ≤ measure between.after)
    (hother : number ≤ measure other.after) : ¬ measure made.before < number := by
  have hlater := (run.cut.2.2).cut.1.le _ hmono
  omega

/-- A measure that no move lowers passes a number in one move only. -/
theorem Run.crossed_once {history : List (Made σ μ β)} {made other : Made σ μ β} {number : Nat}
    (run : Run step? start history finish) (measure : σ → Nat)
    (hmono : ∀ made ∈ history, measure made.before ≤ measure made.after)
    (hmade : made ∈ history) (hother : other ∈ history)
    (hcrosses : measure made.before < number ∧ number ≤ measure made.after)
    (hcrossesToo : measure other.before < number ∧ number ≤ measure other.after) :
    other = made := by
  obtain ⟨past, rest, rfl⟩ := List.append_of_mem hmade
  rcases List.mem_append.1 hother with hpast | hrest
  · obtain ⟨earlier, later, rfl⟩ := List.append_of_mem hpast
    rw [List.append_assoc, List.cons_append] at run
    refine absurd hcrosses.1 (run.not_crossed_twice (fun between hbetween => ?_) hcrossesToo.2)
    exact hmono between (by simp [hbetween])
  · rcases List.mem_cons.1 hrest with rfl | hrest
    · rfl
    · obtain ⟨later, after, rfl⟩ := List.append_of_mem hrest
      refine absurd hcrossesToo.1 (run.not_crossed_twice (fun between hbetween => ?_) hcrosses.2)
      exact hmono between (by simp [hbetween])

/-! ### The last move of a kind -/

section LastOf

variable {Kind : Made σ μ β → Prop} {history : List (Made σ μ β)} {other : Made σ μ β}

/-- Whether a move is the last of its kind in a history. -/
def LastOf (Kind : Made σ μ β → Prop) (history : List (Made σ μ β)) (made : Made σ μ β) : Prop :=
  ∃ past rest, history = past ++ made :: rest ∧ Kind made ∧ ∀ other ∈ rest, ¬ Kind other

theorem LastOf.of_concat (past : List (Made σ μ β)) (hkind : Kind made) :
    LastOf Kind (past ++ [made]) made :=
  ⟨past, [], rfl, hkind, fun other hother => (by cases hother)⟩

theorem LastOf.concat (h : LastOf Kind history made) (hother : ¬ Kind other) :
    LastOf Kind (history ++ [other]) made := by
  obtain ⟨past, rest, rfl, hkind, hrest⟩ := h
  refine ⟨past, rest ++ [other], by simp, hkind, fun later hlater => ?_⟩
  rcases List.mem_append.1 hlater with hlater | hlater
  · exact hrest later hlater
  · obtain rfl := List.mem_singleton.1 hlater
    exact hother

theorem LastOf.mem (h : LastOf Kind history made) : made ∈ history := by
  obtain ⟨past, rest, rfl, -, -⟩ := h
  exact List.mem_append_right past List.mem_cons_self

theorem LastOf.unique (h : LastOf Kind history made) (hother : LastOf Kind history other) :
    other = made := by
  obtain ⟨past, rest, rfl, hkind, hrest⟩ := h
  obtain ⟨earlier, later, heq, hkindToo, hlater⟩ := hother
  rcases List.append_eq_append_iff.1 heq with ⟨between, rfl, hbetween⟩ | ⟨between, rfl, hbetween⟩
  · cases between with
    | nil => exact (List.cons.inj hbetween).1.symm
    | cons first between =>
      obtain ⟨rfl, rfl⟩ := List.cons.inj hbetween
      exact absurd hkindToo (hrest other (by simp))
  · cases between with
    | nil => exact (List.cons.inj hbetween).1
    | cons first between =>
      obtain ⟨rfl, rfl⟩ := List.cons.inj hbetween
      exact absurd hkind (hlater made (by simp))

end LastOf

/-! ### Playing -/

/-- The moves of a list that can be made one after the other, up to the first that cannot. -/
def played (step? : σ → μ → Option (Step σ β)) (start : σ) : List μ → List (Made σ μ β)
  | [] => []
  | move :: rest =>
    match step? start move with
    | none => []
    | some step => ⟨start, move, step⟩ :: played step? step.state rest

theorem run_played (step? : σ → μ → Option (Step σ β)) (start : σ) (moves : List μ) :
    ∃ finish, Run step? start (played step? start moves) finish := by
  induction moves generalizing start with
  | nil => exact ⟨start, rfl⟩
  | cons move rest ih =>
    unfold played
    cases hstep : step? start move with
    | none => exact ⟨start, rfl⟩
    | some step =>
      obtain ⟨finish, hrest⟩ := ih step.state
      exact ⟨finish, rfl, hstep, hrest⟩

end AccountManager
