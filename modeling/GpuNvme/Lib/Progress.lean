import GpuNvme.Lib.Transition
import Mathlib.Data.Nat.Init
import Mathlib.Algebra.Group.Nat.Defs

/-!
# Progress of fair executions

An execution is an infinite run of a labelled transition system whose actions
belong to threads.  It is just when no thread that is enabled for good is left
out for good.

In every state short of a goal some thread is the helpful one: its steps lower
a measure, nobody's step raises it, and until it is lowered the same thread
stays helpful and enabled.  That is enough for every just execution to reach
the goal.
-/

namespace GpuNvme.Lib.Progress

open GpuNvme.Lib.Transition

variable {σ α τ : Type*}

/-! ## Executions -/

/-- An infinite run. -/
structure Execution (step : σ → α → Option σ) where
  state : Nat → σ
  action : Nat → α
  steps : ∀ time, step (state time) (action time) = some (state (time + 1))

/-- Some action of the thread is enabled. -/
def Enabled (step : σ → α → Option σ) (thread : α → Option τ) (who : τ)
    (state : σ) : Prop :=
  ∃ action, thread action = some who ∧ (step state action).isSome = true

/-- A thread that is enabled for good acts again. -/
def Execution.Just {step : σ → α → Option σ} (run : Execution step)
    (thread : α → Option τ) : Prop :=
  ∀ who time,
    (∀ later, time ≤ later → Enabled step thread who (run.state later)) →
      ∃ later, time ≤ later ∧ thread (run.action later) = some who

/-! ## Helpful threads -/

/--
What makes a goal the work of helpful threads, for states that meet an
invariant; nothing is asked of a step that reaches the goal.
-/
structure Helpful (step : σ → α → Option σ) (thread : α → Option τ)
    (holds goal : σ → Prop) (measure : σ → Nat) (helper : σ → τ) : Prop where
  preserved :
    ∀ {state action next}, holds state → ¬goal state →
      step state action = some next → ¬goal next → holds next
  enabled :
    ∀ {state}, holds state → ¬goal state →
      Enabled step thread (helper state) state
  measure_le :
    ∀ {state action next}, holds state → ¬goal state →
      step state action = some next → ¬goal next →
        measure next ≤ measure state
  helps :
    ∀ {state action next}, holds state → ¬goal state →
      step state action = some next → ¬goal next →
        thread action = some (helper state) → measure next < measure state
  stays :
    ∀ {state action next}, holds state → ¬goal state →
      step state action = some next → ¬goal next →
        measure next = measure state → helper next = helper state

namespace Helpful

variable {step : σ → α → Option σ} {thread : α → Option τ}
variable {holds goal : σ → Prop} {measure : σ → Nat} {helper : σ → τ}

/-- Short of the goal the invariant stays and the measure never grows. -/
theorem short_of_goal
    (helpful : Helpful step thread holds goal measure helper)
    (run : Execution step) {time : Nat} (start : holds (run.state time))
    (never : ∀ later, time ≤ later → ¬goal (run.state later))
    {later : Nat} (after : time ≤ later) :
    holds (run.state later) ∧
      measure (run.state later) ≤ measure (run.state time) := by
  induction later, after using Nat.le_induction with
  | base => exact ⟨start, Nat.le_refl _⟩
  | succ later after induction =>
      obtain ⟨held, bounded⟩ := induction
      have short := never later after
      have stillShort := never (later + 1) (Nat.le_succ_of_le after)
      constructor
      · exact helpful.preserved held short (run.steps later) stillShort
      · exact
          Nat.le_trans
            (helpful.measure_le held short (run.steps later) stillShort)
            bounded

/-- A measure that is never lowered leaves the helpful thread as it is. -/
theorem helper_stays
    (helpful : Helpful step thread holds goal measure helper)
    (run : Execution step) {time : Nat} (start : holds (run.state time))
    (never : ∀ later, time ≤ later → ¬goal (run.state later))
    (level :
      ∀ later, time ≤ later →
        measure (run.state time) ≤ measure (run.state later))
    {later : Nat} (after : time ≤ later) :
    helper (run.state later) = helper (run.state time) := by
  induction later, after using Nat.le_induction with
  | base => rfl
  | succ later after induction =>
      obtain ⟨held, bounded⟩ := helpful.short_of_goal run start never after
      have nextAfter : time ≤ later + 1 := Nat.le_succ_of_le after
      have next_le := (helpful.short_of_goal run start never nextAfter).2
      have same :
          measure (run.state (later + 1)) = measure (run.state later) := by
        have lower := level later after
        have nextLower := level (later + 1) nextAfter
        omega
      rw [← induction]
      exact
        helpful.stays held (never later after) (run.steps later)
          (never (later + 1) nextAfter) same

/-- Short of the goal the measure is lowered sooner or later. -/
theorem exists_lower
    (helpful : Helpful step thread holds goal measure helper)
    (run : Execution step) (just : run.Just thread) {time : Nat}
    (start : holds (run.state time))
    (never : ∀ later, time ≤ later → ¬goal (run.state later)) :
    ∃ later, time ≤ later ∧
      measure (run.state later) < measure (run.state time) := by
  by_contra none
  have level : ∀ later, time ≤ later →
      measure (run.state time) ≤ measure (run.state later) := by
    intro later after
    by_contra lower
    exact none ⟨later, after, Nat.lt_of_not_le lower⟩
  have enabled : ∀ later, time ≤ later →
      Enabled step thread (helper (run.state time)) (run.state later) := by
    intro later after
    rw [← helpful.helper_stays run start never level after]
    exact
      helpful.enabled (helpful.short_of_goal run start never after).1
        (never later after)
  obtain ⟨later, after, acts⟩ := just (helper (run.state time)) time enabled
  obtain ⟨held, bounded⟩ := helpful.short_of_goal run start never after
  rw [← helpful.helper_stays run start never level after] at acts
  have lowered :=
    helpful.helps held (never later after) (run.steps later)
      (never (later + 1) (Nat.le_succ_of_le after)) acts
  have nextLevel := level (later + 1) (Nat.le_succ_of_le after)
  omega

/-- Every just execution reaches the goal. -/
theorem eventually
    (helpful : Helpful step thread holds goal measure helper)
    (run : Execution step) (just : run.Just thread) {time : Nat}
    (start : holds (run.state time)) :
    ∃ later, time ≤ later ∧ goal (run.state later) := by
  induction bound : measure (run.state time) using Nat.strongRecOn
    generalizing time with
  | ind size induction =>
      by_contra none
      have never : ∀ later, time ≤ later → ¬goal (run.state later) :=
        fun later after reached => none ⟨later, after, reached⟩
      obtain ⟨later, after, lower⟩ :=
        helpful.exists_lower run just start never
      have held := (helpful.short_of_goal run start never after).1
      obtain ⟨last, afterLater, reached⟩ :=
        induction _ (bound ▸ lower) held rfl
      exact none ⟨last, Nat.le_trans after afterLater, reached⟩

end Helpful

/-! ## Executions that come to rest -/

/-- A prefix of a run is a run. -/
theorem exec_take {step : σ → α → Option σ} {start final : σ}
    {actions : List α} (run : exec step start actions = some final)
    (time : Nat) :
    ∃ middle, exec step start (actions.take time) = some middle := by
  rw [← List.take_append_drop time actions] at run
  obtain ⟨middle, first, -⟩ := exec_append.mp run
  exact ⟨middle, first⟩

/-- A finite run, continued by an action that changes nothing any more. -/
def Execution.atRest {step : σ → α → Option σ} {start final : σ}
    {actions : List α} {idle : α}
    (run : exec step start actions = some final)
    (rests : step final idle = some final) : Execution step where
  state time := (exec step start (actions.take time)).getD start
  action time := actions[time]?.getD idle
  steps time := by
    obtain ⟨before, reached⟩ := exec_take run time
    obtain ⟨after, next⟩ := exec_take run (time + 1)
    rw [reached, next, Option.getD_some, Option.getD_some]
    rcases Nat.lt_or_ge time actions.length with inside | beyond
    · rw [List.take_succ_eq_append_getElem inside] at next
      obtain ⟨middle, first, last⟩ := exec_append.mp next
      obtain rfl : before = middle :=
        Option.some.inj (reached.symm.trans first)
      obtain ⟨other, stepped, ended⟩ := exec_cons_eq_some.mp last
      obtain rfl : other = after := Option.some.inj ended
      rw [List.getElem?_eq_getElem inside, Option.getD_some]
      exact stepped
    · rw [List.take_of_length_le beyond] at reached
      rw [List.take_of_length_le (Nat.le_succ_of_le beyond)] at next
      obtain rfl : final = before :=
        Option.some.inj (run.symm.trans reached)
      obtain rfl : final = after := Option.some.inj (run.symm.trans next)
      rw [List.getElem?_eq_none beyond, Option.getD_none]
      exact rests

section AtRest

variable {step : σ → α → Option σ} {start final : σ} {actions : List α}
variable {idle : α}

theorem Execution.atRest_state (run : exec step start actions = some final)
    (rests : step final idle = some final) {time : Nat}
    (after : actions.length ≤ time) :
    (Execution.atRest run rests).state time = final := by
  simp only [Execution.atRest, List.take_of_length_le after, run,
    Option.getD_some]

theorem Execution.atRest_action (run : exec step start actions = some final)
    (rests : step final idle = some final) {time : Nat}
    (after : actions.length ≤ time) :
    (Execution.atRest run rests).action time = idle := by
  simp only [Execution.atRest, List.getElem?_eq_none after, Option.getD_none]

/-- At rest it is enough that no other thread could act. -/
theorem Execution.atRest_just {thread : α → Option τ}
    (run : exec step start actions = some final)
    (rests : step final idle = some final)
    (only :
      ∀ who, Enabled step thread who final → thread idle = some who) :
    (Execution.atRest run rests).Just thread := by
  intro who time enabled
  have after : actions.length ≤ max time actions.length :=
    Nat.le_max_right _ _
  have acts := enabled (max time actions.length) (Nat.le_max_left _ _)
  rw [Execution.atRest_state run rests after] at acts
  refine ⟨max time actions.length, Nat.le_max_left _ _, ?_⟩
  rw [Execution.atRest_action run rests after]
  exact only who acts

end AtRest

end GpuNvme.Lib.Progress
