import Mathlib.Tactic.Common

/-!
# Executable labelled transition systems

A system is a partial step function: an action either is enabled in a state
and leads to one successor, or is not enabled.  Nondeterminism sits entirely
in the choice of the next action, so a run is a list of actions and every
definition of this file computes.

The file supplies runs, the restriction of a system to the steps that meet a
side condition, the invariant rules for both, and `Inevitable`, the statement
that every maximal run reaches a goal in finitely many steps.
-/

namespace GpuNvme.Lib.Transition

variable {σ α : Type*}

/-! ## Runs -/

/-- Execute a list of actions, failing at the first one that is not enabled. -/
def exec (step : σ → α → Option σ) : σ → List α → Option σ
  | state, [] => some state
  | state, action :: rest =>
      (step state action).bind fun next => exec step next rest

@[simp]
theorem exec_nil (step : σ → α → Option σ) (state : σ) :
    exec step state [] = some state :=
  rfl

theorem exec_cons (step : σ → α → Option σ) (state : σ)
    (action : α) (rest : List α) :
    exec step state (action :: rest) =
      (step state action).bind fun next => exec step next rest :=
  rfl

theorem exec_cons_eq_some {step : σ → α → Option σ}
    {state final : σ} {action : α} {rest : List α} :
    exec step state (action :: rest) = some final ↔
      ∃ next, step state action = some next ∧
        exec step next rest = some final := by
  rw [exec_cons, Option.bind_eq_some_iff]

theorem exec_append {step : σ → α → Option σ}
    {state final : σ} {first second : List α} :
    exec step state (first ++ second) = some final ↔
      ∃ middle, exec step state first = some middle ∧
        exec step middle second = some final := by
  induction first generalizing state with
  | nil => simp
  | cons action rest induction =>
      simp only [List.cons_append, exec_cons_eq_some, induction]
      constructor
      · rintro ⟨next, enabled, middle, firstRun, secondRun⟩
        exact ⟨middle, ⟨next, enabled, firstRun⟩, secondRun⟩
      · rintro ⟨middle, ⟨next, enabled, firstRun⟩, secondRun⟩
        exact ⟨next, enabled, middle, firstRun, secondRun⟩

/-- What the steps of some actions preserve, runs of these preserve. -/
theorem exec_invariant_of_forall {step : σ → α → Option σ} {holds : σ → Prop}
    {allowed : α → Prop}
    (preserved :
      ∀ state action next, holds state → allowed action →
        step state action = some next → holds next)
    {state final : σ} {actions : List α}
    (start : holds state) (all : ∀ action ∈ actions, allowed action)
    (run : exec step state actions = some final) :
    holds final := by
  induction actions generalizing state with
  | nil =>
      cases run
      exact start
  | cons action rest induction =>
      obtain ⟨next, enabled, tail⟩ := exec_cons_eq_some.mp run
      obtain ⟨here, later⟩ := List.forall_mem_cons.mp all
      exact
        induction (preserved state action next start here enabled) later tail

/-- What every step preserves, every run preserves. -/
theorem exec_invariant {step : σ → α → Option σ} {holds : σ → Prop}
    (preserved :
      ∀ state action next, holds state →
        step state action = some next → holds next)
    {state final : σ} {actions : List α}
    (start : holds state)
    (run : exec step state actions = some final) :
    holds final :=
  exec_invariant_of_forall
    (fun state action next kept (_ : True) =>
      preserved state action next kept)
    start (fun _ _ => trivial) run

/-- Where every action is enabled and keeps the invariant, no run gets stuck. -/
theorem exec_total {step : σ → α → Option σ} {holds : σ → Prop}
    (enabled :
      ∀ state action, holds state →
        ∃ next, step state action = some next ∧ holds next)
    {state : σ} (start : holds state) (actions : List α) :
    ∃ final, exec step state actions = some final ∧ holds final := by
  induction actions generalizing state with
  | nil => exact ⟨state, rfl, start⟩
  | cons action rest induction =>
      obtain ⟨next, first, kept⟩ := enabled state action start
      obtain ⟨final, run, last⟩ := induction kept
      exact ⟨final, exec_cons_eq_some.mpr ⟨next, first, run⟩, last⟩

/--
A system simulated by a total specification that reads the same actions; an
action the specification ignores leaves its state alone.
-/
theorem exec_simulated {β : Type*} {step : σ → α → Option σ}
    {spec : β → α → β} {related : σ → β → Prop}
    (simulated :
      ∀ state abstract action next, related state abstract →
        step state action = some next →
        related next (spec abstract action))
    {state final : σ} {abstract : β} {actions : List α}
    (start : related state abstract)
    (run : exec step state actions = some final) :
    related final (actions.foldl spec abstract) := by
  induction actions generalizing state abstract with
  | nil =>
      cases run
      exact start
  | cons action rest induction =>
      obtain ⟨next, enabled, tail⟩ := exec_cons_eq_some.mp run
      exact induction (simulated state abstract action next start enabled) tail

/-- What holds of every step of a run, read off its first step and the rest. -/
theorem steps_cons {step : σ → α → σ} {good : σ → α → Prop}
    {state : σ} {action : α} {rest : List α} :
    (∀ earlier now later, action :: rest = earlier ++ now :: later →
        good (earlier.foldl step state) now) ↔
      good state action ∧
        ∀ earlier now later, rest = earlier ++ now :: later →
          good (earlier.foldl step (step state action)) now := by
  constructor
  · intro all
    refine ⟨all [] action rest rfl, ?_⟩
    rintro earlier now later rfl
    exact all (action :: earlier) now later rfl
  · rintro ⟨first, others⟩ earlier now later split
    cases earlier with
    | nil =>
        obtain ⟨rfl, -⟩ := List.cons.inj split
        exact first
    | cons _ earlier =>
        obtain ⟨rfl, tail⟩ := List.cons.inj split
        exact others earlier now later tail

/--
In a system that takes every action, all steps of a run are good exactly when
all are admitted, if a good step is an admitted one as long as the invariant
holds, and admitted steps keep it.
-/
theorem steps_iff {step : σ → α → σ} {holds : σ → Prop}
    {good admits : σ → α → Prop}
    (agree :
      ∀ state action, holds state →
        (good state action ↔ admits state action))
    (kept :
      ∀ state action, holds state → admits state action →
        holds (step state action))
    {state : σ} (start : holds state) (actions : List α) :
    (∀ earlier now later, actions = earlier ++ now :: later →
        good (earlier.foldl step state) now) ↔
      ∀ earlier now later, actions = earlier ++ now :: later →
        admits (earlier.foldl step state) now := by
  induction actions generalizing state with
  | nil => simp
  | cons action rest induction =>
      rw [steps_cons, steps_cons, agree state action start]
      exact and_congr_right fun admitted =>
        induction (kept state action start admitted)

/-- A run of total steps that are all admitted keeps an invariant. -/
theorem steps_invariant {step : σ → α → σ} {holds : σ → Prop}
    {admits : σ → α → Prop}
    (kept :
      ∀ state action, holds state → admits state action →
        holds (step state action))
    {state : σ} (start : holds state) {actions : List α}
    (admitted :
      ∀ earlier now later, actions = earlier ++ now :: later →
        admits (earlier.foldl step state) now) :
    holds (actions.foldl step state) := by
  induction actions generalizing state with
  | nil => exact start
  | cons action rest induction =>
      obtain ⟨first, others⟩ := steps_cons.mp admitted
      exact induction (kept state action start first) others

/-! ## Side conditions on the steps of a run -/

/--
The same system, with only those steps that meet a side condition on the
state before, the action and the state after.
-/
def restrict (step : σ → α → Option σ) (admits : σ → α → σ → Prop)
    [∀ state action next, Decidable (admits state action next)]
    (state : σ) (action : α) : Option σ :=
  (step state action).filter fun next => decide (admits state action next)

section Restrict

variable {step : σ → α → Option σ} {admits : σ → α → σ → Prop}
variable [∀ state action next, Decidable (admits state action next)]

theorem restrict_eq_some {state next : σ} {action : α} :
    restrict step admits state action = some next ↔
      step state action = some next ∧ admits state action next := by
  simp [restrict, Option.filter_eq_some_iff]

/-- A run of the restricted system is a run of the system. -/
theorem exec_of_restrict {state final : σ} {actions : List α}
    (run : exec (restrict step admits) state actions = some final) :
    exec step state actions = some final := by
  induction actions generalizing state with
  | nil => exact run
  | cons action rest induction =>
      obtain ⟨next, enabled, tail⟩ := exec_cons_eq_some.mp run
      exact exec_cons_eq_some.mpr
        ⟨next, (restrict_eq_some.mp enabled).1, induction tail⟩

/-- The invariant rule for runs all of whose steps meet the condition. -/
theorem restrict_invariant {holds : σ → Prop}
    (preserved :
      ∀ state action next, holds state →
        step state action = some next →
        admits state action next → holds next)
    {state final : σ} {actions : List α}
    (start : holds state)
    (run : exec (restrict step admits) state actions = some final) :
    holds final := by
  refine exec_invariant ?_ start run
  intro before action after before_holds enabled
  obtain ⟨stepped, admitted⟩ := restrict_eq_some.mp enabled
  exact preserved before action after before_holds stepped admitted

/--
A run stays within a side condition exactly when every state on its way is
good, if the condition is what a step needs to lead to a good state.
-/
theorem exec_restrict_iff {holds good : σ → Prop}
    (needed :
      ∀ state action next, holds state →
        step state action = some next → good next →
        admits state action next)
    (enough :
      ∀ state action next, holds state →
        step state action = some next →
        admits state action next → holds next)
    (implies : ∀ state, holds state → good state)
    {state final : σ} {actions : List α}
    (start : holds state)
    (run : exec step state actions = some final) :
    (∀ earlier middle, earlier <+: actions →
        exec step state earlier = some middle → good middle) ↔
      exec (restrict step admits) state actions = some final := by
  induction actions generalizing state with
  | nil =>
      constructor
      · intro _
        exact run
      · intro _ earlier middle isPrefix reached
        rw [List.prefix_nil.mp isPrefix] at reached
        cases reached
        exact implies state start
  | cons action rest induction =>
      obtain ⟨next, enabled, tail⟩ := exec_cons_eq_some.mp run
      constructor
      · intro all
        have reached : good next := by
          apply all [action] next
          · exact ⟨rest, rfl⟩
          · exact exec_cons_eq_some.mpr ⟨next, enabled, rfl⟩
        have admitted := needed state action next start enabled reached
        refine exec_cons_eq_some.mpr
          ⟨next, restrict_eq_some.mpr ⟨enabled, admitted⟩, ?_⟩
        apply (induction (enough _ _ _ start enabled admitted) tail).mp
        intro earlier middle isPrefix later
        apply all (action :: earlier) middle
        · exact List.cons_prefix_cons.mpr ⟨rfl, isPrefix⟩
        · exact exec_cons_eq_some.mpr ⟨next, enabled, later⟩
      · intro restricted earlier middle isPrefix reached
        obtain ⟨other, allowed, restrictedTail⟩ :=
          exec_cons_eq_some.mp restricted
        obtain ⟨stepped, admitted⟩ := restrict_eq_some.mp allowed
        obtain rfl : next = other :=
          Option.some.inj (enabled.symm.trans stepped)
        rcases List.prefix_cons_iff.mp isPrefix with rfl | ⟨before, rfl, within⟩
        · cases reached
          exact implies state start
        · obtain ⟨after, first, second⟩ := exec_cons_eq_some.mp reached
          obtain rfl : next = after :=
            Option.some.inj (enabled.symm.trans first)
          exact
            (induction (enough _ _ _ start enabled admitted) tail).mpr
              restrictedTail before middle within second

end Restrict

/-! ## Reaching a goal on every maximal run -/

/--
Every maximal run from this state reaches the goal after finitely many steps:
either it holds already, or some step is enabled and all enabled steps lead to
states from which it is inevitable.
-/
inductive Inevitable (step : σ → α → Option σ) (goal : σ → Prop) : σ → Prop
  | now {state : σ} (reached : goal state) : Inevitable step goal state
  | later {state : σ}
      (progress : ∃ action next, step state action = some next)
      (every :
        ∀ action next, step state action = some next →
          Inevitable step goal next) :
      Inevitable step goal state

/--
A goal is inevitable when, under an invariant, every step short of the goal
lowers a measure and no state short of the goal is stuck.
-/
theorem Inevitable.of_measure {step : σ → α → Option σ}
    {goal holds : σ → Prop} (measure : σ → Nat)
    (preserved :
      ∀ state action next, holds state → ¬ goal state →
        step state action = some next → holds next)
    (decreases :
      ∀ state action next, holds state → ¬ goal state →
        step state action = some next → measure next < measure state)
    (progress :
      ∀ state, holds state → ¬ goal state →
        ∃ action next, step state action = some next)
    {state : σ} (start : holds state) :
    Inevitable step goal state := by
  induction bound : measure state using Nat.strongRecOn generalizing state with
  | ind size induction =>
      by_cases reached : goal state
      · exact .now reached
      · refine .later (progress state start reached) ?_
        intro action next enabled
        have smaller : measure next < size :=
          bound ▸ decreases state action next start reached enabled
        exact induction (measure next) smaller
          (preserved state action next start reached enabled) rfl

theorem Inevitable.mono {step : σ → α → Option σ} {goal weaker : σ → Prop}
    (implies : ∀ state, goal state → weaker state)
    {state : σ} (inevitable : Inevitable step goal state) :
    Inevitable step weaker state := by
  induction inevitable with
  | now reached => exact .now (implies _ reached)
  | later progress _ induction => exact .later progress induction

/-- What is inevitable from every goal is inevitable. -/
theorem Inevitable.trans {step : σ → α → Option σ} {goal further : σ → Prop}
    (onward : ∀ state, goal state → Inevitable step further state)
    {state : σ} (inevitable : Inevitable step goal state) :
    Inevitable step further state := by
  induction inevitable with
  | now reached => exact onward _ reached
  | later progress _ induction => exact .later progress induction

end GpuNvme.Lib.Transition
