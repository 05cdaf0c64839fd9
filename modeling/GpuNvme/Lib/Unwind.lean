import Mathlib.Tactic.Common
import Mathlib.Data.List.TakeWhile

/-!
# Straight-line routines with error exits

The shape of most initialization code: a list of stages, each a call that may
fail.  A stage that succeeds leaves its effects behind and the next stage
follows; a stage that fails runs its own cleanup and the routine returns the
error.  Which stage fails is decided outside of the routine.

What such a routine does is determined by the stage it fails at, so a property
of all its runs is a property of finitely many traces.
-/

namespace GpuNvme.Lib.Unwind

/-- The first error of a list of stages, one stage at a time. -/
theorem findSome?_cons_or {ν φ : Type*} (fails : ν → Option φ) (first : ν)
    (rest : List ν) :
    (first :: rest).findSome? fails =
      (fails first).or (rest.findSome? fails) := by
  rw [List.findSome?_cons]
  cases fails first <;> rfl

/-- A routine over stages `ν`, effects `ε` and errors `φ`. -/
structure Routine (ν ε φ : Type*) where
  stages : List ν
  /-- The error a stage ends the routine with, if its call fails. -/
  fails : ν → Option φ
  effects : ν → List ε
  /-- What a failing stage does before the routine returns. -/
  unwind : ν → List ε

variable {ν ε φ : Type*}

namespace Routine

variable (r : Routine ν ε φ)

/-- The stages that were completed. -/
def performed : List ν :=
  r.stages.takeWhile fun stage => (r.fails stage).isNone

/-- The stage the routine fails at. -/
def failure : Option ν :=
  r.stages.find? fun stage => (r.fails stage).isSome

/-- The error the routine returns; `none` is success. -/
def error : Option φ :=
  r.failure.bind r.fails

/-- Everything the routine does. -/
def trace : List ε :=
  r.performed.flatMap r.effects ++ r.failure.toList.flatMap r.unwind

/-- The trace of the routine, were this the stage it fails at. -/
def traceTo [DecidableEq ν] : Option ν → List ε
  | none => r.stages.flatMap r.effects
  | some stage =>
      (r.stages.takeWhile (· ≠ stage)).flatMap r.effects ++ r.unwind stage

section

variable {r}

theorem failure_eq_none_iff :
    r.failure = none ↔ ∀ stage ∈ r.stages, r.fails stage = none := by
  simp [failure, List.find?_eq_none]

theorem failure_mem {stage : ν} (failed : r.failure = some stage) :
    stage ∈ r.stages :=
  List.mem_of_find?_eq_some failed

theorem fails_of_failure {stage : ν} (failed : r.failure = some stage) :
    ∃ code, r.fails stage = some code := by
  have answered : (r.fails stage).isSome :=
    List.find?_some (p := fun stage => (r.fails stage).isSome) failed
  exact Option.isSome_iff_exists.mp answered

theorem error_eq_none_iff : r.error = none ↔ r.failure = none := by
  constructor
  · intro succeeded
    by_contra failed
    obtain ⟨stage, found⟩ := Option.ne_none_iff_exists'.mp failed
    obtain ⟨code, fails⟩ := fails_of_failure found
    rw [error, found, Option.bind_some, fails] at succeeded
    cases succeeded
  · intro succeeded
    rw [error, succeeded]
    rfl

/-- The error is that of the first stage that has one. -/
theorem error_eq_findSome? : r.error = r.stages.findSome? r.fails := by
  unfold error failure
  induction r.stages with
  | nil => rfl
  | cons first rest induction =>
      cases answer : r.fails first with
      | none => simpa [List.find?_cons, answer] using induction
      | some error => simp [answer]

theorem performed_of_failure_none (succeeded : r.failure = none) :
    r.performed = r.stages := by
  refine List.takeWhile_eq_self_iff.mpr fun stage member => ?_
  rw [failure_eq_none_iff.mp succeeded stage member]
  rfl

/-- The stages before the first failure are those before the one found. -/
theorem takeWhile_of_find? [DecidableEq ν] {fails : ν → Option φ} {stage : ν}
    {stages : List ν}
    (found : (stages.find? fun other => (fails other).isSome) = some stage) :
    (stages.takeWhile fun other => (fails other).isNone) =
      stages.takeWhile (· ≠ stage) := by
  induction stages with
  | nil => rfl
  | cons first rest induction =>
      cases answer : fails first with
      | none =>
          have later :
              (rest.find? fun other => (fails other).isSome) = some stage := by
            simpa [List.find?_cons, answer] using found
          have other : first ≠ stage := by
            rintro rfl
            have failed := List.find?_some later
            simp [answer] at failed
          simp [answer, other, induction later]
      | some error =>
          have same : first = stage := by
            simpa [List.find?_cons, answer] using found
          subst same
          simp [answer]

/-- The completed stages are those before the stage that fails. -/
theorem performed_of_failure [DecidableEq ν] {stage : ν}
    (failed : r.failure = some stage) :
    r.performed = r.stages.takeWhile (· ≠ stage) :=
  takeWhile_of_find? failed

/-- Every stage before this one succeeds. -/
def Reached [DecidableEq ν] (r : Routine ν ε φ) (stage : ν) : Prop :=
  stage ∈ r.stages ∧
    ∀ before ∈ r.stages.takeWhile (· ≠ stage), r.fails before = none

/-- The first stage that fails is one that is reached and fails. -/
theorem failure_eq_some_iff [DecidableEq ν] {stage : ν} :
    r.failure = some stage ↔
      r.Reached stage ∧ (r.fails stage).isSome = true := by
  unfold failure Reached
  induction r.stages with
  | nil => simp
  | cons first rest induction =>
      by_cases same : first = stage
      · subst same
        cases answer : r.fails first <;> simp [answer]
        intro found
        simpa [answer] using List.find?_some found
      · have other : stage ≠ first := Ne.symm same
        cases answer : r.fails first with
        | none => simp [answer, same, other, induction]
        | some error => simp [answer, same]

theorem mem_performed_iff [DecidableEq ν] {stage : ν} :
    stage ∈ r.performed ↔ r.Reached stage ∧ r.fails stage = none := by
  unfold performed Reached
  induction r.stages with
  | nil => simp
  | cons first rest induction =>
      by_cases same : first = stage
      · subst same
        cases answer : r.fails first with
        | none => simp [answer]
        | some error => simp [answer]
      · have other : stage ≠ first := Ne.symm same
        cases answer : r.fails first with
        | none => simp [answer, same, other, induction]
        | some error => simp [answer, same]

/-- What holds of all that is done, by the stages it is done for. -/
theorem forall_mem_trace {property : ε → Prop} :
    (∀ effect ∈ r.trace, property effect) ↔
      (∀ stage ∈ r.performed, ∀ effect ∈ r.effects stage, property effect) ∧
        ∀ stage, r.failure = some stage →
          ∀ effect ∈ r.unwind stage, property effect := by
  unfold trace
  simp only [List.forall_mem_append, List.forall_mem_flatMap,
    Option.mem_toList]

/-- What a routine does depends on the stage it fails at and nothing else. -/
theorem trace_eq [DecidableEq ν] : r.trace = r.traceTo r.failure := by
  cases failed : r.failure with
  | none =>
      rw [trace, performed_of_failure_none failed, failed]
      simp [traceTo]
  | some stage =>
      rw [trace, performed_of_failure failed, failed]
      simp [traceTo]

end

end Routine

end GpuNvme.Lib.Unwind
