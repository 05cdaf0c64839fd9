import GpuNvme.Lib.Ledger
import GpuNvme.Lib.Unwind

/-!
# Routines that undo what they did

A routine each of whose stages acquires resources, and whose cleanup at a
stage releases those of the stages before it, last first.  Whatever stage it
fails at, it then leaves everything as it was.
-/

namespace GpuNvme.Lib.Ledger

variable {ρ : Type*} [DecidableEq ρ]

theorem settle_cons (held : List ρ) (entry : Entry ρ)
    (rest : List (Entry ρ)) :
    settle held (entry :: rest) =
      (entry.post held).bind fun after => settle after rest :=
  rfl

theorem settle_append (held : List ρ) (first second : List (Entry ρ)) :
    settle held (first ++ second) =
      (settle held first).bind fun after => settle after second := by
  induction first generalizing held with
  | nil => rfl
  | cons entry rest induction =>
      rw [List.cons_append, settle_cons, settle_cons, Option.bind_assoc]
      congr 1
      funext after
      exact induction after

theorem settle_acquire (held resources : List ρ) :
    settle held (resources.map .acquire) =
      some (resources.reverse ++ held) := by
  induction resources generalizing held with
  | nil => rfl
  | cons first rest induction =>
      rw [List.map_cons, settle_cons]
      simp [Entry.post, induction]

/-- What was acquired last is released first. -/
theorem settle_release (held resources : List ρ) :
    settle (resources ++ held) (resources.map .release) = some held := by
  induction resources with
  | nil => rfl
  | cons first rest induction =>
      rw [List.map_cons, settle_cons]
      simpa [Entry.post] using induction

/-- A release of something that is not held cannot be settled. -/
theorem settle_release_missing {held : List ρ} {resource : ρ}
    (missing : resource ∉ held) (rest : List (Entry ρ)) :
    settle held (.release resource :: rest) = none := by
  rw [settle_cons]
  simp [Entry.post, missing]

/-- Acquire some resources and release them, last first. -/
def bracket (resources : List ρ) : List (Entry ρ) :=
  resources.map .acquire ++ resources.reverse.map .release

theorem settle_bracket (held resources : List ρ) :
    settle held (bracket resources) = some held := by
  rw [bracket, settle_append, settle_acquire, Option.bind_some,
    settle_release]

/-- What is held below others can be released, whatever is above. -/
theorem settle_release_middle {front resources back : List ρ}
    (apart : ∀ resource ∈ resources, resource ∉ front) :
    settle (front ++ resources ++ back) (resources.map .release) =
      some (front ++ back) := by
  induction resources with
  | nil => rw [List.append_nil, List.map_nil, settle_nil]
  | cons first rest induction =>
      have absent := apart first List.mem_cons_self
      have erased : (front ++ first :: rest ++ back).erase first =
          front ++ rest ++ back := by
        rw [List.append_assoc, List.erase_append_right _ absent,
          List.cons_append, List.erase_cons_head, List.append_assoc]
      rw [List.map_cons, settle_cons, Entry.post, if_pos (by simp),
        Option.bind_some, erased]
      exact
        induction fun resource member =>
          apart resource (List.mem_cons_of_mem first member)

/-- In the middle of a bracket the first few of its resources are held. -/
theorem settle_bracket_prefix {held resources : List ρ}
    {ledger : List (Entry ρ)} (started : ledger <+: bracket resources) :
    ∃ kept, kept <+: resources ∧
      settle held ledger = some (kept.reverse ++ held) := by
  rw [List.prefix_iff_eq_take.mp started, bracket, List.take_append,
    ← List.map_take, ← List.map_take, settle_append, settle_acquire,
    Option.bind_some, List.length_map]
  rcases Nat.le_total ledger.length resources.length with early | late
  · refine ⟨resources.take ledger.length, List.take_prefix _ _, ?_⟩
    rw [Nat.sub_eq_zero_of_le early]
    rfl
  · -- All are acquired, and the last few released again.
    let released := ledger.length - resources.length
    refine ⟨(resources.reverse.drop released).reverse, ?_, ?_⟩
    · rw [← List.reverse_suffix, List.reverse_reverse]
      exact List.drop_suffix _ _
    · rw [List.take_of_length_le late, List.reverse_reverse]
      have parts : resources.reverse ++ held =
          resources.reverse.take released ++
            (resources.reverse.drop released ++ held) := by
        rw [← List.append_assoc, List.take_append_drop]
      rw [parts, settle_release]

/-! ## Ledgers about parts of the resources -/

/-- The same line, about another kind of resources. -/
def Entry.map {ρ ρ' : Type*} (rename : ρ → ρ') : Entry ρ → Entry ρ'
  | .acquire resource => .acquire (rename resource)
  | .release resource => .release (rename resource)

section Map

variable {ρ ρ' : Type*} (rename : ρ → ρ') (resources : List ρ)

theorem map_acquire :
    (resources.map .acquire).map (Entry.map rename) =
      (resources.map rename).map .acquire := by
  rw [List.map_map, List.map_map]
  rfl

theorem map_release :
    (resources.map .release).map (Entry.map rename) =
      (resources.map rename).map .release := by
  rw [List.map_map, List.map_map]
  rfl

theorem map_bracket :
    (bracket resources).map (Entry.map rename) =
      bracket (resources.map rename) := by
  rw [bracket, List.map_append, map_acquire, map_release, bracket,
    List.map_reverse]

end Map

end GpuNvme.Lib.Ledger

namespace GpuNvme.Lib.Unwind.Routine

open GpuNvme.Lib.Ledger

variable {ν ρ φ : Type*}

/-- The stages acquire, and do nothing else. -/
def Acquires (r : Routine ν (Entry ρ) φ) (acquires : ν → List ρ) : Prop :=
  ∀ stage ∈ r.stages, r.effects stage = (acquires stage).map .acquire

theorem Acquires.flatMap_effects {r : Routine ν (Entry ρ) φ}
    {acquires : ν → List ρ} (acquiring : r.Acquires acquires)
    {stages : List ν} (within : ∀ stage ∈ stages, stage ∈ r.stages) :
    stages.flatMap r.effects = (stages.flatMap acquires).map .acquire := by
  induction stages with
  | nil => rfl
  | cons first rest induction =>
      have later := fun stage member =>
        within stage (List.mem_cons_of_mem first member)
      rw [List.flatMap_cons, List.flatMap_cons, List.map_append,
        acquiring first (within first List.mem_cons_self), induction later]

section

variable [DecidableEq ν]
variable (r : Routine ν (Entry ρ) φ) (acquires : ν → List ρ)

/-- What the stages before this one acquire, in order. -/
def acquiredBefore (stage : ν) : List ρ :=
  (r.stages.takeWhile (· ≠ stage)).flatMap acquires

/-- The cleanup at a stage undoes the stages before it. -/
def UndoneAt (stage : ν) : Prop :=
  r.unwind stage =
    (r.acquiredBefore acquires stage).reverse.map .release

variable {r acquires}

/-- A routine that succeeds has acquired what its stages acquire. -/
theorem Acquires.trace_of_succeeded (acquiring : r.Acquires acquires)
    (succeeded : r.failure = none) :
    r.trace = (r.stages.flatMap acquires).map .acquire := by
  rw [trace_eq, succeeded, traceTo,
    acquiring.flatMap_effects fun _ member => member]

/-- Before the cleanup of a stage, what it may undo has been acquired. -/
theorem Acquires.trace_of_failed (acquiring : r.Acquires acquires)
    {stage : ν} (failed : r.failure = some stage) :
    r.trace =
      (r.acquiredBefore acquires stage).map .acquire ++ r.unwind stage := by
  have within : ∀ other ∈ r.stages.takeWhile (· ≠ stage), other ∈ r.stages :=
    fun _ member => (List.takeWhile_prefix _).subset member
  rw [trace_eq, failed, traceTo, acquiring.flatMap_effects within]
  rfl

/-- A routine that fails and undoes its stages is a bracket. -/
theorem Acquires.trace_of_undone (acquiring : r.Acquires acquires)
    {stage : ν} (failed : r.failure = some stage)
    (undone : r.UndoneAt acquires stage) :
    r.trace = bracket (r.acquiredBefore acquires stage) := by
  rw [acquiring.trace_of_failed failed, undone, bracket]

end

end GpuNvme.Lib.Unwind.Routine
